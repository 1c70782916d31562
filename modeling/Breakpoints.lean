import Breakpoints.Feed
import Breakpoints.Json.Writer
import Breakpoints.Proofs.Breakpoint.Hits
import Breakpoints.Proofs.GroupTree.Membership
import Breakpoints.Proofs.Kit
import Breakpoints.Proofs.Registry.Change
import Breakpoints.Proofs.Registry.Membership
import Breakpoints.Proofs.Registry.Mirror
import Breakpoints.Proofs.Registry.Run
import Breakpoints.Proofs.Table
import Breakpoints.Proofs.Target.History
import Breakpoints.Registry.Editing
import Breakpoints.Registry.Grouping
import Breakpoints.Registry.Records
import Breakpoints.Spec.Checked
import Breakpoints.Target.Scripted
import Breakpoints.Text.Quoted
import Breakpoints.ThreadGroup.Search
import Breakpoints.Wire.Event
import Breakpoints.Wire.Group
import Breakpoints.Wire.Record
import Breakpoints.Wire.Settings
import Breakpoints.Wire.Spec
import Breakpoints.Proofs.Registry.Expiry
import Breakpoints.Proofs.Registry.Deferred
import Breakpoints.Proofs.Name
import Breakpoints.Proofs.Spec.Grammar
import Breakpoints.Proofs.GroupTree.Shape
import Breakpoints.Proofs.GroupTree.Subtree
import Breakpoints.Proofs.GroupTree.Path
import Breakpoints.Proofs.Filter
import Breakpoints.Proofs.Registry.Upkeep
import Breakpoints.Proofs.Registry.Restoration
import Breakpoints.Proofs.GroupTree.Edits
import Breakpoints.Proofs.Registry.Gone
import Breakpoints.Proofs.Registry.Refused
import Breakpoints.Proofs.Registry.Failed
import Breakpoints.Proofs.GroupTree.Chain
import Breakpoints.Proofs.Registry.Switch
import Breakpoints.Proofs.Registry.Effect
import Breakpoints.Proofs.Registry.Apart
import Breakpoints.Proofs.SourceKey
import Breakpoints.Proofs.Wire
import Breakpoints.Proofs.Spec.Prefix
import Breakpoints.Proofs.SourceFile
import Breakpoints.Proofs.Target.Connected
import Breakpoints.Proofs.Breakpoint.Effects
import Breakpoints.Proofs.Overload
import Breakpoints.Proofs.Registry.Pending
import Breakpoints.Proofs.GroupTree.Growth
import Breakpoints.Proofs.GroupTree.Address
import Breakpoints.Proofs.Registry.Restored
import Breakpoints.Proofs.Registry.Removal
import Breakpoints.Proofs.Registry.Created
import Breakpoints.Proofs.Registry.Unloading
import Breakpoints.Proofs.Feed.Task
import Breakpoints.Proofs.Registry.Session
import Breakpoints.Proofs.Glob
import Breakpoints.Proofs.Registry.Respelling
import Breakpoints.Proofs.Spec.Printed
import Breakpoints.Proofs.Target.Line
import Breakpoints.Proofs.GroupTree.Traversal
import Breakpoints.Proofs.ThreadGroup.Search
import Breakpoints.Proofs.Registry.Asked
