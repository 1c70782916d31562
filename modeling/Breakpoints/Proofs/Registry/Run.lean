import Breakpoints.Registry.Editing
import Breakpoints.Registry.Grouping
import Breakpoints.Registry.Hit
import Breakpoints.Registry.Records

/-!
Runs of a registry.  A run is any row of moves: calls of the registry's operations, whether they
succeed or fail, events and hits of the target, and changes that the target makes by itself.
-/

namespace Breakpoints

/-- One thing that happens to a registry whose target has states `τ`. -/
inductive Move (τ : Type) where
  | createIn (raw : String) (group : Nat)
  | createSpec (spec : Spec) (group : Nat)
  | restore (record : Record)
  | resolve (id : Nat)
  | resolveAll
  | event (event : TargetEvent)
  | hit (request : Int) (state : TargetState)
  | destroy (id : Nat)
  | setEnabled (id : Nat) (enabled : Bool)
  | setSkipCount (id skipCount : Nat)
  | setExpireCount (id expireCount : Nat)
  | setDeleteOnExpire (id : Nat) (deleteOnExpire : Bool)
  | setPolicy (id : Nat) (policy : SuspendPolicy)
  | setClassFilters (id : Nat) (text : Option String)
  | setThreadFilters (id : Nat) (text : Option String)
  | attachCondition (id : Nat) (condition : Condition)
  | addCondition (id : Nat) (expression : String)
  | removeCondition (id index : Nat)
  | attachMonitor (id : Nat) (monitor : Monitor)
  | addMonitor (id : Nat) (command : String)
  | removeMonitor (id : Nat) (text : String)
  | setProperty (id : Nat) (key : String) (value : Json)
  | removeProperty (id : Nat) (key : String)
  | reset (id : Nat)
  | resetAll
  | createGroup (name : String) (parent : Nat)
  | moveGroup (group parent : Nat)
  | setGroupEnabled (group : Nat) (enabled : Bool)
  | moveBreakpoint (id group : Nat)
  | removeGroup (group : Nat)
  /-- The target changes by itself, for instance by loading a class. -/
  | outside (change : τ → τ)

namespace Registry

variable {τ : Type} [Target τ]

/-- The registry after one move; what the move answers is left out. -/
def step (m : Registry τ) : Move τ → Registry τ
  | .createIn raw group => (m.createIn raw group).2
  | .createSpec spec group => (m.createSpec spec group).2
  | .restore record => (m.restore record).2
  | .resolve id => (m.resolve id).2
  | .resolveAll => m.resolveAll.2
  | .event event => (m.onStructuralChange event).2
  | .hit request state => (m.onHit request state).2.2
  | .destroy id => (m.destroy id).2
  | .setEnabled id enabled => (m.setEnabled id enabled).2
  | .setSkipCount id skipCount => (m.setSkipCount id skipCount).2
  | .setExpireCount id expireCount => (m.setExpireCount id expireCount).2
  | .setDeleteOnExpire id deleteOnExpire => (m.setDeleteOnExpire id deleteOnExpire).2
  | .setPolicy id policy => (m.setPolicy id policy).2
  | .setClassFilters id text => (m.setClassFilters id text).2
  | .setThreadFilters id text => (m.setThreadFilters id text).2
  | .attachCondition id condition => (m.attachCondition id condition).2
  | .addCondition id expression => (m.addCondition id expression).2
  | .removeCondition id index => (m.removeCondition id index).2
  | .attachMonitor id monitor => (m.attachMonitor id monitor).2
  | .addMonitor id command => (m.addMonitor id command).2
  | .removeMonitor id text => (m.removeMonitor id text).2
  | .setProperty id key value => (m.setProperty id key value).2
  | .removeProperty id key => (m.removeProperty id key).2
  | .reset id => (m.reset id).2
  | .resetAll => m.resetAll
  | .createGroup name parent => (m.createGroup name parent).2
  | .moveGroup group parent => (m.moveGroup group parent).2
  | .setGroupEnabled group enabled => (m.setGroupEnabled group enabled).2
  | .moveBreakpoint id group => (m.moveBreakpoint id group).2
  | .removeGroup group => (m.removeGroup group).2
  | .outside change => { m with target := change m.target }

/-- The registry after a row of moves. -/
def run (m : Registry τ) (moves : List (Move τ)) : Registry τ :=
  moves.foldl step m

@[simp] theorem run_cons (m : Registry τ) (move : Move τ) (moves : List (Move τ)) :
    m.run (move :: moves) = (m.step move).run moves := rfl

theorem run_append (m : Registry τ) (before after : List (Move τ)) :
    m.run (before ++ after) = (m.run before).run after :=
  List.foldl_append

end Registry

end Breakpoints
