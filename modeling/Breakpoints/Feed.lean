import Breakpoints.Registry.Hit

/-!
A feed takes the target's events one at a time, hands them to the registry, and keeps the reports
of hits for a listener.  It keeps a limited number of them; further reports are lost.
-/

namespace Breakpoints

structure Feed where
  capacity : Nat
  /-- Reports that the listener has not taken yet, oldest first. -/
  waiting : List HitReport
  listening : Bool
  running : Bool
deriving DecidableEq, Repr

/-- What came of one event. -/
inductive FeedOutcome where
  | hit (report : HitReport)
  | structural (failures : List (Nat × Failure))
deriving DecidableEq, Repr

namespace Feed

/-- A running feed with a listener.  It keeps at least one report. -/
def start (settings : Settings) : Feed :=
  ⟨max settings.reportBuffer 1, [], true, true⟩

/-- Keeps a report for the listener, if there is one and there is room. -/
def publish (feed : Feed) (report : HitReport) : Feed :=
  if feed.listening && feed.waiting.length < feed.capacity then
    { feed with waiting := feed.waiting ++ [report] }
  else feed

/-- The reports that wait, which are gone from the feed afterwards. -/
def drain (feed : Feed) : List HitReport × Feed :=
  (feed.waiting, { feed with waiting := [] })

/-- The listener goes away, and what waits for it is lost. -/
def dropListener (feed : Feed) : Feed :=
  { feed with listening := false, waiting := [] }

/-- Ends the feed.  Reports that wait can still be taken. -/
def shutdown (feed : Feed) : Feed :=
  { feed with running := false }

/-- Hands one event to the registry.  The calls are those of the checks and monitors that a hit
caused. -/
def deliver {τ : Type} [Target τ] (feed : Feed) (m : Registry τ) (event : TargetEvent) :
    Except Failure FeedOutcome × List Call × Feed × Registry τ :=
  if !feed.running then (.error .feedClosed, [], feed, m)
  else match event with
    | .hit request state =>
      let (report, calls, m) := m.onHit request state
      (.ok (.hit report), calls, feed.publish report, m)
    | change =>
      let (failures, m) := m.onStructuralChange change
      (.ok (.structural failures), [], feed, m)

end Feed

end Breakpoints
