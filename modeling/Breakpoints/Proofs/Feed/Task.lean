import Breakpoints.Proofs.Feed.Log
import Breakpoints.Target.Scripted

/-!
The task behind a feed.  It shares nothing with the feed's users but channels: events go to it
through one of them and the signal to stop through another, reports come back through a third, and
every event has a channel for its outcome.  The task takes its turns whenever it likes.  However
these fall between what the users do, the answers are those of the feed.
-/

namespace Breakpoints

/-- A channel that holds so many values at most, and hands them out in the order they came. -/
structure Channel (α : Type) where
  capacity : Nat
  waiting : List α
  /-- Whether the receiver is there. -/
  isOpen : Bool

inductive SendFailure where
  | full
  | closed

namespace Channel

variable {α : Type}

def create (capacity : Nat) : Channel α :=
  ⟨capacity, [], true⟩

/-- Sends a value, if the receiver is there and there is room. -/
def trySend (c : Channel α) (value : α) : Except SendFailure (Channel α) :=
  if !c.isOpen then .error .closed
  else if c.waiting.length < c.capacity then .ok { c with waiting := c.waiting ++ [value] }
  else .error .full

/-- The oldest value. -/
def receive? (c : Channel α) : Option (α × Channel α) :=
  match c.waiting with
  | [] => none
  | value :: waiting => some (value, { c with waiting })

/-- All values have been received. -/
def emptied (c : Channel α) : Channel α :=
  { c with waiting := [] }

/-- The receiver goes away, and what waits for it is lost. -/
def close (c : Channel α) : Channel α :=
  { c with waiting := [], isOpen := false }

end Channel

/-- The channel for the outcome of one event. -/
inductive Reply where
  | awaited
  | answered (outcome : FeedOutcome)
  /-- The task dropped the event unanswered. -/
  | dropped

/-- What the one who waits for a reply gets. -/
def Reply.outcome? : Reply → Option (Except Failure FeedOutcome)
  | awaited => none
  | answered outcome => some (.ok outcome)
  | dropped => some (.error .feedClosed)

structure FeedTask (τ : Type) where
  events : Channel TargetEvent
  stops : Channel Unit
  reports : Channel HitReport
  /-- The reply to the event that was sent last. -/
  reply : Reply
  registry : Registry τ

namespace FeedTask

variable {τ : Type}

/-- A task that has just been started. -/
def spawn (m : Registry τ) : FeedTask τ where
  events := .create (max m.settings.eventBuffer 1)
  stops := .create 1
  reports := .create (max m.settings.reportBuffer 1)
  reply := .dropped
  registry := m

/-- The task ends, and the events that it has not taken are dropped. -/
def finish (t : FeedTask τ) : FeedTask τ :=
  { t with
    events := t.events.close
    stops := t.stops.close
    reply := if t.events.waiting.isEmpty then t.reply else .dropped }

/-- A report is published if there is room for it and somebody receives it. -/
def publish (reports : Channel HitReport) : FeedOutcome → Channel HitReport
  | .hit report =>
    match reports.trySend report with
    | .ok reports => reports
    | .error _ => reports
  | .structural _ => reports

section Steps

variable [Target τ]

/-- The next thing that the task does, if there is any.  The signal to stop goes first. -/
def turn (t : FeedTask τ) : Option (List Call × FeedTask τ) :=
  if !t.events.isOpen then none
  else match t.stops.receive? with
    | some _ => some ([], t.finish)
    | none =>
      match t.events.receive? with
      | none => none
      | some (event, events) =>
        let (outcome, calls, registry) := t.registry.dispatch event
        some (calls,
          { t with
            events
            reports := publish t.reports outcome
            reply := .answered outcome
            registry })

/-- The task takes some turns. -/
inductive Turns : FeedTask τ → List Call → FeedTask τ → Prop where
  | none (t : FeedTask τ) : Turns t [] t
  | turn {t t₁ t' : FeedTask τ} {calls later : List Call} : t.turn = some (calls, t₁) →
      Turns t₁ later t' → Turns t (calls ++ later) t'

/-- What a user does comes to an end with an answer, while the task takes its turns.  An event and
the signal to stop have to wait while their channels are full. -/
inductive Serves : FeedTask τ → FeedStep → FeedAnswer → List Call → FeedTask τ → Prop where
  | refused {t t' : FeedTask τ} {event : TargetEvent} {calls : List Call} : Turns t calls t' →
      t'.events.trySend event = .error .closed →
      Serves t (.deliver event) (.delivered (.error .feedClosed)) calls t'
  | delivered {t t₁ t' : FeedTask τ} {event : TargetEvent} {events : Channel TargetEvent}
      {outcome : Except Failure FeedOutcome} {calls later : List Call} : Turns t calls t₁ →
      t₁.events.trySend event = .ok events →
      Turns { t₁ with events, reply := .awaited } later t' →
      t'.reply.outcome? = some outcome →
      Serves t (.deliver event) (.delivered outcome) (calls ++ later) t'
  | drained {t t' : FeedTask τ} {calls : List Call} : Turns t calls t' →
      Serves t .drain (.drained t'.reports.waiting) calls
        { t' with reports := t'.reports.emptied }
  | listenerDropped {t t' : FeedTask τ} {calls : List Call} : Turns t calls t' →
      Serves t .dropListener .done calls { t' with reports := t'.reports.close }
  | stopping {t t' : FeedTask τ} {stops : Channel Unit} {calls : List Call} : Turns t calls t' →
      t'.stops.trySend () = .ok stops → Serves t .shutdown .done calls { t' with stops }
  | stopped {t t' : FeedTask τ} {calls : List Call} : Turns t calls t' →
      t'.stops.trySend () = .error .closed → Serves t .shutdown .done calls t'

end Steps

/-- A task between two steps, and the feed and the registry that it stands for.  The feed has ended
when the signal to stop was sent, which the task need not have noticed yet. -/
structure Matches (feed : Feed) (m : Registry τ) (t : FeedTask τ) : Prop where
  registry : t.registry = m
  reports : t.reports = ⟨feed.capacity, feed.waiting, feed.listening⟩
  running : feed.running = (t.events.isOpen && t.stops.waiting.isEmpty)
  idle : t.events.waiting = []
  room : 0 < t.events.capacity
  stoppable : 0 < t.stops.capacity
  stops_isOpen : t.stops.isOpen = t.events.isOpen

variable {feed : Feed} {m : Registry τ} {t t' : FeedTask τ} {calls : List Call}

namespace Matches

/-- A task that ends when it was told to still stands for the same feed. -/
theorem finish (h : Matches feed m t) (hstopped : feed.running = false) :
    Matches feed m t.finish where
  registry := h.registry
  reports := h.reports
  running := hstopped
  idle := rfl
  room := h.room
  stoppable := h.stoppable
  stops_isOpen := rfl

variable [Target τ]

/-- Between two steps there is nothing to do but to end. -/
theorem turn_eq (h : Matches feed m t) (hturn : t.turn = some (calls, t')) :
    calls = [] ∧ Matches feed m t' ∧ t'.reply = t.reply := by
  have hnone : t.events.receive? = none := by rw [Channel.receive?, h.idle]
  rw [turn, hnone] at hturn
  split at hturn
  · contradiction
  next hopen =>
    cases hstops : t.stops.waiting with
    | nil =>
        rw [Channel.receive?, hstops] at hturn
        contradiction
    | cons signal signals =>
        have hstopped : feed.running = false := by simp [h.running, hstops]
        rw [Channel.receive?, hstops] at hturn
        cases hturn
        refine ⟨rfl, h.finish hstopped, ?_⟩
        rw [FeedTask.finish, h.idle]
        rfl

theorem turns (h : Matches feed m t) (hturns : Turns t calls t') :
    calls = [] ∧ Matches feed m t' ∧ t'.reply = t.reply := by
  induction hturns with
  | none t => exact ⟨rfl, h, rfl⟩
  | turn hturn _ ih =>
      obtain ⟨rfl, hnext, hreply⟩ := h.turn_eq hturn
      obtain ⟨rfl, hmatches, hreply'⟩ := ih hnext
      exact ⟨rfl, hmatches, hreply'.trans hreply⟩

end Matches

end FeedTask

end Breakpoints
