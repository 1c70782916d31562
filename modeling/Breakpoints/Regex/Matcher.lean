import Breakpoints.Regex.CharSets
import Breakpoints.Regex.Program

/-!
Matching: all ways through a program are followed side by side, one character at a time, and each
step counts once at each position.
-/

namespace Breakpoints

/-- Whether a condition holds between two characters; either is absent at an end of the text. -/
def Assertion.holds (a : Assertion) (before after : Option Char) : Bool :=
  let wordBefore := before.any Regex.isWordChar
  let wordAfter := after.any Regex.isWordChar
  match a with
  | textStart => before.isNone
  | textEnd => after.isNone
  | lineStart => before.isNone || before == some '\n'
  | lineEnd => after.isNone || after == some '\n'
  | boundary => wordBefore != wordAfter
  | noBoundary => wordBefore == wordAfter
  | wordStart => !wordBefore && wordAfter
  | wordEnd => wordBefore && !wordAfter
  | noWordBefore => !wordBefore
  | noWordAfter => !wordAfter

namespace Regex

/-- What is known once the steps at a position are reached.  `marks` holds, for every step, the
last position at which it was reached; `waiting` are the sets of the steps that take a character,
each with the step after it. -/
structure Front where
  accepted : Bool
  marks : Array Nat
  waiting : List (Text.CharTable × Nat)

/-- The number of steps that were not reached at a position. -/
def unreached (marks : Array Nat) (position : Nat) : Nat :=
  marks.countP (· != position)

theorem unreached_set {marks : Array Nat} {position i : Nat} (h : i < marks.size)
    (hne : marks[i] ≠ position) :
    unreached (marks.set i position) position < unreached marks position := by
  have hpos : 0 < marks.countP (· != position) :=
    Array.countP_pos_iff.mpr ⟨marks[i], Array.getElem_mem h, bne_iff_ne.mpr hne⟩
  have hi : (marks[i] != position) = true := bne_iff_ne.mpr hne
  have hp : ¬(position != position) = true := fun h => bne_iff_ne.mp h rfl
  rw [unreached, unreached, Array.countP_set h, if_pos hi, if_neg hp]
  omega

namespace Program

/-- Reaches the pending steps of a position and those that follow without taking a character, each
once, until one accepts. -/
def reach (p : Program) (position : Nat) (holds : Assertion → Bool) (marks : Array Nat)
    (waiting : List (Text.CharTable × Nat)) (pending : List Nat) : Front :=
  match pending with
  | [] => ⟨false, marks, waiting⟩
  | i :: pending =>
    if h : i < marks.size then
      if hne : marks[i] = position then reach p position holds marks waiting pending
      else
        have := unreached_set h hne
        let marks' := marks.set i position
        match p.steps[i]? with
        | some .accept => ⟨true, marks', waiting⟩
        | some (.take members next) =>
          reach p position holds marks' ((members, next) :: waiting) pending
        | some (.check a next) =>
          reach p position holds marks' waiting (if holds a then next :: pending else pending)
        | some (.fork first second) =>
          reach p position holds marks' waiting (first :: second :: pending)
        | none => reach p position holds marks' waiting pending
    else reach p position holds marks waiting pending
termination_by (unreached marks position, pending.length)

/-- Whether a match that is under way, or one that begins later, ends in the rest of a text.
`pending` are the steps that matches under way have come to. -/
def accepts (p : Program) (marks : Array Nat) (position : Nat) (before : Option Char)
    (pending : List Nat) : List Char → Bool
  | [] =>
    (p.reach position (·.holds before none) marks [] (p.start :: pending)).accepted
  | c :: rest =>
    let front := p.reach position (·.holds before (some c)) marks [] (p.start :: pending)
    front.accepted ||
      accepts p front.marks (position + 1) (some c)
        (front.waiting.filterMap fun (members, next) => if members.has c then some next else none)
        rest

/-- Whether a text contains a match. -/
def isFoundIn (p : Program) (text : String) : Bool :=
  p.accepts (Array.replicate p.steps.size 0) 1 none [] text.toList

end Program

end Regex

end Breakpoints
