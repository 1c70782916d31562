import Breakpoints.Regex.Basic

/-!
Sizes of automata that read the bytes of a text.  A state takes 32 bytes; a fork takes 4 more for
each of its branches, and a choice among byte ranges 8 more for each range.  Alternatives that are
all literal make a tree of texts, in which a common beginning is read once.
-/

namespace Breakpoints.Regex

/-- The size of a part of an automaton: the number of its states, and its size in bytes. -/
structure Footprint where
  states : Nat
  bytes : Nat
deriving DecidableEq, Repr, Inhabited

namespace Footprint

/-- The largest automaton. -/
def maxBytes : Nat := 0xA00000

def zero : Footprint := ⟨0, 0⟩

/-- Adds states without branches. -/
def plain (f : Footprint) (count : Nat) : Footprint :=
  ⟨f.states + count, f.bytes + 32 * count⟩

/-- Adds a state with a number of branches. -/
def fork (f : Footprint) (branches : Nat) : Footprint :=
  ⟨f.states + 1, f.bytes + 32 + 4 * branches⟩

/-- Adds a state that chooses among byte ranges. -/
def choice (f : Footprint) (ranges : Nat) : Footprint :=
  ⟨f.states + 1, f.bytes + 32 + 8 * ranges⟩

/-- Adds another part. -/
def beside (f g : Footprint) : Footprint :=
  ⟨f.states + g.states, f.bytes + g.bytes⟩

/-- Takes a step a number of times, but not further once the automaton is too large. -/
def repeated (f : Footprint) (count : Nat) (step : Footprint → Footprint) : Footprint :=
  match count with
  | 0 => f
  | n + 1 => if maxBytes < f.bytes then f else repeated (step f) n step

end Footprint

/-- The texts at a node of a tree of texts, in rows that end where a text ends at the node.  Texts
that end there before any other goes on make one row. -/
def nodeRows (texts : List (List Nat)) : List (List (List Nat)) :=
  let (rows, row, _) := texts.foldl (fun (rows, row, goesOn) text =>
    if !text.isEmpty then (rows, text :: row, true)
    else if !goesOn && !rows.isEmpty then (rows, row, goesOn)
    else (row.reverse :: rows, [], goesOn)) (([] : List (List (List Nat))), [], false)
  (row.reverse :: rows).reverse

/-- The rests of the texts of a row by their first byte. -/
def rowBranches (row : List (List Nat)) : List (List (List Nat)) :=
  (row.filterMap List.head?).eraseDups.map fun b =>
    row.filterMap fun text => if text.head? = some b then some text.tail else none

/-- The size of a tree of texts no longer than `depth`.  A node forks to its rows, and past every
row but the last to the end; nothing is built where no text goes on. -/
def treeFootprint : Nat → List (List Nat) → Footprint
  | 0, _ => .zero
  | depth + 1, texts =>
    let rows := nodeRows texts
    let full := (rows.filter fun row => !row.isEmpty).map rowBranches
    if full.isEmpty then .zero
    else
      let node := full.foldl (fun f branches =>
        if branches.length = 1 then f.plain 1 else f.choice branches.length)
        (Footprint.zero.fork (full.length + rows.length - 1))
      full.flatten.foldl (fun f rests => f.beside (treeFootprint depth rests)) node

/-- The size of alternatives that are all literal. -/
def textsFootprint (texts : List (List Nat)) : Footprint :=
  let depth := texts.foldl (fun n text => max n text.length) 0
  (treeFootprint depth texts).plain 1

end Breakpoints.Regex
