import Breakpoints.Regex.Footprint.Basic
import Breakpoints.Regex.Footprint.Memory

/-!
The states that read one character of a set.  Forwards they make a tree of byte ranges in which
nodes that go on alike are one; read backwards, the sequences of the set share the ranges that come
last.  Either holds as far as a memory of fixed size recalls the states of the present set, and
depends on their numbers in the whole automaton.
-/

namespace Breakpoints.Regex

open Text (CharTable)

/-- The order in which an automaton reads the bytes of a text. -/
inductive Direction where
  | forwards
  | backwards
deriving DecidableEq, Repr

/-- A set of ASCII characters only. -/
def isAscii (members : CharTable) : Bool :=
  members.all fun range => range.2 < 0x80

/-- The sequences at a node by their first range, each with what is left of its sequences. -/
def byFirst (sequences : List (List (Nat × Nat))) :
    List ((Nat × Nat) × List (List (Nat × Nat))) :=
  (sequences.splitBy fun s t => s.head? == t.head?).filterMap fun sequences =>
    (sequences.head?.bind List.head?).map fun range => (range, sequences.map List.tail)

namespace Footprint

/-- Adds the node of a tree of sequences no longer than `depth` after the nodes below it; its state
comes with the result.  All sequences end at one target. -/
def addNode (target : Nat) :
    Nat → List (List (Nat × Nat)) → Footprint × StateMemory → Nat × Footprint × StateMemory
  | 0, _, built => (target, built)
  | depth + 1, sequences, built =>
    match byFirst sequences with
    | [] => (target, built)
    | branches =>
      let (edges, f, memory) := branches.foldl (fun (edges, built) (range, rests) =>
        let (next, built) := addNode target depth rests built
        ([range.1, range.2, next] :: edges, built)) ([], built)
      let key := edges.reverse.flatten
      match memory.known? key with
      | some state => (state, f, memory)
      | none => (f.states, f.choice edges.length, memory.learn key f.states)

/-- Adds the states for a sequence of ranges that leads to a target, first range next to it. -/
def addSequence (target : Nat) :
    List (Nat × Nat) → Footprint × StateMemory → Footprint × StateMemory
  | [], built => built
  | range :: rest, (f, memory) =>
    let key := [target, range.1, range.2]
    match memory.known? key with
    | some state => addSequence state rest (f, memory)
    | none => addSequence f.states rest (f.plain 1, memory.learn key f.states)

/-- Adds one character of a set, unless the automaton is too large without it. -/
def addSet (direction : Direction) (f : Footprint) (members : CharTable) : Footprint :=
  if maxBytes < f.bytes then f
  else if isAscii members then (f.plain 1).choice members.length
  else
    let sequences := Text.byteSequences members
    match direction with
    | .forwards => (addNode f.states 4 sequences (f.plain 1, .empty 10000)).2.1
    | .backwards =>
      let start := f.fork sequences.length
      (sequences.foldl (fun built sequence => addSequence start.states sequence built)
        (start.plain 1, .empty 1000)).1

end Footprint

end Breakpoints.Regex
