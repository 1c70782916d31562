import Std.Data.HashMap

/-!
A memory of states with a fixed number of places.  A state is kept under a key at the place that a
hash of the key names, and forgets the state that was there before.
-/

namespace Breakpoints.Regex

/-- The states that are recalled: at each place a key with its state. -/
structure StateMemory where
  size : Nat
  entries : Std.HashMap Nat (List Nat × Nat)

namespace StateMemory

def empty (size : Nat) : StateMemory :=
  ⟨size, ∅⟩

/-- One step of the hash. -/
def mix (h : UInt64) (n : Nat) : UInt64 :=
  (h ^^^ n.toUInt64) * 0x100000001B3

/-- The place of a key. -/
def place (memory : StateMemory) (key : List Nat) : Nat :=
  (key.foldl mix 0xCBF29CE484222325).toNat % memory.size

/-- The state of a key, if it is recalled. -/
def known? (memory : StateMemory) (key : List Nat) : Option Nat :=
  match memory.entries[memory.place key]? with
  | some (other, state) => if other == key then some state else none
  | none => none

/-- Recalls a state, and no longer the one that was in its place. -/
def learn (memory : StateMemory) (key : List Nat) (state : Nat) : StateMemory :=
  { memory with entries := memory.entries.insert (memory.place key) (key, state) }

end StateMemory

end Breakpoints.Regex
