/-!
JSON values, and the decoding of values into domain types.

A record may be written as an object, whose members are found by name, or as an array, whose items
are the fields in their declared order.  A missing object member is an absent optional field.
-/

namespace Breakpoints

/-- A JSON value.  Whole numbers that fit a signed or unsigned 64-bit word are `int`; every other
numeral keeps its text.  `garbled` is text of the right form that stands for no value: a string
whose escapes spell no characters, or an object with such a string as a name. -/
inductive Json where
  | null
  | bool (b : Bool)
  | int (n : Int)
  | real (text : String)
  | str (s : String)
  | garbled
  | arr (items : List Json)
  | obj (members : List (String × Json))
deriving Inhabited

namespace Json

def nat (n : Nat) : Json := .int n

/-- An optional value, `null` when absent. -/
def opt {α : Type} (encode : α → Json) : Option α → Json
  | none => .null
  | some a => encode a

def strings (l : List String) : Json := .arr (l.map .str)

def nats (l : List Nat) : Json := .arr (l.map nat)

def bool? : Json → Option Bool
  | .bool b => some b
  | _ => none

def str? : Json → Option String
  | .str s => some s
  | _ => none

/-- A whole number from zero to `bound`. -/
def nat? (bound : Nat) : Json → Option Nat
  | .int (.ofNat n) => if n ≤ bound then some n else none
  | _ => none

/-- A whole number of a signed 32-bit word. -/
def int32? : Json → Option Int
  | .int n => if -0x80000000 ≤ n ∧ n < 0x80000000 then some n else none
  | _ => none

def list? {α : Type} (decode : Json → Option α) : Json → Option (List α)
  | .arr items => items.mapM decode
  | _ => none

/-- `null` is the absent value. -/
def option? {α : Type} (decode : Json → Option α) : Json → Option (Option α)
  | .null => some none
  | j => (decode j).map some

/-- The name of a choice without content: a string, or an object with that single name at `null`. -/
def choice? : Json → Option String
  | .str s => some s
  | .obj [(s, .null)] => some s
  | _ => none

/-- The member called `name`; of two with one name the later one counts. -/
def member? (members : List (String × Json)) (name : String) : Option Json :=
  (members.reverse.find? fun m => m.1 == name).map (·.2)

/-- The fields of a record by name. -/
abbrev Fields := String → Option Json

/-- The fields of a record with the given names, of which an array holds at least `least`. -/
def fieldsFrom? (least : Nat) (names : List String) : Json → Option Fields
  | .obj members => some (member? members)
  | .arr items =>
    if least ≤ items.length ∧ items.length ≤ names.length then
      some fun name => (names.idxOf? name).bind fun i => items[i]?
    else none
  | _ => none

/-- The fields of a record, of which an array holds all. -/
def fields? (names : List String) (j : Json) : Option Fields :=
  j.fieldsFrom? names.length names

namespace Fields

variable {α : Type}

def required (f : Fields) (name : String) (decode : Json → Option α) : Option α :=
  (f name).bind decode

def optional (f : Fields) (name : String) (decode : Json → Option α) : Option (Option α) :=
  match f name with
  | none => some none
  | some j => j.option? decode

/-- A field that has the value `default` when it is missing; `null` is no missing field. -/
def orElse (f : Fields) (name : String) (decode : Json → Option α) (default : α) : Option α :=
  match f name with
  | none => some default
  | some j => decode j

end Fields

/-- The tag and the content of a tagged record: the member `tagName` of an object, which keeps
all its members, or the first item of an array, which loses it. -/
def tagged? (tagName : String) : Json → Option (String × Json)
  | .obj members => do
    let tag ← (member? members tagName).bind str?
    some (tag, .obj members)
  | .arr (.str tag :: items) => some (tag, .arr items)
  | _ => none

end Json

end Breakpoints
