import Breakpoints.Regex.Footprint.Sets

/-!
The size of the automaton of an expression.  The size of a set depends on how many states there are
before it, so all states are added in order.
-/

namespace Breakpoints.Regex

/-- Every match takes at least one character. -/
def isProper (r : Regex) : Bool :=
  r.leastLength?.any (0 < ·)

mutual

/-- Adds the states of an expression.  Forwards, a group keeps where it begins and ends. -/
def measure (direction : Direction) : Regex → Footprint → Footprint
  | empty, f => f.plain 1
  | literal text, f => f.plain (Text.utf8 text).length
  | one members, f => f.addSet direction members
  | assertion _, f => f.plain 1
  | group _ body, f =>
    match direction with
    | .forwards => (measure direction body (f.plain 1)).plain 1
    | .backwards => measure direction body f
  | copies least most _ body, f =>
    match least, most with
    | 0, none =>
      if body.isProper then measure direction body (f.fork 2)
      else (((measure direction body f).fork 2).fork 2).plain 1
    | least, none => (f.repeated least (measure direction body)).fork 2
    | 0, some 1 => (measure direction body (f.fork 2)).plain 1
    | least, some most =>
      let required := if least = 0 then f.plain 1 else f.repeated least (measure direction body)
      if least = most then required
      else (required.plain 1).repeated (most - least) fun f => measure direction body (f.fork 2)
  | seq parts, f =>
    match direction with
    | .forwards => measureInTurn direction parts f
    | .backwards => measureFromEnd direction parts f
  | alt branches, f =>
    match texts? branches, direction with
    | some texts, .forwards => f.beside (textsFootprint texts)
    | some texts, .backwards => f.beside (textsFootprint (texts.map List.reverse))
    | none, _ => measureEach direction branches.length 0 branches f

/-- Adds the parts of a sequence. -/
def measureInTurn (direction : Direction) : List Regex → Footprint → Footprint
  | [], f => f
  | r :: rest, f => measureInTurn direction rest (measure direction r f)

/-- Adds the parts of a sequence from its end. -/
def measureFromEnd (direction : Direction) : List Regex → Footprint → Footprint
  | [], f => f
  | r :: rest, f => measure direction r (measureFromEnd direction rest f)

/-- Adds alternatives; the fork to them and their common end follow the second of them. -/
def measureEach (direction : Direction) (count done : Nat) : List Regex → Footprint → Footprint
  | [], f => f
  | r :: rest, f =>
    let f := measure direction r f
    measureEach direction count (done + 1) rest
      (if done = 1 then (f.fork count).plain 1 else f)

end

end Breakpoints.Regex
