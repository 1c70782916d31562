import Breakpoints.Regex.Basic

/-!
Programs: an expression as numbered steps, with counted copies written out.  A step names the steps
that may follow it, so a match is a way from the start to the step that accepts.
-/

namespace Breakpoints.Regex

open Text (CharTable)

inductive Step where
  | accept
  /-- Takes one character of a set. -/
  | take (members : CharTable) (next : Nat)
  | check (a : Assertion) (next : Nat)
  | fork (first second : Nat)
deriving Repr, Inhabited

/-- Steps, and where to start. -/
structure Program where
  steps : Array Step
  start : Nat

namespace Program

/-- Puts a step in front: it becomes the start. -/
def before (p : Program) (s : Step) : Program :=
  let start := p.steps.size
  ⟨p.steps.push s, start⟩

/-- Puts a part in front that can be passed over. -/
def optional (p : Program) (part : Program → Program) : Program :=
  let ⟨steps, start⟩ := p
  let q := part ⟨steps, start⟩
  q.before (.fork q.start start)

/-- Puts a step in front from which a part can be passed any number of times; the part comes back
to that step.  With it goes the start of the part. -/
def loop (p : Program) (part : Program → Program) : Program × Nat :=
  let ⟨steps, start⟩ := p
  let back := steps.size
  let ⟨steps, first⟩ := part ⟨steps.push (.fork start start), back⟩
  (⟨steps.setIfInBounds back (.fork first start), back⟩, first)

/-- Puts a number of parts in front. -/
def times (p : Program) (count : Nat) (part : Program → Program) : Program :=
  match count with
  | 0 => p
  | n + 1 => times (part p) n part

end Program

mutual

/-- Puts an expression in front of a program. -/
def inFront : Regex → Program → Program
  | empty, p => p
  | literal text, p => text.foldr (fun c p => p.before (.take (.single c) p.start)) p
  | one members, p => p.before (.take members p.start)
  | assertion a, p => p.before (.check a p.start)
  | group _ body, p => inFront body p
  | copies least most _ body, p =>
    match most with
    | none =>
      let (⟨steps, back⟩, first) := p.loop (inFront body)
      if least = 0 then ⟨steps, back⟩ else Program.times ⟨steps, first⟩ (least - 1) (inFront body)
    | some most =>
      (p.times (most - least) fun p => p.optional (inFront body)).times least (inFront body)
  | seq parts, p => allInFront parts p
  | alt branches, p => eachInFront branches p

/-- Puts the parts of a sequence in front. -/
def allInFront : List Regex → Program → Program
  | [], p => p
  | [r], p => inFront r p
  | r :: rest, p => inFront r (allInFront rest p)

/-- Puts alternatives in front. -/
def eachInFront : List Regex → Program → Program
  | [], p => p.before (.take [] p.start)
  | [r], p => inFront r p
  | r :: rest, ⟨steps, start⟩ =>
    let ⟨steps, second⟩ := eachInFront rest ⟨steps, start⟩
    let q := inFront r ⟨steps, start⟩
    q.before (.fork q.start second)

end

/-- The program of an expression. -/
def program (r : Regex) : Program :=
  r.inFront ⟨#[.accept], 0⟩

end Breakpoints.Regex
