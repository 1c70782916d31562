import Breakpoints.Proofs.Numeral
import Breakpoints.Proofs.Pattern
import Breakpoints.Proofs.Text
import Breakpoints.Spec.Reader

/-!
How the patterns of the reader divide a text: a line text at its last colon, a method text at the
first opening parenthesis and at its last separator with something on both sides.
-/

namespace Breakpoints.Spec

open Text (Pattern Reading Kept)

/-- The parts of a text that the patterns take for a line text: what stands before its last colon,
if there is one, and the digits. -/
def splitLine? (s : List Char) : Option (Option (List Char) × List Char) :=
  if (bareLine.read? s).isSome || (qualifiedLine.read? s).isSome then some (splitLast s) else none

/-- Divides a text at the first opening parenthesis.  The part from there on has to be one pair
of parentheses without another inside, and gives its content. -/
def splitArguments? (s : List Char) : Option (List Char × Option (List Char)) :=
  match s.span (· ≠ '(') with
  | (head, []) => some (head, none)
  | (head, _ :: rest) =>
    match rest.span (fun c => c ≠ '(' && c ≠ ')') with
    | (content, [')']) => some (head, some content)
    | _ => none

/-- Divides a method text at its last separator with something on both sides; without one the
whole text is the method. -/
def splitMember (s : List Char) : Option (List Char) × List Char :=
  match s.reverse with
  | [] => (none, s)
  | last :: rest =>
    match rest.span (fun c => !isSeparator c) with
    | (middle, _ :: owner@(_ :: _)) => (some owner.reverse, (last :: middle).reverse)
    | _ => (none, s)

section Line

theorem mem_ways_bareLine_iff {reading read : Reading} : read ∈ bareLine.ways reading ↔
    Text.Digits reading.rest ∧ read = ⟨[], reading.kept⟩ := by
  rw [bareLine, Pattern.mem_ways_seq_iff]
  constructor
  · rintro ⟨between, hrow, hend⟩
    obtain ⟨digits, hdigits, hsome, hall, hkept⟩ := Pattern.mem_ways_row_iff.mp hrow
    obtain ⟨hrest, rfl⟩ := Pattern.mem_ways_ending_iff.mp hend
    rw [hrest, List.append_nil] at hdigits
    cases read
    cases hrest
    cases hkept
    exact ⟨⟨hdigits ▸ hsome, hdigits ▸ hall⟩, rfl⟩
  · rintro ⟨⟨hsome, hall⟩, rfl⟩
    exact ⟨⟨[], reading.kept⟩,
      Pattern.mem_ways_row_iff.mpr ⟨_, (List.append_nil _).symm, hsome, hall, rfl⟩,
      Pattern.mem_ways_ending_iff.mpr ⟨rfl, rfl⟩⟩

theorem isSome_bareLine_iff {s : List Char} :
    (bareLine.read? s).isSome = true ↔ Text.Digits s := by
  rw [Pattern.isSome_read?_iff]
  simp [mem_ways_bareLine_iff]

theorem isSome_qualifiedLine_iff {s : List Char} :
    (qualifiedLine.read? s).isSome = true ↔ ∃ owner digits, s = owner ++ ':' :: digits ∧
      owner ≠ [] ∧ '\n' ∉ owner ∧ Text.Digits digits := by
  rw [Pattern.isSome_read?_iff, qualifiedLine]
  constructor
  · rintro ⟨read, hread⟩
    obtain ⟨_, howner, hbehind⟩ := Pattern.mem_ways_seq_iff.mp hread
    obtain ⟨last, hcolon, hnumber⟩ := Pattern.mem_ways_seq_iff.mp hbehind
    obtain ⟨owner, rfl, hsome, hplain, -⟩ := Pattern.mem_ways_row_iff.mp howner
    obtain ⟨colon, hrest, heq, -⟩ := Pattern.mem_ways_one_iff.mp hcolon
    rw [of_decide_eq_true heq] at hrest
    refine ⟨owner, last.rest, by rw [hrest], hsome, fun hbreak => ?_,
      (mem_ways_bareLine_iff.mp hnumber).1⟩
    exact of_decide_eq_true (hplain '\n' hbreak) rfl
  · rintro ⟨owner, digits, rfl, hsome, hbreak, hdigits⟩
    have hplain : ∀ c ∈ owner, decide (c ≠ '\n') = true :=
      fun c hc => decide_eq_true fun heq => hbreak (heq ▸ hc)
    exact ⟨_, Pattern.mem_ways_seq_iff.mpr
      ⟨⟨':' :: digits, []⟩, Pattern.mem_ways_row_iff.mpr ⟨owner, rfl, hsome, hplain, rfl⟩,
        Pattern.mem_ways_seq_iff.mpr ⟨⟨digits, []⟩,
          Pattern.mem_ways_one_iff.mpr ⟨':', rfl, rfl, rfl⟩,
          mem_ways_bareLine_iff.mpr ⟨hdigits, rfl⟩⟩⟩⟩

/-- There is one last colon. -/
theorem splitLast_eq {s owner digits : List Char} (hs : s = owner ++ ':' :: digits)
    (hdigits : ':' ∉ digits) : splitLast s = (some owner, digits) := by
  have hspan : s.reverse.span (· ≠ ':') = (digits.reverse, ':' :: owner.reverse) := by
    refine Text.span_eq_cons_iff.mpr ⟨by simp [hs], fun c hc => ?_, by simp⟩
    exact decide_eq_true fun heq => hdigits (heq ▸ List.mem_reverse.mp hc)
  rw [splitLast, hspan]
  simp

theorem splitLast_of_not_mem {s : List Char} (h : ':' ∉ s) : splitLast s = (none, s) := by
  have hspan : s.reverse.span (· ≠ ':') = (s.reverse, []) := by
    refine Text.span_eq_nil_iff.mpr ⟨rfl, fun c hc => ?_⟩
    exact decide_eq_true fun heq => h (heq ▸ List.mem_reverse.mp hc)
  rw [splitLast, hspan]

end Line

section Method

variable {kept : List Kept} {read : Reading}

/-- A text without parentheses. -/
def Flat (s : List Char) : Prop :=
  '(' ∉ s ∧ ')' ∉ s

theorem flat_iff {s : List Char} : Flat s ↔ ∀ c ∈ s, isFlat c = true := by
  simp only [Flat, isFlat, Bool.and_eq_true, decide_eq_true_iff, forall_and]
  refine and_congr ⟨fun h c hc heq => h (heq ▸ hc), fun h hc => h '(' hc rfl⟩
    ⟨fun h c hc heq => h (heq ▸ hc), fun h hc => h ')' hc rfl⟩

/-- What stands behind a head: nothing, or a list of types in parentheses, with what is kept of
it. -/
inductive Tail (after : List Char) : List Kept → Prop where
  | nothing : after = [] → Tail after []
  | list {content : List Char} : after = '(' :: (content ++ [')']) → Flat content →
      Tail after [⟨3, content ++ [')'], [')']⟩]

theorem Tail.unique {after : List Char} {list list' : List Kept} (h : Tail after list)
    (h' : Tail after list') : list' = list := by
  cases h with
  | nothing hnil =>
      cases h' with
      | nothing => rfl
      | list hlist => simp [hnil] at hlist
  | list hlist =>
      cases h' with
      | nothing hnil => simp [hnil] at hlist
      | list hlist' =>
          rw [hlist, List.cons.injEq] at hlist'
          rw [hlist'.2]

theorem mem_ways_listPart_iff {reading : Reading} : read ∈ listPart.ways reading ↔
    ∃ content, reading.rest = '(' :: (content ++ ')' :: read.rest) ∧ Flat content ∧
      read.kept = ⟨3, content ++ ')' :: read.rest, ')' :: read.rest⟩ :: reading.kept := by
  rw [listPart, Pattern.mem_ways_seq_iff]
  constructor
  · rintro ⟨opened, hopen, hinside⟩
    obtain ⟨closing, hcontent, hclose⟩ := Pattern.mem_ways_seq_iff.mp hinside
    obtain ⟨_, hrest, hparen, hkept⟩ := Pattern.mem_ways_one_iff.mp hopen
    obtain ⟨part, hmany, rfl⟩ := Pattern.mem_ways_group_iff.mp hcontent
    obtain ⟨content, hrow, hall, hkept'⟩ := Pattern.mem_ways_many_iff.mp hmany
    obtain ⟨_, hrest', hparen', hkept''⟩ := Pattern.mem_ways_one_iff.mp hclose
    rw [of_decide_eq_true hparen] at hrest
    rw [of_decide_eq_true hparen'] at hrest'
    simp only at hrest' hkept''
    rw [hrest'] at hrow hkept''
    refine ⟨content, by rw [hrest, hrow], flat_iff.mpr hall, ?_⟩
    rw [hkept'', hrow, hkept', hkept]
  · rintro ⟨content, hrest, hflat, hkept⟩
    refine ⟨⟨content ++ ')' :: read.rest, reading.kept⟩,
      Pattern.mem_ways_one_iff.mpr ⟨'(', hrest, rfl, rfl⟩, ?_⟩
    refine Pattern.mem_ways_seq_iff.mpr ⟨_, Pattern.mem_ways_group_iff.mpr
      ⟨⟨')' :: read.rest, reading.kept⟩, ?_, rfl⟩, ?_⟩
    · exact Pattern.mem_ways_many_iff.mpr ⟨content, rfl, flat_iff.mp hflat, rfl⟩
    · exact Pattern.mem_ways_one_iff.mpr ⟨')', rfl, rfl, hkept⟩

/-- What the pattern asks for behind the member. -/
def tailPart : Pattern :=
  .seq (.maybe listPart) .ending

theorem mem_ways_tailPart_iff {after : List Char} : read ∈ tailPart.ways ⟨after, kept⟩ ↔
    ∃ list, Tail after list ∧ read = ⟨[], list ++ kept⟩ := by
  rw [tailPart, Pattern.mem_ways_seq_iff]
  constructor
  · rintro ⟨between, hmaybe, hend⟩
    obtain ⟨hrest, rfl⟩ := Pattern.mem_ways_ending_iff.mp hend
    rcases Pattern.mem_ways_maybe_iff.mp hmaybe with hlist | rfl
    · obtain ⟨content, hafter, hflat, hkept⟩ := mem_ways_listPart_iff.mp hlist
      rw [hrest] at hafter hkept
      cases read
      cases hrest
      cases hkept
      exact ⟨_, .list hafter hflat, rfl⟩
    · exact ⟨[], .nothing hrest, by cases hrest; rfl⟩
  · rintro ⟨list, htail, rfl⟩
    refine ⟨⟨[], list ++ kept⟩, Pattern.mem_ways_maybe_iff.mpr ?_,
      Pattern.mem_ways_ending_iff.mpr ⟨rfl, rfl⟩⟩
    cases htail with
    | nothing hafter => exact .inr (by rw [hafter, List.nil_append])
    | list hafter hflat => exact .inl (mem_ways_listPart_iff.mpr ⟨_, hafter, hflat, rfl⟩)

/-- There is at most one way to read what stands behind the member. -/
theorem head?_tailPart_of_tail {after : List Char} {list : List Kept} (h : Tail after list) :
    (tailPart.ways ⟨after, kept⟩).head? = some ⟨[], list ++ kept⟩ := by
  have hmem : ⟨[], list ++ kept⟩ ∈ tailPart.ways ⟨after, kept⟩ :=
    mem_ways_tailPart_iff.mpr ⟨list, h, rfl⟩
  cases hways : tailPart.ways ⟨after, kept⟩ with
  | nil =>
      rw [hways] at hmem
      contradiction
  | cons first rest =>
      have hfirst : first ∈ tailPart.ways ⟨after, kept⟩ := by simp [hways]
      obtain ⟨list', htail, rfl⟩ := mem_ways_tailPart_iff.mp hfirst
      rw [List.head?_cons, h.unique htail]

theorem head?_tailPart_of_not_tail {after : List Char} (h : ∀ list, ¬ Tail after list) :
    (tailPart.ways ⟨after, kept⟩).head? = none := by
  rw [List.head?_eq_none_iff, List.eq_nil_iff_forall_not_mem]
  intro read hread
  obtain ⟨list, htail, -⟩ := mem_ways_tailPart_iff.mp hread
  exact h list htail

/-- The pattern for the member and what stands behind it. -/
def memberPart : Pattern :=
  .seq (.group 2 (.row isFlat)) tailPart

/-- Nothing stands behind a head, or it begins with a parenthesis. -/
def Closes (after : List Char) : Prop :=
  ∀ c rest, after = c :: rest → c = '('

theorem head?_tailPart_cons {c : Char} {rest : List Char} (hc : c ≠ '(') :
    (tailPart.ways ⟨c :: rest, kept⟩).head? = none := by
  refine head?_tailPart_of_not_tail fun list htail => ?_
  cases htail with
  | nothing hafter => contradiction
  | list hafter _ => exact hc (List.cons.inj hafter).1

/-- A row without parentheses ends before the first closing one, or else behind the member. -/
theorem dropWhile_isFlat {member after : List Char} (hopen : '(' ∉ member)
    (hafter : Closes after) :
    (')' ∉ member → (member ++ after).dropWhile isFlat = after) ∧
      (')' ∈ member → ∃ rest, (member ++ after).dropWhile isFlat = ')' :: rest) := by
  constructor
  · intro hclose
    rw [List.dropWhile_append_of_pos (flat_iff.mp ⟨hopen, hclose⟩)]
    cases after with
    | nil => rfl
    | cons c rest =>
        obtain rfl := hafter c rest rfl
        rfl
  · intro hclose
    obtain ⟨front, rest, rfl, hfront⟩ := List.eq_append_cons_of_mem hclose
    refine ⟨rest ++ after, ?_⟩
    have hflat : Flat front := ⟨fun hmem => hopen (List.mem_append_left _ hmem), hfront⟩
    rw [List.append_assoc, List.dropWhile_append_of_pos (flat_iff.mp hflat)]
    rfl

/-- The member is all that stands before the parenthesis. -/
theorem head?_memberPart {member after : List Char} (hopen : '(' ∉ member) (hafter : Closes after) :
    (memberPart.ways ⟨member ++ after, kept⟩).head? =
      if member = [] ∨ ')' ∈ member then none
      else (tailPart.ways ⟨after, ⟨2, member ++ after, after⟩ :: kept⟩).head? := by
  rw [memberPart, Pattern.head?_ways_seq, Pattern.ways, List.findSome?_map]
  cases member with
  | nil =>
      rw [if_pos (.inl rfl), List.nil_append]
      cases after with
      | nil => exact Pattern.findSome?_row_nil
      | cons c rest =>
          obtain rfl := hafter c rest rfl
          rw [Pattern.findSome?_row_cons]
          rfl
  | cons c member =>
      obtain ⟨hc, hopen⟩ : '(' ≠ c ∧ '(' ∉ member := by simpa using hopen
      rw [List.cons_append, Pattern.findSome?_row_cons]
      by_cases hflat : isFlat c = true
      · have hstuck : ∀ d rest, isFlat d = true →
            (tailPart.ways ⟨d :: rest, ⟨2, c :: (member ++ after), d :: rest⟩ :: kept⟩).head? =
              none := by
          intro d rest hd
          refine head?_tailPart_cons ?_
          rintro rfl
          contradiction
        have hne : c ≠ ')' := by
          rintro rfl
          contradiction
        rw [if_pos hflat, Pattern.findSome?_many_of_stuck hstuck, Function.comp_apply]
        obtain ⟨hall, hpart⟩ := dropWhile_isFlat hopen hafter
        by_cases hclose : ')' ∈ member
        · obtain ⟨rest, hrest⟩ := hpart hclose
          rw [hrest, if_pos (.inr (List.mem_cons_of_mem c hclose)), head?_tailPart_cons (by decide)]
        · rw [hall hclose, if_neg]
          simp [hne.symm, hclose]
      · have hclose : c = ')' := by
          simpa [isFlat, hc.symm] using hflat
        rw [if_neg hflat, if_pos (.inr (hclose ▸ List.mem_cons_self))]

/-- What is read behind a class: a separator and the member. -/
def goOn (s : List Char) (reading : Reading) : Option Reading :=
  match reading.rest with
  | [] => none
  | c :: rest =>
    if isSeparator c then (memberPart.ways ⟨rest, ⟨1, s, c :: rest⟩ :: reading.kept⟩).head?
    else none

/-- A class is read as far as possible, and no class if there is none to go on behind. -/
theorem read?_methodBreak (s : List Char) : methodBreak.read? s =
    (((Pattern.row (· ≠ '(')).ways ⟨s, []⟩).findSome? (goOn s)).or
      (memberPart.ways ⟨s, []⟩).head? := by
  rw [Pattern.read?, methodBreak, Pattern.head?_ways_seq, Pattern.ways, List.findSome?_append,
    List.findSome?_singleton, classPart, Pattern.findSome?_ways_seq, Pattern.ways,
    List.findSome?_map]
  congr 2
  funext reading
  obtain ⟨rest, kept⟩ := reading
  cases rest with
  | nil => rfl
  | cons c rest => exact Pattern.findSome?_one_cons c

/-- A text before a parenthesis that is divided at one of its characters is divided in the part
before the parenthesis. -/
theorem exists_append_of_closes {head after front rest : List Char} (hafter : Closes after)
    (h : head ++ after = front ++ rest) (hfront : '(' ∉ front) :
    ∃ tail, head = front ++ tail ∧ rest = tail ++ after := by
  rcases List.append_eq_append_iff.mp h with ⟨more, hmore, hrest⟩ | ⟨tail, htail, hrest⟩
  · cases more with
    | nil => exact ⟨[], by rw [hmore, List.append_nil, List.append_nil], by rw [hrest]; rfl⟩
    | cons c more =>
        obtain rfl := hafter c _ hrest
        exact absurd (by simp [hmore]) hfront
  · exact ⟨tail, htail, hrest⟩

/-- A head is divided as its last separator with something on both sides divides it. -/
inductive Divided (head : List Char) : Option (List Char) → List Char → Prop where
  | whole : (∀ front c tail, head = front ++ c :: tail → isSeparator c = true →
      front = [] ∨ tail = []) → Divided head none head
  | parts {owner member : List Char} {separator : Char} : head = owner ++ separator :: member →
      isSeparator separator = true → owner ≠ [] → member ≠ [] →
      (∀ front c tail, member = front ++ c :: tail → isSeparator c = true → tail = []) →
        Divided head (some owner) member

/-- What stands before a character other than the last stands before the last. -/
theorem exists_of_reverse_cons {text front rest tail : List Char} {last c : Char}
    (hlast : text.reverse = last :: rest) (hc : text = front ++ c :: tail) (htail : tail ≠ []) :
    ∃ between, rest.reverse = front ++ c :: between := by
  obtain ⟨between, d, rfl⟩ := (List.eq_nil_or_concat tail).resolve_left htail
  have hrest : text = rest.reverse ++ [last] := by
    rw [← List.reverse_cons, ← hlast, List.reverse_reverse]
  rw [hrest, List.concat_eq_append, ← List.cons_append, ← List.append_assoc] at hc
  exact ⟨between, (List.append_inj' hc rfl).1⟩

theorem splitMember_divided (head : List Char) :
    Divided head (splitMember head).1 (splitMember head).2 := by
  rw [splitMember]
  split
  next hnil =>
    refine .whole fun front c tail hhead => ?_
    simp [List.reverse_eq_nil_iff.mp hnil] at hhead
  next last rest hreverse =>
    split
    next middle separator first before hspan =>
      obtain ⟨hrest, hmiddle, hseparator⟩ := Text.span_eq_cons_iff.mp hspan
      have hdivides : isSeparator separator = true := by simpa using hseparator
      refine .parts ?_ hdivides (by simp) (by simp) ?_
      · rw [← List.reverse_inj, hreverse, hrest]
        simp
      · intro front c tail hmember hc
        by_contra htail
        obtain ⟨between, hbetween⟩ :=
          exists_of_reverse_cons (List.reverse_reverse _) hmember htail
        have hplain := hmiddle c (List.mem_reverse.mp (by rw [hbetween]; simp))
        simp [hc] at hplain
    next hother =>
      refine .whole fun front c tail hhead hc => ?_
      by_contra hboth
      obtain ⟨hfront, htail⟩ := not_or.mp hboth
      obtain ⟨between, hbetween⟩ := exists_of_reverse_cons hreverse hhead htail
      obtain ⟨d, front, rfl⟩ := List.exists_cons_of_ne_nil hfront
      have hplain : (!isSeparator c) ≠ true := by simp [hc]
      rcases hspan : rest.span (fun c => !isSeparator c) with ⟨middle, _ | ⟨separator, before⟩⟩
      · refine hplain ((Text.span_eq_nil_iff.mp hspan).2 c (List.mem_reverse.mp ?_))
        rw [hbetween]
        simp
      · obtain ⟨hrest, hmiddle, -⟩ := Text.span_eq_cons_iff.mp hspan
        cases before with
        | nil =>
            rw [hrest, List.reverse_concat] at hbetween
            refine hplain (hmiddle c (List.mem_reverse.mp ?_))
            rw [(List.cons.inj hbetween).2]
            simp
        | cons first before => exact hother _ _ _ _ hspan

/-- Nothing goes on behind a separator if no member can be read there. -/
theorem goOn_eq_none {s head after front rest : List Char} (hafter : Closes after)
    (h : head ++ after = front ++ rest) (hfront : '(' ∉ front)
    (hdead : ∀ c tail, head = front ++ c :: tail → isSeparator c = true →
      ∀ kept, (memberPart.ways ⟨tail ++ after, kept⟩).head? = none) :
    goOn s ⟨rest, kept⟩ = none := by
  cases rest with
  | nil => rfl
  | cons c rest =>
      simp only [goOn]
      split
      next hc =>
        have hopen : '(' ∉ front ++ [c] := by
          rw [List.mem_append, List.mem_singleton]
          rintro (hmem | rfl)
          · exact hfront hmem
          · contradiction
        obtain ⟨tail, hhead, rfl⟩ :=
          exists_append_of_closes hafter (h.trans (List.append_cons front c rest)) hopen
        exact hdead c tail (hhead.trans (List.append_cons front c tail).symm) hc _
      next => rfl

theorem head?_memberPart_eq_none_iff {member after : List Char} (hopen : '(' ∉ member)
    (hafter : Closes after) : (memberPart.ways ⟨member ++ after, kept⟩).head? = none ↔
      member = [] ∨ ')' ∈ member ∨ ∀ list, ¬ Tail after list := by
  rw [head?_memberPart hopen hafter, ← or_assoc]
  split
  next hnone => simp [hnone]
  next hsome =>
    rw [or_iff_right hsome]
    constructor
    · intro h list htail
      rw [head?_tailPart_of_tail htail] at h
      contradiction
    · exact head?_tailPart_of_not_tail

/-- If no member can be read behind any class, no class is read. -/
theorem findSome?_goOn_eq_none {head after : List Char} (hafter : Closes after)
    (hdead : ∀ front c tail, head = front ++ c :: tail → front ≠ [] → isSeparator c = true →
      ∀ kept, (memberPart.ways ⟨tail ++ after, kept⟩).head? = none) :
    ((Pattern.row (· ≠ '(')).ways ⟨head ++ after, []⟩).findSome? (goOn (head ++ after)) = none := by
  rw [List.findSome?_eq_none_iff]
  intro reading hreading
  obtain ⟨front, hfront, hsome, hopen, -⟩ := Pattern.mem_ways_row_iff.mp hreading
  refine goOn_eq_none hafter hfront (fun hmem => of_decide_eq_true (hopen '(' hmem) rfl) ?_
  exact fun c tail hhead hc => hdead front c tail hhead hsome hc

theorem Divided.suffix {head member : List Char} {owner : Option (List Char)}
    (h : Divided head owner member) : member <:+ head := by
  cases h with
  | whole _ => exact List.suffix_refl head
  | parts hhead _ _ _ _ =>
      rw [hhead]
      exact (List.suffix_cons _ member).trans (List.suffix_append _ _)

theorem Divided.of_some {head owner member : List Char} (h : Divided head (some owner) member) :
    ∃ separator, head = owner ++ separator :: member ∧ isSeparator separator = true ∧
      owner ≠ [] ∧ member ≠ [] ∧
      ∀ front c tail, member = front ++ c :: tail → isSeparator c = true → tail = [] := by
  cases h with
  | parts hhead hseparator howner hmember hlast =>
      exact ⟨_, hhead, hseparator, howner, hmember, hlast⟩

/-- Behind the last separator that divides a head there is as much of the member as behind any
other one, or nothing. -/
theorem Divided.tail_eq_nil_or_suffix {head owner member front tail : List Char} {c : Char}
    (h : Divided head (some owner) member) (hhead : head = front ++ c :: tail)
    (hc : isSeparator c = true) : tail = [] ∨ member <:+ tail := by
  cases h with
  | parts hparts _ _ _ hlast =>
      rw [hparts, List.append_eq_append_iff] at hhead
      rcases hhead with ⟨more, -, hmore⟩ | ⟨more, -, hmore⟩
      · cases more with
        | nil => exact .inr ((List.cons.inj hmore).2 ▸ List.suffix_refl _)
        | cons d more => exact .inl (hlast more c tail (List.cons.inj hmore).2 hc)
      · cases more with
        | nil => exact .inr ((List.cons.inj hmore).2 ▸ List.suffix_refl _)
        | cons d more =>
            rw [(List.cons.inj hmore).2]
            exact .inr ((List.suffix_cons _ member).trans (List.suffix_append more _))

/-- A head can be divided in one way. -/
theorem Divided.unique {head member member' : List Char} {owner owner' : Option (List Char)}
    (h : Divided head owner member) (h' : Divided head owner' member') :
    owner = owner' ∧ member = member' := by
  have hwhole : ∀ {owner member tail : List Char}, Divided head none tail →
      ¬ Divided head (some owner) member := by
    rintro owner member tail ⟨hnone⟩ hparts
    obtain ⟨separator, hhead, hseparator, howner, hmember, -⟩ := hparts.of_some
    rcases hnone owner separator member hhead hseparator with hnil | hnil
    · exact howner hnil
    · exact hmember hnil
  cases owner with
  | none =>
      cases owner' with
      | none =>
          cases h
          cases h'
          exact ⟨rfl, rfl⟩
      | some _ => exact absurd h' (hwhole h)
  | some owner =>
      cases owner' with
      | none => exact absurd h (hwhole h')
      | some owner' =>
          obtain ⟨separator, hhead, hseparator, -, hmember, -⟩ := h.of_some
          obtain ⟨separator', hhead', hseparator', -, hmember', -⟩ := h'.of_some
          have hsame : member = member' :=
            ((h.tail_eq_nil_or_suffix hhead' hseparator').resolve_left hmember').eq_of_length_le
              ((h'.tail_eq_nil_or_suffix hhead hseparator).resolve_left hmember).length_le
          subst hsame
          obtain ⟨rfl, -⟩ := List.append_inj' (hhead.symm.trans hhead') rfl
          exact ⟨rfl, rfl⟩

/-- If a member can be read behind the last separator that divides the head, the class ends there:
nothing can be read behind a later one. -/
theorem findSome?_goOn_eq_some {head after owner member : List Char} {separator : Char}
    {read : Reading} (hopen : '(' ∉ head) (hafter : Closes after)
    (hhead : head = owner ++ separator :: member) (howner : owner ≠ [])
    (hlast : ∀ front c tail, member = front ++ c :: tail → isSeparator c = true → tail = [])
    (hread : goOn (head ++ after) ⟨separator :: (member ++ after), []⟩ = some read) :
    ((Pattern.row (· ≠ '(')).ways ⟨head ++ after, []⟩).findSome? (goOn (head ++ after)) =
      some read := by
  obtain ⟨c, owner, rfl⟩ := List.exists_cons_of_ne_nil howner
  have hplain : ∀ d ∈ c :: owner, decide (d ≠ '(') = true :=
    fun d hd => decide_eq_true fun heq => hopen (heq ▸ hhead ▸ List.mem_append_left _ hd)
  obtain ⟨hc, howner⟩ := List.forall_mem_cons.mp hplain
  have hs : head ++ after = c :: (owner ++ separator :: (member ++ after)) := by
    rw [hhead, List.append_assoc]
    rfl
  rw [hs] at hread ⊢
  rw [Pattern.findSome?_row_cons, if_pos hc]
  refine Pattern.findSome?_many_eq_some howner hread fun d more rest hrest _ hmore => ?_
  refine goOn_eq_none hafter (List.cons.inj hrest).2
    (fun hmem => of_decide_eq_true (hmore '(' hmem) rfl) fun e tail htail he kept => ?_
  rw [hlast more e tail htail he, head?_memberPart_eq_none_iff List.not_mem_nil hafter]
  exact .inl rfl

/-- If no member can be read behind the last separator that divides the head, none can be read behind
any separator, nor without a class. -/
theorem read?_methodBreak_eq_none {head after owner member : List Char} (hopen : '(' ∉ head)
    (hafter : Closes after) (hdivided : Divided head (some owner) member)
    (hread : (memberPart.ways ⟨member ++ after, kept⟩).head? = none) :
    methodBreak.read? (head ++ after) = none := by
  have hsuffix := hdivided.suffix
  have hinside : '(' ∉ member := fun hmem => hopen (hsuffix.subset hmem)
  obtain ⟨-, -, -, -, hmember, -⟩ := hdivided.of_some
  have hfail : ')' ∈ member ∨ ∀ list, ¬ Tail after list :=
    ((head?_memberPart_eq_none_iff hinside hafter).mp hread).resolve_left hmember
  rw [read?_methodBreak, findSome?_goOn_eq_none hafter, Option.none_or,
    head?_memberPart_eq_none_iff hopen hafter]
  · exact .inr (hfail.imp_left fun hmem => hsuffix.subset hmem)
  · intro front c tail hfront _ hc kept
    have htail : '(' ∉ tail := fun hmem => hopen (by simp [hfront, hmem])
    rw [head?_memberPart_eq_none_iff htail hafter]
    rcases hdivided.tail_eq_nil_or_suffix hfront hc with hnil | hbehind
    · exact .inl hnil
    · exact .inr (hfail.imp_left fun hmem => hbehind.subset hmem)

/-- The parts that the pattern keeps of a text. -/
theorem read?_methodBreak_eq {head after member : List Char} {owner : Option (List Char)}
    (hopen : '(' ∉ head) (hafter : Closes after) (hdivided : Divided head owner member) :
    ∃ kept, methodBreak.read? (head ++ after) =
        (memberPart.ways ⟨member ++ after, kept⟩).head? ∧
      (∀ part ∈ kept, part.number = 1) ∧ (⟨[], kept⟩ : Reading).group? 1 = owner := by
  cases owner with
  | none =>
      cases hdivided with
      | whole hnone =>
          refine ⟨[], ?_, by simp, rfl⟩
          rw [read?_methodBreak, findSome?_goOn_eq_none hafter, Option.none_or]
          intro front c tail hhead hsome hc kept
          rw [(hnone front c tail hhead hc).resolve_left hsome,
            head?_memberPart_eq_none_iff List.not_mem_nil hafter]
          exact .inl rfl
  | some owner =>
      obtain ⟨separator, hhead, hseparator, howner, -, hlast⟩ := hdivided.of_some
      refine ⟨[⟨1, head ++ after, separator :: (member ++ after)⟩], ?_, by simp,
        by simp [Reading.group?, hhead]⟩
      cases hread : (memberPart.ways
        ⟨member ++ after, [⟨1, head ++ after, separator :: (member ++ after)⟩]⟩).head? with
      | none => exact read?_methodBreak_eq_none hopen hafter hdivided hread
      | some read =>
          have hgo : goOn (head ++ after) ⟨separator :: (member ++ after), []⟩ = some read := by
            simp only [goOn, if_pos hseparator]
            exact hread
          rw [read?_methodBreak,
            findSome?_goOn_eq_some hopen hafter hhead howner hlast hgo, Option.some_or]

/-- Every text is divided before its first parenthesis.  What stands behind is a list of types, with
its content, or nothing can be read of it. -/
theorem splitArguments?_spec (s : List Char) :
    ∃ head after, s = head ++ after ∧ '(' ∉ head ∧ Closes after ∧
      ((∃ list, Tail after list ∧ (∀ part ∈ list, part.number = 3) ∧
          splitArguments? s = some (head, (⟨[], list⟩ : Reading).group? 3)) ∨
        (∀ list, ¬ Tail after list) ∧ splitArguments? s = none) := by
  rcases hspan : s.span (· ≠ '(') with ⟨head, _ | ⟨c, rest⟩⟩
  · obtain ⟨rfl, hall⟩ := Text.span_eq_nil_iff.mp hspan
    refine ⟨s, [], (List.append_nil s).symm, fun hmem => of_decide_eq_true (hall _ hmem) rfl,
      fun _ _ hnil => by contradiction, .inl ⟨[], .nothing rfl, by simp, ?_⟩⟩
    rw [splitArguments?, hspan]
    rfl
  · obtain ⟨rfl, hall, hc⟩ := Text.span_eq_cons_iff.mp hspan
    obtain rfl : c = '(' := by simpa using hc
    refine ⟨head, '(' :: rest, rfl, fun hmem => of_decide_eq_true (hall _ hmem) rfl,
      fun _ _ heq => (List.cons.inj heq).1.symm, ?_⟩
    rw [splitArguments?, hspan]
    dsimp only
    split
    next content hrest =>
      obtain ⟨rfl, hflat, -⟩ := Text.span_eq_cons_iff.mp hrest
      refine .inl ⟨_, .list rfl (flat_iff.mpr hflat), by simp, ?_⟩
      simp [Reading.group?]
    next hother =>
      refine .inr ⟨fun list htail => ?_, rfl⟩
      cases htail with
      | nothing hnil => contradiction
      | list hrest hflat =>
          refine hother _ (Text.span_eq_cons_iff.mpr ⟨(List.cons.inj hrest).2, ?_, by simp⟩)
          exact flat_iff.mp hflat

/-- The parts that the pattern keeps of a method text: those of the head, divided at its last
separator, and the list of types. -/
theorem read?_methodBreak_parts (s : List Char) :
    (methodBreak.read? s).map (fun found => (found.group? 1, found.group? 2, found.group? 3)) =
      (splitArguments? s).bind fun (head, arguments) =>
        if (splitMember head).2.isEmpty || (splitMember head).2.contains ')' then none
        else some ((splitMember head).1, some (splitMember head).2, arguments) := by
  obtain ⟨head, after, rfl, hopen, hafter, harguments⟩ := splitArguments?_spec s
  have hdivided := splitMember_divided head
  rcases hparts : splitMember head with ⟨owner, member⟩
  rw [hparts] at hdivided
  obtain ⟨kept, hread, hnumber, howner⟩ := read?_methodBreak_eq hopen hafter hdivided
  have hinside : '(' ∉ member := fun hmem => hopen (hdivided.suffix.subset hmem)
  rw [hread, head?_memberPart hinside hafter]
  rcases harguments with ⟨list, htail, hlist, hsplit⟩ | ⟨hnone, hsplit⟩
  · rw [hsplit, Option.bind_some, head?_tailPart_of_tail htail]
    dsimp only
    rw [hparts]
    by_cases hmember : member = [] ∨ ')' ∈ member
    · rw [if_pos hmember, if_pos (by simpa using hmember)]
      rfl
    · have hclass : (⟨[], list⟩ : Reading).group? 1 = none :=
        Text.group?_eq_none fun part hpart => by simp [hlist part hpart]
      have hmethod : (⟨[], list⟩ : Reading).group? 2 = none :=
        Text.group?_eq_none fun part hpart => by simp [hlist part hpart]
      have htypes : (⟨[], kept⟩ : Reading).group? 3 = none :=
        Text.group?_eq_none fun part hpart => by simp [hnumber part hpart]
      rw [if_neg hmember, if_neg (by simpa using hmember), Option.map_some, Text.group?_append,
        Text.group?_append, Text.group?_append, hclass, hmethod, Option.none_or, Option.none_or,
        Text.group?_cons_self, Text.group?_cons_of_ne (by decide),
        Text.group?_cons_of_ne (by decide), htypes, Option.or_none, howner]
  · rw [hsplit, Option.bind_none, head?_tailPart_of_not_tail hnone, ite_self]
    rfl

end Method

theorem readMethod_eq (s : List Char) (current : Option CurrentLocation) :
    readMethod s current =
      match splitArguments? s with
      | none => .error (.malformedText (String.ofList s))
      | some (head, arguments) =>
        let (owner, member) := splitMember head
        if member.isEmpty || member.contains ')' then .error (.malformedText (String.ofList s))
        else
          match methodOwner owner current with
          | .error e => .error e
          | .ok className =>
            match readParameters s arguments with
            | .error e => .error e
            | .ok parameters =>
              (MethodSpec.create className (String.ofList member) parameters).map .method := by
  have hparts := read?_methodBreak_parts s
  rw [readMethod]
  cases harguments : splitArguments? s with
  | none =>
      rw [harguments, Option.bind_none, Option.map_eq_none_iff] at hparts
      rw [hparts]
  | some divided =>
      rw [harguments, Option.bind_some] at hparts
      dsimp only at hparts ⊢
      by_cases hbad : ((splitMember divided.1).2.isEmpty ||
          (splitMember divided.1).2.contains ')') = true
      · rw [if_pos hbad, Option.map_eq_none_iff] at hparts
        rw [if_pos hbad, hparts]
      · rw [if_neg hbad, Option.map_eq_some_iff] at hparts
        obtain ⟨found, hfound, hgroups⟩ := hparts
        rw [Prod.mk.injEq, Prod.mk.injEq] at hgroups
        rw [if_neg hbad, hfound]
        dsimp only
        generalize found.group? 1 = owner, found.group? 2 = member, found.group? 3 = arguments
          at hgroups ⊢
        obtain ⟨rfl, rfl, rfl⟩ := hgroups
        rfl

/-- A text is a line text or a method text, as it can be divided. -/
theorem read_eq (raw : String) (current : Option CurrentLocation) :
    Spec.read raw current =
      match splitLine? (Text.trim raw.toList) with
      | some (owner, digits) => readLine owner digits current
      | none => readMethod (Text.trim raw.toList) current := by
  rw [Spec.read, splitLine?]
  dsimp only
  split
  next => rfl
  next => rfl

end Breakpoints.Spec
