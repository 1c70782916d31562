import Breakpoints.Proofs.Numeral
import Breakpoints.Proofs.ThreadGroup.Preorder
import Breakpoints.ThreadGroup.Lookup

/-!
Finding threads, told by the order of the recursion over the groups: the first group with an id, or
every group that a pattern selects, whatever the library of patterns.
-/

namespace Breakpoints.ThreadGroup

/-- A query that names an id: digits, after an optional plus sign, that stand for it.  A numeral
beyond all ids is a pattern like any other. -/
def NamesId (query : String) (id : Nat) : Prop :=
  ∃ digits, (query.toList = digits ∨ query.toList = '+' :: digits) ∧
    Text.Digits digits ∧ Text.decimal digits = id ∧ id ≤ 0xFFFFFFFFFFFFFFFF

theorem queryId?_eq_some_iff {query : String} {id : Nat} :
    queryId? query = some id ↔ NamesId query id := by
  rw [queryId?, NamesId, Text.maxLong]
  split
  next digits hplus =>
    rw [Text.readNumeral?_eq_some_iff, hplus]
    constructor
    · exact fun h => ⟨digits, .inr rfl, h⟩
    · rintro ⟨others, rfl | hothers, h⟩
      · have hsign := h.1.digits '+' List.mem_cons_self
        contradiction
      · cases hothers
        exact h
  next hplus =>
    rw [Text.readNumeral?_eq_some_iff]
    constructor
    · exact fun h => ⟨query.toList, .inl rfl, h⟩
    · rintro ⟨digits, rfl | hdigits, h⟩
      · exact h
      · exact absurd hdigits (hplus digits)

/-- The threads of an id are those of the first group with it. -/
theorem threadsOf_spec (roots : List ThreadGroup) (id : Nat) :
    (∃ before depth group after, preorderList 0 roots = before ++ (depth, group) :: after ∧
      (∀ e ∈ before, e.2.id ≠ id) ∧ group.id = id ∧ threadsOf roots id = group.threads) ∨
    (∀ e ∈ preorderList 0 roots, e.2.id ≠ id) ∧ threadsOf roots id = [] := by
  rw [threadsOf, walk_eq_preorderList]
  cases hfind : (preorderList 0 roots).find? fun e => e.2.id = id with
  | none =>
      refine .inr ⟨fun e he => ?_, rfl⟩
      simpa using List.find?_eq_none.mp hfind e he
  | some e =>
      obtain ⟨hid, before, after, heq, hbefore⟩ := List.find?_eq_some_iff_append.mp hfind
      refine .inl ⟨before, e.1, e.2, after, heq, fun e' he' => ?_, by simpa using hid, rfl⟩
      simpa using hbefore e' he'

/-- The walk over the groups of a forest with a stack ends, with a turn for each group, and is the
recursion over the trees with depths from zero.  It comes to the end of each route through the
forest once; a route comes before those that go on from its end, and these come in the order of the
subgroups.  So a query that names an id asks for the threads of the first group of the recursion
with this id, if there is one; any other one that the library takes for a pattern asks for the
threads of all groups in whose names or ids this pattern is found, in this order; and one that it
does not take is refused with what it has to say. -/
theorem walk_preorder [PatternLibrary] (roots : List ThreadGroup) (query : String) :
    Walks inward (sizeList roots) (roots.map (0, ·)).reverse (walk roots) ∧
    walk roots = preorderList 0 roots ∧
    (∃ routes : List (List Nat × ThreadGroup),
      (∀ route group, (route, group) ∈ routes ↔ at? roots route = some group) ∧
      routes.Pairwise (fun r r' => r.1 < r'.1) ∧
      (walk roots).map (fun e => (e.1 + 1, e.2)) = routes.map fun r => (r.1.length, r.2)) ∧
    (∀ id, NamesId query id →
      (∃ before depth group after, preorderList 0 roots = before ++ (depth, group) :: after ∧
        (∀ e ∈ before, e.2.id ≠ id) ∧ group.id = id ∧
          findThreads roots query = .ok group.threads) ∨
      (∀ e ∈ preorderList 0 roots, e.2.id ≠ id) ∧ findThreads roots query = .ok []) ∧
    ((∀ id, ¬ NamesId query id) →
      (∀ pattern, PatternLibrary.read query = .ok pattern →
        findThreads roots query = .ok (((preorderList 0 roots).filter fun e =>
          PatternLibrary.isFoundIn pattern e.2.name ||
            PatternLibrary.isFoundIn pattern (toString e.2.id)).flatMap fun e => e.2.threads)) ∧
      ∀ fault, PatternLibrary.read query = .error fault →
        findThreads roots query = .error (.malformedFilter (query ++ ": " ++ fault))) := by
  have hwalk : Walks inward (sizeList roots) (roots.map (0, ·)).reverse (walk roots) := by
    rw [walk_eq_preorderList]
    exact walks_preorderList 0 roots
  refine ⟨hwalk, walk_eq_preorderList roots, ⟨routesFrom 0 roots, fun _ _ => mem_routesFrom_zero_iff,
    routesFrom_ascending roots 0, ?_⟩, fun id hquery => ?_, fun hquery => ?_⟩
  · rw [walk_eq_preorderList, preorderList_eq_routesFrom roots 0 0]
    simp only [Nat.zero_add]
  · have hfind : findThreads roots query = .ok (threadsOf roots id) := by
      rw [findThreads, queryId?_eq_some_iff.mpr hquery]
    rw [hfind]
    rcases threadsOf_spec roots id with ⟨before, depth, group, after, heq, hbefore, hid, hthreads⟩ |
      ⟨hnone, hthreads⟩
    · exact .inl ⟨before, depth, group, after, heq, hbefore, hid, by rw [hthreads]⟩
    · exact .inr ⟨hnone, by rw [hthreads]⟩
  · have hid : queryId? query = none :=
      Option.eq_none_iff_forall_ne_some.mpr fun id h => hquery id (queryId?_eq_some_iff.mp h)
    refine ⟨fun pattern hpattern => ?_, fun fault hfault => ?_⟩
    · rw [findThreads, hid, hpattern, ← walk_eq_preorderList]
      rfl
    · rw [findThreads, hid, hfault]

/-- Letters and digits as patterns: they are found as they stand, up to case. -/
@[reducible]
def plainLibrary : PatternLibrary where
  Pattern := List Char
  read text :=
    if text.toList.all Char.isAlphanum then .ok (text.toList.map Char.toLower)
    else .error "not plain"
  isFoundIn pattern text :=
    (text.toList.map Char.toLower).tails.any fun rest => pattern.isPrefixOf rest

/-- A name selects its group and the one below with a longer name, parents first; an id selects one
group. -/
theorem walk_preorder_plain :
    let worker := ThreadGroup.mk 12 "Main-worker" none [] [⟨21, "worker"⟩]
    let main := ThreadGroup.mk 2 "main" none [worker] [⟨10, "main"⟩]
    let idle := ThreadGroup.mk 3 "idle" none [] [⟨30, "idle"⟩]
    let roots := [ThreadGroup.mk 1 "system" none [main, idle] []]
    @findThreads plainLibrary roots "MAIN" = .ok [⟨10, "main"⟩, ⟨21, "worker"⟩] ∧
      @findThreads plainLibrary roots "2" = .ok [⟨10, "main"⟩] := by
  intro worker main idle roots
  have hselected : (((preorderList 0 roots).filter fun e =>
      plainLibrary.isFoundIn "main".toList e.2.name ||
        plainLibrary.isFoundIn "main".toList (toString e.2.id)).flatMap fun e => e.2.threads) =
        [⟨10, "main"⟩, ⟨21, "worker"⟩] := by
    decide +kernel +revert
  have hlist : preorderList 0 roots =
      [(0, ⟨1, "system", none, [main, idle], []⟩), (1, main), (2, worker), (1, idle)] := rfl
  obtain ⟨-, -, -, -, hpattern⟩ := @walk_preorder plainLibrary roots "MAIN"
  obtain ⟨-, -, -, hid, -⟩ := @walk_preorder plainLibrary roots "2"
  constructor
  · have hnone : queryId? "MAIN" = none := by decide
    have hquery : ∀ id, ¬ NamesId "MAIN" id := by
      intro id hnames
      rw [queryId?_eq_some_iff.mpr hnames] at hnone
      contradiction
    rw [(hpattern hquery).1 "main".toList rfl, hselected]
  · rcases hid 2 (queryId?_eq_some_iff.mp (by decide)) with
      ⟨before, depth, group, after, hsplit, -, hgroup, hfound⟩ | ⟨hnone, -⟩
    · have hmem : (depth, group) ∈ preorderList 0 roots := by simp [hsplit]
      simp only [hlist, List.mem_cons, List.not_mem_nil, Prod.mk.injEq, or_false] at hmem
      have hmain : group = main := by
        rcases hmem with ⟨-, rfl⟩ | ⟨-, rfl⟩ | ⟨-, rfl⟩ | ⟨-, rfl⟩
        · exact absurd hgroup (by decide)
        · rfl
        · exact absurd hgroup (by decide)
        · exact absurd hgroup (by decide)
      rw [hfound, hmain]
    · exact absurd rfl (hnone (1, main) (by simp [hlist]))

end Breakpoints.ThreadGroup
