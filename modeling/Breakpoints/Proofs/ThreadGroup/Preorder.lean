import Breakpoints.Proofs.Walk
import Breakpoints.ThreadGroup.Basic

/-!
The walk over thread groups with a stack comes to the groups in the order in which a recursion over
the trees does: a group, and then all that is in each of its subgroups, one after another.  It comes
once to the end of every route through the forest.
-/

namespace Breakpoints.ThreadGroup

section Preorder

mutual

/-- A group at a depth and all groups in it with theirs, each before its subgroups. -/
def preorder (depth : Nat) : ThreadGroup → List (Nat × ThreadGroup)
  | ⟨id, name, className, groups, threads⟩ =>
    (depth, ⟨id, name, className, groups, threads⟩) :: preorderList (depth + 1) groups

/-- The groups of a forest whose roots are at a depth. -/
def preorderList (depth : Nat) : List ThreadGroup → List (Nat × ThreadGroup)
  | [] => []
  | group :: rest => preorder depth group ++ preorderList depth rest

end

/-- Where the walk goes on from a group. -/
def inward : Ways (Nat × ThreadGroup) (Nat × ThreadGroup) := fun e =>
  some (e, e.2.groups.map (e.1 + 1, ·))

mutual

/-- The walk from a group takes a turn for each group in it. -/
theorem walks_preorder (depth : Nat) :
    ∀ group, Walks inward (size group) [(depth, group)] (preorder depth group)
  | ⟨_, _, _, groups, _⟩ => .single rfl (walks_preorderList (depth + 1) groups)

theorem walks_preorderList (depth : Nat) : ∀ groups,
    Walks inward (sizeList groups) (groups.map (depth, ·)).reverse (preorderList depth groups)
  | [] => .nil
  | group :: rest => by
      have hfirst := walks_preorder depth group
      have hrest := walks_preorderList depth rest
      rw [List.map_cons, List.reverse_cons]
      exact hfirst.append hrest

end

theorem size_eq (group : ThreadGroup) : size group = sizeList group.groups + 1 := by
  cases group
  rfl

theorem map_snd_map (depth : Nat) (groups : List ThreadGroup) :
    (groups.map (depth, ·)).map (·.2) = groups := by
  rw [List.map_map]
  exact List.map_id groups

theorem sizeList_append (groups others : List ThreadGroup) :
    sizeList (groups ++ others) = sizeList groups + sizeList others := by
  induction groups with
  | nil => exact (Nat.zero_add _).symm
  | cons group rest ih => rw [List.cons_append, sizeList, sizeList, ih, Nat.add_assoc]

/-- With a step for each group on the stack and in it, the walk comes to its end. -/
theorem walks_walkFrom {fuel : Nat} {stack : List (Nat × ThreadGroup)}
    (hfuel : sizeList (stack.map (·.2)) ≤ fuel) :
    Walks inward (walkFrom fuel stack).length stack.reverse (walkFrom fuel stack) := by
  induction fuel generalizing stack with
  | zero =>
      cases stack with
      | nil => exact .nil
      | cons e stack =>
          rw [List.map_cons, sizeList, size_eq] at hfuel
          omega
  | succ fuel ih =>
      cases stack with
      | nil => exact .nil
      | cons e stack =>
          obtain ⟨depth, group⟩ := e
          refine .cons rfl (ih ?_)
          simp only [List.map_cons, sizeList, size_eq] at hfuel
          rw [List.map_append, sizeList_append, map_snd_map]
          omega

/-- The walk over a forest ends, and lists what the recursion does. -/
theorem walk_eq_preorderList (roots : List ThreadGroup) : walk roots = preorderList 0 roots := by
  have hwalk : Walks inward (walk roots).length (roots.map (0, ·)).reverse (walk roots) := by
    refine walks_walkFrom (Nat.le_of_eq ?_)
    rw [map_snd_map]
  exact (hwalk.unique (walks_preorderList 0 roots)).2

end Preorder

section Routes

/-- The group at the end of a route from a group: the number of a subgroup, of one of that one's
subgroups, and so on. -/
def follow? : List Nat → ThreadGroup → Option ThreadGroup
  | [], group => some group
  | i :: route, group => group.groups[i]?.bind (follow? route)

/-- The group at the end of a route through a forest, which begins with the number of a root. -/
def at? (roots : List ThreadGroup) : List Nat → Option ThreadGroup
  | [] => none
  | i :: route => roots[i]?.bind (follow? route)

mutual

/-- The routes from a group to the groups in it, itself first. -/
def routes : ThreadGroup → List (List Nat × ThreadGroup)
  | ⟨id, name, className, groups, threads⟩ =>
    ([], ⟨id, name, className, groups, threads⟩) :: routesFrom 0 groups

/-- The routes through a forest whose first root has the number `first`. -/
def routesFrom (first : Nat) : List ThreadGroup → List (List Nat × ThreadGroup)
  | [] => []
  | group :: rest =>
    (routes group).map (fun r => (first :: r.1, r.2)) ++ routesFrom (first + 1) rest

end

-- For a row of groups the number of the first has to be arbitrary: the rest of the row is a row
-- that begins one further on.
mutual

theorem mem_routes_iff : ∀ (group : ThreadGroup) (route : List Nat) (found : ThreadGroup),
    (route, found) ∈ routes group ↔ follow? route group = some found
  | ⟨_, _, _, groups, _⟩, [], found => by
      have hnone : ([], found) ∉ routesFrom 0 groups := by
        rw [mem_routesFrom_iff groups]
        rintro ⟨_, _, hroute, _⟩
        contradiction
      rw [routes, List.mem_cons, or_iff_left hnone, follow?, Option.some_inj, Prod.mk.injEq,
        and_iff_right rfl, eq_comm]
  | ⟨_, _, _, groups, _⟩, i :: route, found => by
      rw [routes, List.mem_cons, Prod.mk.injEq, mem_routesFrom_iff groups, follow?]
      simp

theorem mem_routesFrom_iff : ∀ (groups : List ThreadGroup) (first : Nat) (route : List Nat)
    (found : ThreadGroup), (route, found) ∈ routesFrom first groups ↔
      ∃ i rest, route = (first + i) :: rest ∧ groups[i]?.bind (follow? rest) = some found
  | [], _, _, _ => by simp [routesFrom]
  | group :: others, first, route, found => by
      rw [routesFrom, List.mem_append, List.mem_map, mem_routesFrom_iff others]
      constructor
      · rintro (⟨⟨rest, x⟩, hin, heq⟩ | ⟨i, rest, hroute, hfound⟩)
        · cases heq
          exact ⟨0, rest, rfl, (mem_routes_iff group rest x).mp hin⟩
        · refine ⟨i + 1, rest, ?_, hfound⟩
          rw [hroute, Nat.add_right_comm, Nat.add_assoc]
      · rintro ⟨i, rest, rfl, hfound⟩
        cases i with
        | zero => exact .inl ⟨(rest, found), (mem_routes_iff group rest found).mpr hfound, rfl⟩
        | succ i =>
            refine .inr ⟨i, rest, ?_, hfound⟩
            rw [Nat.add_right_comm, Nat.add_assoc]

end

/-- The routes through a forest lead to the groups that are there. -/
theorem mem_routesFrom_zero_iff {roots : List ThreadGroup} {route : List Nat}
    {found : ThreadGroup} : (route, found) ∈ routesFrom 0 roots ↔ at? roots route = some found := by
  rw [mem_routesFrom_iff roots]
  cases route with
  | nil => simp [at?]
  | cons i route => simp [at?]

mutual

/-- A route comes before those that go on from its end, and these come in the order of the numbers
with which they go on. -/
theorem routes_ascending : ∀ group : ThreadGroup,
    (routes group).Pairwise fun r r' => r.1 < r'.1
  | ⟨_, _, _, groups, _⟩ => by
      rw [routes, List.pairwise_cons]
      refine ⟨?_, routesFrom_ascending groups 0⟩
      rintro ⟨route, found⟩ hin
      obtain ⟨i, rest, rfl, _⟩ := (mem_routesFrom_iff groups 0 route found).mp hin
      exact List.nil_lt_cons _ _

theorem routesFrom_ascending : ∀ (groups : List ThreadGroup) (first : Nat),
    (routesFrom first groups).Pairwise fun r r' => r.1 < r'.1
  | [], _ => .nil
  | group :: others, first => by
      rw [routesFrom, List.pairwise_append, List.pairwise_map]
      refine ⟨?_, routesFrom_ascending others (first + 1), ?_⟩
      · refine (routes_ascending group).imp fun h => ?_
        exact List.cons_lt_cons_iff.mpr (.inr ⟨rfl, h⟩)
      · -- a route by way of the first group against one by way of a later group
        rintro r hr ⟨route, found⟩ hin
        obtain ⟨⟨rest, x⟩, _, rfl⟩ := List.mem_map.mp hr
        obtain ⟨i, later, rfl, _⟩ := (mem_routesFrom_iff others (first + 1) route found).mp hin
        exact List.cons_lt_cons_iff.mpr (.inl (by omega))

end

mutual

/-- The recursion follows the routes; the depth of a group is told by the length of its route. -/
theorem preorder_eq_routes : ∀ (group : ThreadGroup) (depth : Nat),
    (preorder depth group).map (fun e => (e.1 + 1, e.2)) =
      (routes group).map fun r => (depth + 1 + r.1.length, r.2)
  | ⟨_, _, _, groups, _⟩, depth => by
      rw [preorder, routes, List.map_cons, List.map_cons, preorderList_eq_routesFrom groups _ 0]
      rfl

theorem preorderList_eq_routesFrom : ∀ (groups : List ThreadGroup) (depth first : Nat),
    (preorderList depth groups).map (fun e => (e.1 + 1, e.2)) =
      (routesFrom first groups).map fun r => (depth + r.1.length, r.2)
  | [], _, _ => rfl
  | group :: others, depth, first => by
      rw [preorderList, routesFrom, List.map_append, List.map_append, List.map_map,
        preorder_eq_routes group, preorderList_eq_routesFrom others depth (first + 1)]
      congr 1
      refine List.map_congr_left fun r _ => ?_
      rw [Function.comp_apply, List.length_cons, Nat.add_right_comm, Nat.add_assoc]

end

end Routes

end Breakpoints.ThreadGroup
