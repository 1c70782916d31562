import Breakpoints.Proofs.Registry.Steps
import Breakpoints.Target.Scripted

/-!
Which breakpoint is in which group.  The groups list their members, and each breakpoint knows its
group; that the two agree is the invariant of this file.
-/

namespace Breakpoints.Registry

variable {τ : Type} {m m' : Registry τ}

/-- The group that a breakpoint says it is in. -/
def groupOf? (m : Registry τ) (id : Nat) : Option Nat :=
  (m.find? id).map (·.group)

theorem groupOf?_eq_some_iff {id group : Nat} :
    m.groupOf? id = some group ↔ ∃ bp, m.find? id = some bp ∧ bp.group = group :=
  Option.map_eq_some_iff

theorem groupOf?_of_insert {id group : Nat} {bp : Breakpoint}
    (h : m'.breakpoints = m.breakpoints.insert id bp) (hgroup : bp.group = group) (j : Nat) :
    m'.groupOf? j = if j = id then some group else m.groupOf? j := by
  rw [groupOf?, find?_of_insert h]
  split
  · exact congrArg some hgroup
  · rfl

/-- A breakpoint that changes may stay in its group. -/
theorem groupOf?_of_update {id : Nat} {bp bp' : Breakpoint} (hfind : m.find? id = some bp)
    (hinsert : m'.breakpoints = m.breakpoints.insert id bp') (hgroup : bp'.group = bp.group)
    (j : Nat) : m'.groupOf? j = m.groupOf? j := by
  rw [groupOf?_of_insert hinsert hgroup]
  split
  next heq => rw [heq, groupOf?, hfind, Option.map_some]
  next => rfl

/-- The groups list as members the breakpoints that say they are in them, except for the groups
that are `gone`, which list nobody. -/
structure Grouped (gone : Nat → Prop) (m : Registry τ) : Prop where
  numbered : m.groups.Numbered
  isMember_iff : ∀ group id,
    m.groups.isMember group id = true ↔ ¬ gone group ∧ m.groupOf? id = some group

namespace Grouped

theorem keep {gone : Nat → Prop} (h : Grouped gone m) (hgroups : m'.groups = m.groups)
    (hgroupOf : ∀ id, m'.groupOf? id = m.groupOf? id) : Grouped gone m' where
  numbered := hgroups ▸ h.numbered
  isMember_iff group id := by rw [hgroups, hgroupOf, h.isMember_iff]

theorem create (target : τ) (kit : Kit) (settings : Settings) :
    Grouped (fun _ => False) (create target kit settings) where
  numbered := GroupTree.initial_numbered
  isMember_iff group id := by
    rw [Registry.create, GroupTree.isMember_initial]
    simp [groupOf?, find?]

/-- No group lists a breakpoint that is not there. -/
theorem not_isMember {gone : Nat → Prop} (h : Grouped gone m) {id : Nat}
    (hnone : m.find? id = none) (group : Nat) : m.groups.isMember group id = false := by
  rw [← Bool.not_eq_true, h.isMember_iff, groupOf?, hnone]
  rintro ⟨-, hsome⟩
  contradiction

/-- A breakpoint comes to a group from the one it was in, or from nowhere if it is new. -/
theorem move (h : Grouped (fun _ => False) m) {id group : Nat} {bp : Breakpoint}
    (hmove : m.groups.moveMember id (m.groupOf? id) group = .ok m'.groups)
    (hinsert : m'.breakpoints = m.breakpoints.insert id bp) (hgroup : bp.group = group) :
    Grouped (fun _ => False) m' := by
  refine ⟨h.numbered.moveMember hmove, fun j i => ?_⟩
  rw [GroupTree.isMember_moveMember hmove, h.isMember_iff, groupOf?_of_insert hinsert hgroup]
  by_cases hi : i = id
  · simp [hi, eq_comm]
  · simp [hi]

end Grouped

variable [Target τ]

theorem groupOf?_destroy (m : Registry τ) (id j : Nat) :
    (m.destroy id).2.groupOf? j = if j = id then none else m.groupOf? j := by
  rw [groupOf?, find?_destroy]
  split
  · rfl
  · rfl

namespace Grouped

/-- A destruction takes a breakpoint out of its group, which may be gone already. -/
theorem destroy {gone : Nat → Prop} (h : Grouped gone m) (id : Nat) :
    Grouped gone (m.destroy id).2 := by
  cases hfind : m.find? id with
  | none => exact (destroy_of_none hfind).symm ▸ h
  | some bp =>
      have hgroups := destroy_groups hfind
      refine ⟨hgroups ▸ h.numbered.removeMember bp.group id, fun group i => ?_⟩
      rw [hgroups, GroupTree.isMember_removeMember, h.isMember_iff, groupOf?_destroy]
      by_cases hi : i = id
      · -- its own group is the only one that could list it
        subst hi
        simp [groupOf?, hfind, eq_comm]
      · simp [hi]

theorem isMember_destroy (h : Grouped (fun _ => False) m) (id group j : Nat) :
    (m.destroy id).2.groups.isMember group j =
      if j = id then false else m.groups.isMember group j := by
  rw [Bool.eq_iff_iff, (h.destroy id).isMember_iff, groupOf?_destroy]
  split
  · simp
  · rw [h.isMember_iff]

/-- Groups go, and with them the breakpoints in them. -/
theorem removeGroup (h : Grouped (fun _ => False) m) {group : Nat} {orphans : List Nat}
    {groups : GroupTree} (hremove : m.groups.remove group = .ok (orphans, groups)) :
    Grouped (fun _ => False)
      (orphans.foldl (fun m id => (m.destroy id).2) { m with groups }) := by
  have hhalf : Grouped (· ∈ m.groups.subtree group) { m with groups } := by
    refine ⟨h.numbered.remove hremove, fun j i => ?_⟩
    rw [GroupTree.isMember_remove hremove, h.isMember_iff, not_false_eq_true, true_and]
    rfl
  have hdone : Grouped (· ∈ m.groups.subtree group)
      (orphans.foldl (fun m id => (m.destroy id).2) { m with groups }) :=
    foldl_destroy_induction (fun _ id h => h.destroy id) orphans hhalf
  refine ⟨hdone.numbered, fun j i => ?_⟩
  rw [hdone.isMember_iff, not_false_eq_true, true_and, and_iff_right_iff_imp]
  -- whoever is left in a group is no orphan, so the group is not one of those that went
  intro hleft hdoomed
  rw [groupOf?, find?_foldl_destroy] at hleft
  split at hleft
  · contradiction
  next hkept =>
    have hmember : m.groups.isMember j i = true := (h.isMember_iff j i).mpr ⟨not_false, hleft⟩
    exact hkept ((GroupTree.mem_orphans_iff hremove i).mpr ⟨j, hdoomed, hmember⟩)

/-- Each elementary change moves both halves of a membership together. -/
theorem change {scope : Scope τ} (h : Grouped (fun _ => False) m) (hm : m.Orderly)
    (hchange : Change scope m m') : Grouped (fun _ => False) m' := by
  cases hchange with
  | drift _ => exact h.keep rfl fun _ => rfl
  | refuse _ => exact h.keep rfl fun _ => rfl
  | skipId => exact h.keep rfl fun _ => rfl
  | insert hnew hmove =>
      have hnone : m.groupOf? m.nextId = none := by rw [groupOf?, hm.find?_nextId, Option.map_none]
      exact h.move (hnone.symm ▸ hmove) rfl hnew.group_eq
  | edit hfind => exact h.keep rfl (groupOf?_of_update hfind rfl rfl)
  | restyle hfind _ => exact h.keep rfl (groupOf?_of_update hfind rfl rfl)
  | toggle hfind _ => exact h.keep rfl (groupOf?_of_update hfind rfl rfl)
  | switch hfind _ _ => exact h.keep rfl (groupOf?_of_update hfind rfl rfl)
  | bind hfind _ _ => exact h.keep rfl (groupOf?_of_update hfind rfl rfl)
  | release hfind _ => exact h.keep rfl (groupOf?_of_update hfind rfl rfl)
  | forget _ hfind _ => exact h.keep rfl (groupOf?_of_update hfind rfl rfl)
  | expire hfind _ => exact h.keep rfl (groupOf?_of_update hfind rfl rfl)
  | restart _ hfind _ => exact h.keep rfl (groupOf?_of_update hfind rfl rfl)
  | rearm _ hfind _ _ => exact h.keep rfl (groupOf?_of_update hfind rfl rfl)
  | destroy id => exact h.destroy id
  | regroup hreshaped =>
      refine ⟨hreshaped.numbered h.numbered, fun j i => ?_⟩
      rw [hreshaped.isMember h.numbered, h.isMember_iff]
      rfl
  | transfer hfind hmove =>
      have hsome : m.groupOf? _ = some _ := groupOf?_eq_some_iff.mpr ⟨_, hfind, rfl⟩
      exact h.move (hsome.symm ▸ hmove) rfl rfl
  | removeGroup hremove => exact h.removeGroup hremove

theorem leads {scope : Scope τ} (h : Grouped (fun _ => False) m) (hm : m.Orderly)
    (hleads : Leads scope m m') : Grouped (fun _ => False) m' := by
  induction hleads with
  | refl => exact h
  | tail hbefore hchange ih => exact ih.change (Leads.orderly hbefore hm) hchange

end Grouped

/-- Whatever happens, also when a step of it fails: a breakpoint is a member of a group if and only
if it is live and says that it is in this group.  So each live breakpoint is in exactly one group,
and no group lists a breakpoint that is gone. -/
theorem run_grouped (target : τ) {kit : Kit} (hkit : kit.Faithful) (settings : Settings)
    (moves : List (Move τ)) :
    let m := (create target kit settings).run moves
    (∀ group id, m.groups.isMember group id = true ↔
      ∃ bp, m.find? id = some bp ∧ bp.group = group) ∧
    (∀ id bp, m.find? id = some bp →
      ∃! group, m.groups.contains group = true ∧ m.groups.isMember group id = true) ∧
    (∀ group id, m.find? id = none → m.groups.isMember group id = false) := by
  intro m
  have hempty : (create target kit settings).Orderly := create_orderly target kit settings
  have hleads : Leads (.drifting fun _ => True) (create target kit settings) m :=
    run_leads hkit hempty fun move _ => Move.within_drifting fun _ _ => trivial
  have hgrouped : Grouped (fun _ => False) m :=
    (Grouped.create target kit settings).leads hempty hleads
  have hiff : ∀ group id, m.groups.isMember group id = true ↔
      ∃ bp, m.find? id = some bp ∧ bp.group = group := by
    intro group id
    rw [hgrouped.isMember_iff, groupOf?_eq_some_iff, not_false_eq_true, true_and]
  refine ⟨hiff, fun id bp hfind => ?_, fun group id hnone => ?_⟩
  · have hmember : m.groups.isMember bp.group id = true := (hiff bp.group id).mpr ⟨bp, hfind, rfl⟩
    refine ⟨bp.group, ⟨GroupTree.contains_of_isMember hmember, hmember⟩, fun group h => ?_⟩
    obtain ⟨found, hfound, hgroup⟩ := (hiff group id).mp h.2
    rw [hfind] at hfound
    cases hfound
    exact hgroup.symm
  · rw [← Bool.not_eq_true, hiff]
    rintro ⟨bp, hfind, -⟩
    rw [hnone] at hfind
    contradiction

/-- A breakpoint that is moved in time outlives its former group; one that stays goes with it. -/
theorem run_grouped_moved :
    let m := (create ScriptedTarget.initial .standard .standard).run
      [.createGroup "io" GroupTree.root, .createSpec .uncaughtException 1,
        .createSpec .uncaughtException 1, .moveBreakpoint 2 GroupTree.root, .removeGroup 1]
    m.groups.isMember GroupTree.root 2 = true ∧ ∀ group, m.groups.isMember group 1 = false := by
  intro m
  have h := run_grouped ScriptedTarget.initial Kit.standard_faithful .standard
    [.createGroup "io" GroupTree.root, .createSpec .uncaughtException 1,
      .createSpec .uncaughtException 1, .moveBreakpoint 2 GroupTree.root, .removeGroup 1]
  exact ⟨(h.1 GroupTree.root 2).mpr ⟨_, rfl, rfl⟩, fun group => h.2.2 group 1 rfl⟩

end Breakpoints.Registry
