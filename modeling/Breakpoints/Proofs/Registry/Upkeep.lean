import Breakpoints.Proofs.GroupTree.Subtree
import Breakpoints.Proofs.Registry.Membership
import Breakpoints.Proofs.Registry.Origin

/-!
What is in order in every registry: the groups form a tree, every breakpoint is in one of them, and
whatever has to be written down about a breakpoint can be read again.
-/

namespace Breakpoints

/-- The kind of the breakpoint has a constructor, and its filters were read from texts. -/
structure Breakpoint.Savable (bp : Breakpoint) (kit : Kit) : Prop where
  registered : kit.isRegistered bp.kind = true
  classFilters : FilterList.Kept bp.classFilters
  threadFilters : FilterList.Kept bp.threadFilters

theorem Breakpoint.MadeBy.savable {bp : Breakpoint} {kit : Kit} (h : bp.MadeBy kit)
    (hkit : kit.Plain) : bp.Savable kit := by
  obtain ⟨hclass, hthread⟩ := h.kept hkit.readsFilters
  refine ⟨?_, hclass, hthread⟩
  obtain ⟨id, spec, group, settings, made, hmake, hspec, -⟩ := h
  rw [Kit.make] at hmake
  split at hmake
  next => contradiction
  next constructor hfound =>
    cases hmake
    have hplain : constructor.Plain := hkit spec.kind constructor hfound
    rw [kind, hspec, hplain.spec_eq, Kit.isRegistered, hfound]
    rfl

theorem Breakpoint.Savable.renewed {bp bp' : Breakpoint} {kit : Kit} (h : bp.Savable kit)
    (hrenewed : bp.Renewed bp') : bp'.Savable kit where
  registered := by
    rw [kind, hrenewed.spec_eq]
    exact h.registered
  classFilters := h.classFilters.renewed hrenewed.classFilters
  threadFilters := h.threadFilters.renewed hrenewed.threadFilters

namespace Registry

variable {τ : Type} {m m' : Registry τ}

def AllSavable (m : Registry τ) : Prop :=
  ∀ id bp, m.find? id = some bp → bp.Savable m.kit

theorem AllSavable.change [Target τ] {scope : Scope τ} (h : m.AllSavable) (hplain : m.kit.Plain)
    (hchange : Change scope m m') : m'.AllSavable := by
  intro id bp' hbp'
  rw [hchange.continues.kit_eq]
  rcases hchange.continues.origin id bp' hbp' with hmade | ⟨bp, hbp, hrenewed⟩
  · exact hmade.savable hplain
  · exact (h id bp hbp).renewed hrenewed

section Shape

theorem insert_shaped (hm : m.groups.Shaped) (spec : Spec) (group : Nat)
    (configure : Breakpoint → Except Failure Breakpoint) :
    (m.insert spec group configure).2.groups.Shaped := by
  simp only [insert]
  split
  · exact hm
  split
  · exact hm
  split
  · exact hm
  next hmove => exact hm.sameShape (.moveMember hmove)

variable [Target τ]

theorem destroy_sameShape (m : Registry τ) (id : Nat) :
    GroupTree.SameShape m.groups (m.destroy id).2.groups := by
  cases hfind : m.find? id with
  | none =>
      rw [destroy_of_none hfind]
      exact .refl m.groups
  | some bp =>
      rw [destroy_groups hfind]
      exact .removeMember m.groups bp.group id

/-- Whatever changes, the groups form a tree. -/
theorem Change.shaped {scope : Scope τ} (h : Change scope m m') (hm : m.groups.Shaped) :
    m'.groups.Shaped := by
  cases h
  case insert hmove _ => exact hm.sameShape (.moveMember hmove)
  case destroy id => exact hm.sameShape (destroy_sameShape m id)
  case regroup hreshaped => exact hm.reshaped hreshaped
  case transfer hmove => exact hm.sameShape (.moveMember hmove)
  case removeGroup hremove =>
    exact foldl_destroy_induction (P := fun m => m.groups.Shaped)
      (fun m id hm => hm.sameShape (destroy_sameShape m id)) _ (hm.remove hremove)
  all_goals exact hm

theorem Leads.shaped {scope : Scope τ} (h : Leads scope m m') (hm : m.groups.Shaped) :
    m'.groups.Shaped := by
  induction h with
  | refl => exact hm
  | tail _ hchange ih => exact hchange.shaped ih

theorem resolveNew_shaped (hm : m.groups.Shaped) (id : Nat) :
    (m.resolveNew id).2.groups.Shaped := by
  have hleads : Leads (.drifting fun _ => True) m (m.resolveNew id).2 := resolveNew_leads m id
  exact hleads.shaped hm

theorem createSpec_shaped (hm : m.groups.Shaped) (spec : Spec) (group : Nat) :
    (m.createSpec spec group).2.groups.Shaped := by
  have hinsert := insert_shaped hm spec group .ok
  rw [createSpec]
  split
  next heq =>
    rw [heq] at hinsert
    exact hinsert
  next heq =>
    rw [heq] at hinsert
    exact resolveNew_shaped hinsert _

theorem createIn_shaped (hm : m.groups.Shaped) (raw : String) (group : Nat) :
    (m.createIn raw group).2.groups.Shaped := by
  rw [createIn]
  split
  · exact hm
  · exact createSpec_shaped hm _ group

theorem restore_shaped (hm : m.groups.Shaped) (record : Record) :
    (m.restore record).2.groups.Shaped := by
  rw [restore]
  split
  · exact hm
  split
  · exact hm
  split
  · exact hm
  next conditions _ _ monitors _ _ group groups hpath =>
    have hleads : Leads (.drifting fun _ => True) m { m with groups } :=
      regroup_leads (GroupTree.ensurePath_reshaped hpath)
    have hinsert := insert_shaped (hleads.shaped hm) record.spec group
      (record.configure conditions monitors)
    split
    next heq =>
      rw [heq] at hinsert
      exact hinsert
    next heq =>
      rw [heq] at hinsert
      exact resolveNew_shaped hinsert _

theorem setEnabled_groups (m : Registry τ) (id : Nat) (enabled : Bool) :
    (m.setEnabled id enabled).2.groups = m.groups := by
  simp only [setEnabled, refresh, clearRequest, store]
  repeat' split
  all_goals rfl

/-- Whatever the constructors make, every move keeps the groups a tree. -/
theorem step_shaped (hm : m.groups.Shaped) (move : Move τ) : (m.step move).groups.Shaped := by
  have hwithin : move.Within (.drifting fun _ => True) := Move.within_drifting fun _ _ => trivial
  cases move with
  | createIn raw group => exact createIn_shaped hm raw group
  | createSpec spec group => exact createSpec_shaped hm spec group
  | restore record => exact restore_shaped hm record
  | setEnabled id enabled => exact (setEnabled_groups m id enabled).symm ▸ hm
  | _ => exact (step_leads_of_not_reliesOnKit rfl hwithin).shaped hm

theorem run_shaped (hm : m.groups.Shaped) (moves : List (Move τ)) :
    (m.run moves).groups.Shaped := by
  induction moves generalizing m with
  | nil => exact hm
  | cons move moves ih => exact ih (step_shaped hm move)

end Shape

/-- The registry is in order. -/
structure Sound (m : Registry τ) : Prop where
  orderly : m.Orderly
  grouped : Grouped (fun _ => False) m
  shaped : m.groups.Shaped
  savable : m.AllSavable

namespace Sound

theorem create (target : τ) (kit : Kit) (settings : Settings) :
    (create target kit settings).Sound where
  orderly := create_orderly target kit settings
  grouped := .create target kit settings
  shaped := .initial
  savable id bp hfind := by simp [Registry.create, find?] at hfind

/-- A breakpoint is in a group that there is. -/
theorem housed (h : m.Sound) {id : Nat} {bp : Breakpoint} (hfind : m.find? id = some bp) :
    m.groups.contains bp.group = true := by
  have hgroup : m.groupOf? id = some bp.group := groupOf?_eq_some_iff.mpr ⟨bp, hfind, rfl⟩
  have hmember := (h.grouped.isMember_iff bp.group id).mpr ⟨not_false, hgroup⟩
  exact GroupTree.contains_of_isMember hmember

/-- A registry that is in order stays so, whatever happens. -/
theorem leads [Target τ] {scope : Scope τ} (h : m.Sound) (hplain : m.kit.Plain)
    (hleads : Leads scope m m') : m'.Sound := by
  induction hleads with
  | refl => exact h
  | tail hbefore hchange ih =>
      exact ⟨hchange.orderly ih.orderly, ih.grouped.change ih.orderly hchange,
        hchange.shaped ih.shaped, ih.savable.change (Leads.kit_eq hbefore ▸ hplain) hchange⟩

end Sound

end Registry

end Breakpoints
