import Breakpoints.Proofs.Registry.Steps

/-!
Where a breakpoint comes from.  Whatever the constructors make, a breakpoint was made by one of them
and has kept its specification, and its filters were never set but from texts.
-/

namespace Breakpoints

/-- A breakpoint later on, as far as its specification is concerned; its filters may have been read
from texts since. -/
structure Breakpoint.Renewed (bp bp' : Breakpoint) : Prop where
  spec_eq : bp'.spec = bp.spec
  classFilters : FilterList.Renewed bp.classFilters bp'.classFilters
  threadFilters : FilterList.Renewed bp.threadFilters bp'.threadFilters

namespace Breakpoint

variable {bp bp' bp'' : Breakpoint}

theorem Renewed.of_eq (hspec : bp'.spec = bp.spec) (hclass : bp'.classFilters = bp.classFilters)
    (hthread : bp'.threadFilters = bp.threadFilters) : bp.Renewed bp' :=
  ⟨hspec, .inl hclass, .inl hthread⟩

theorem Renewed.trans (h : bp.Renewed bp') (h' : bp'.Renewed bp'') : bp.Renewed bp'' where
  spec_eq := h'.spec_eq.trans h.spec_eq
  classFilters := h.classFilters.trans h'.classFilters
  threadFilters := h.threadFilters.trans h'.threadFilters

theorem MadeBy.renewed {kit : Kit} (hmade : bp.MadeBy kit) (h : bp.Renewed bp') :
    bp'.MadeBy kit := by
  obtain ⟨id, spec, group, settings, made, hmake, hspec, hclass, hthread⟩ := hmade
  exact ⟨id, spec, group, settings, made, hmake, h.spec_eq.trans hspec,
    hclass.trans h.classFilters, hthread.trans h.threadFilters⟩

end Breakpoint

namespace Registry

variable {τ : Type} {m m' m'' : Registry τ}

/-- Each breakpoint of the later registry was in the earlier one, or its kit has made it since. -/
structure Continues (m m' : Registry τ) : Prop where
  kit_eq : m'.kit = m.kit
  origin : ∀ id bp', m'.find? id = some bp' →
    bp'.MadeBy m.kit ∨ ∃ bp, m.find? id = some bp ∧ bp.Renewed bp'

namespace Continues

theorem of_find? (hkit : m'.kit = m.kit)
    (hfind : ∀ id bp, m'.find? id = some bp → m.find? id = some bp) : Continues m m' where
  kit_eq := hkit
  origin id bp hbp := .inr ⟨bp, hfind id bp hbp, .of_eq rfl rfl rfl⟩

theorem refl (m : Registry τ) : Continues m m :=
  of_find? rfl fun _ _ hbp => hbp

theorem trans (h : Continues m m') (h' : Continues m' m'') : Continues m m'' where
  kit_eq := h'.kit_eq.trans h.kit_eq
  origin id bp'' hbp'' := by
    rcases h'.origin id bp'' hbp'' with hmade | ⟨bp', hbp', hrenewed'⟩
    · exact .inl (h.kit_eq ▸ hmade)
    rcases h.origin id bp' hbp' with hmade | ⟨bp, hbp, hrenewed⟩
    · exact .inl (hmade.renewed hrenewed')
    · exact .inr ⟨bp, hbp, hrenewed.trans hrenewed'⟩

/-- A new breakpoint comes. -/
theorem of_made {id : Nat} {bp : Breakpoint} (hmade : bp.MadeBy m.kit)
    (hinsert : m'.breakpoints = m.breakpoints.insert id bp) (hkit : m'.kit = m.kit) :
    Continues m m' where
  kit_eq := hkit
  origin j found hfound := by
    rw [find?_of_insert hinsert] at hfound
    split at hfound
    · cases hfound
      exact .inl hmade
    · exact .inr ⟨found, hfound, .of_eq rfl rfl rfl⟩

/-- One breakpoint changes. -/
theorem of_renewed {id : Nat} {bp bp' : Breakpoint} (hfind : m.find? id = some bp)
    (hinsert : m'.breakpoints = m.breakpoints.insert id bp') (hkit : m'.kit = m.kit)
    (hrenewed : bp.Renewed bp') : Continues m m' where
  kit_eq := hkit
  origin j found hfound := by
    rw [find?_of_insert hinsert] at hfound
    split at hfound
    next heq =>
      cases hfound
      rw [heq]
      exact .inr ⟨bp, hfind, hrenewed⟩
    next => exact .inr ⟨found, hfound, .of_eq rfl rfl rfl⟩

/-- One breakpoint changes in something else than its specification and its filters. -/
theorem of_update {id : Nat} {bp bp' : Breakpoint} (hfind : m.find? id = some bp)
    (hinsert : m'.breakpoints = m.breakpoints.insert id bp') (hkit : m'.kit = m.kit)
    (hspec : bp'.spec = bp.spec) (hclass : bp'.classFilters = bp.classFilters)
    (hthread : bp'.threadFilters = bp.threadFilters) : Continues m m' :=
  of_renewed hfind hinsert hkit (.of_eq hspec hclass hthread)

variable [Target τ]

theorem destroy (m : Registry τ) (id : Nat) : Continues m (m.destroy id).2 := by
  refine of_find? (destroy_fields m id).1 fun j bp hbp => ?_
  rw [find?_destroy] at hbp
  split at hbp
  · contradiction
  · exact hbp

end Continues

theorem insert_continues {spec : Spec} {group : Nat}
    {configure : Breakpoint → Except Failure Breakpoint}
    (hconfigure : ∀ made bp, configure made = .ok bp → made.Renewed bp) :
    Continues m (m.insert spec group configure).2 := by
  have hskipped : Continues m { m with nextId := m.nextId + 1 } := .of_find? rfl fun _ _ hbp => hbp
  simp only [insert]
  split
  · exact hskipped
  next made hmake =>
    split
    · exact hskipped
    next bp hbp =>
      split
      · exact hskipped
      next =>
        have hrenewed := hconfigure made bp hbp
        exact .of_made ⟨_, _, _, _, made, hmake, hrenewed.spec_eq, hrenewed.classFilters,
          hrenewed.threadFilters⟩ rfl rfl

variable [Target τ] {scope : Scope τ}

theorem Change.continues (h : Change scope m m') : Continues m m' := by
  cases h with
  | drift _ => exact .of_find? rfl fun _ _ hbp => hbp
  | refuse _ => exact .of_find? rfl fun _ _ hbp => hbp
  | skipId => exact .of_find? rfl fun _ _ hbp => hbp
  | insert _ _ hmade => exact .of_made hmade rfl rfl
  | edit hfind => exact .of_update hfind rfl rfl rfl rfl rfl
  | restyle hfind _ hclass hthread => exact .of_renewed hfind rfl rfl ⟨rfl, hclass, hthread⟩
  | toggle hfind _ => exact .of_update hfind rfl rfl rfl rfl rfl
  | switch hfind _ _ => exact .of_update hfind rfl rfl rfl rfl rfl
  | bind hfind _ _ => exact .of_update hfind rfl rfl rfl rfl rfl
  | release hfind _ => exact .of_update hfind rfl rfl rfl rfl rfl
  | forget _ hfind _ => exact .of_update hfind rfl rfl rfl rfl rfl
  | expire hfind _ => exact .of_update hfind rfl rfl rfl rfl rfl
  | restart _ hfind _ => exact .of_update hfind rfl rfl rfl rfl rfl
  | rearm _ hfind _ _ => exact .of_update hfind rfl rfl rfl rfl rfl
  | destroy id => exact .destroy m id
  | regroup _ => exact .of_find? rfl fun _ _ hbp => hbp
  | transfer hfind _ => exact .of_update hfind rfl rfl rfl rfl rfl
  | removeGroup _ =>
      exact foldl_destroy_induction (P := Continues m)
        (fun found id h => h.trans (.destroy found id))
        _ (.of_find? rfl fun _ _ hbp => hbp)

theorem Leads.continues (h : Leads scope m m') : Continues m m' := by
  induction h with
  | refl => exact .refl m
  | tail _ hchange ih => exact ih.trans hchange.continues

section Step

theorem resolveNew_continues (m : Registry τ) (id : Nat) : Continues m (m.resolveNew id).2 := by
  have hleads : Leads (.drifting fun _ => True) m (m.resolveNew id).2 := resolveNew_leads m id
  exact hleads.continues

theorem createSpec_continues (m : Registry τ) (spec : Spec) (group : Nat) :
    Continues m (m.createSpec spec group).2 := by
  have hinsert : Continues m (m.insert spec group .ok).2 :=
    insert_continues fun made bp hbp => by
      cases hbp
      exact .of_eq rfl rfl rfl
  rw [createSpec]
  split
  next heq =>
    rw [heq] at hinsert
    exact hinsert
  next heq =>
    rw [heq] at hinsert
    exact hinsert.trans (resolveNew_continues _ _)

theorem createIn_continues (m : Registry τ) (raw : String) (group : Nat) :
    Continues m (m.createIn raw group).2 := by
  rw [createIn]
  split
  · exact .refl m
  · exact createSpec_continues m _ group

theorem restore_continues (m : Registry τ) (record : Record) :
    Continues m (m.restore record).2 := by
  rw [restore]
  split
  · exact .refl m
  split
  · exact .refl m
  split
  · exact .refl m
  next conditions _ _ monitors _ _ group groups hpath =>
    have hgroups : Continues m { m with groups } := .of_find? rfl fun _ _ hbp => hbp
    have hinsert : Continues { m with groups }
        ({ m with groups }.insert record.spec group (record.configure conditions monitors)).2 :=
      insert_continues fun made bp hbp =>
        have hrenewed := Record.configure_renewed hbp
        ⟨hrenewed.1, hrenewed.2.1, hrenewed.2.2⟩
    split
    next heq =>
      rw [heq] at hinsert
      exact hgroups.trans hinsert
    next heq =>
      rw [heq] at hinsert
      exact (hgroups.trans hinsert).trans (resolveNew_continues _ _)

theorem refresh_continues {id : Nat} {bp bp' : Breakpoint} (hfind : m.find? id = some bp)
    (hrenewed : bp.Renewed bp') (old : Binding) : Continues m (m.refresh bp' id old).2 := by
  have hlater : ∀ binding, bp.Renewed { bp' with binding } := fun _ =>
    hrenewed.trans (.of_eq rfl rfl rfl)
  simp only [refresh, clearRequest]
  split
  · exact .of_renewed hfind rfl rfl (hlater none)
  next request _ _ =>
    refine .of_renewed hfind ?_ rfl (hlater (some ⟨request, old.anchor, false⟩))
    exact Table.insert_insert ..

theorem setEnabled_continues (m : Registry τ) (id : Nat) (enabled : Bool) :
    Continues m (m.setEnabled id enabled).2 := by
  simp only [setEnabled]
  split
  · exact .refl m
  next bp hfind =>
    have hflagged : bp.Renewed { bp with enabled } := .of_eq rfl rfl rfl
    split
    · exact .refl m
    split
    · exact .of_renewed hfind rfl rfl hflagged
    split
    · rw [refresh_store]
      exact refresh_continues hfind hflagged _
    split
    · exact .of_renewed hfind rfl rfl hflagged
    · exact .of_renewed hfind rfl rfl hflagged

theorem step_continues (m : Registry τ) (move : Move τ) : Continues m (m.step move) := by
  have hwithin : move.Within (.drifting fun _ => True) := Move.within_drifting fun _ _ => trivial
  cases move with
  | createIn raw group => exact createIn_continues m raw group
  | createSpec spec group => exact createSpec_continues m spec group
  | restore record => exact restore_continues m record
  | setEnabled id enabled => exact setEnabled_continues m id enabled
  | _ => exact (step_leads_of_not_reliesOnKit rfl hwithin).continues

/-- In a run no breakpoint comes but from the kit. -/
theorem run_continues (m : Registry τ) (moves : List (Move τ)) : Continues m (m.run moves) := by
  induction moves generalizing m with
  | nil => exact .refl m
  | cons move moves ih => exact (step_continues m move).trans (ih _)

end Step

end Registry

end Breakpoints
