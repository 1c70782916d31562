import Breakpoints.Proofs.GroupTree.Path

/-!
The operations on groups as they are carried out where the groups stand: each step changes the tree
or fails, and what earlier steps have changed stays.  In a tree no step fails after the first
change, so a failure leaves the tree as it was.
-/

namespace Breakpoints.GroupTree

/-- Steps on a tree.  A failure ends them, and the tree stays as they have left it by then. -/
abbrev InPlace := ExceptT Failure (StateM GroupTree)

namespace InPlace

/-- Fails unless a condition is met. -/
def require (condition : Bool) (e : Failure) : InPlace Unit :=
  if condition then pure () else throw e

/-- Changes the tree without a check. -/
def rewrite (f : GroupTree → GroupTree) : InPlace Unit :=
  modifyThe GroupTree f

/-- Changes one group, which has to be there. -/
def alter (group : Nat) (f : Group → Group) : InPlace Unit := do
  require ((← get).contains group) (.unknownGroup group)
  rewrite (·.modify group f)

/-- Takes a group from the list of the one above it, if it has one. -/
def detach (above : Option Nat) (group : Nat) : InPlace Unit :=
  match above with
  | none => pure ()
  | some parent => alter parent (dropChild group)

def create (name : String) (parent : Nat) : InPlace Nat := do
  let id := (← get).nextId
  alter parent (addChild id)
  rewrite fun t => ⟨t.groups.insert id ⟨name, true, some parent, [], ∅⟩, id + 1⟩
  return id

def move (group parent : Nat) : InPlace Unit := do
  require (group != root) .rootGroup
  require ((← get).contains group) (.unknownGroup group)
  require ((← get).contains parent) (.unknownGroup parent)
  require (!((← get).ancestors parent).contains group) (.groupCycle group)
  let above := ((← get).find? group).bind (·.parent)
  alter group fun g => { g with parent := some parent }
  detach above group
  alter parent (addChild group)

def moveMember (id : Nat) (source : Option Nat) (group : Nat) : InPlace Unit := do
  require ((← get).contains group) (.unknownGroup group)
  match source with
  | none => pure ()
  | some old => rewrite (·.modify old fun g => { g with members := g.members.remove id })
  alter group fun g => { g with members := g.members.add id }

def removeMember (group id : Nat) : InPlace Bool := do
  let found := (← get).isMember group id
  rewrite (·.modify group fun g => { g with members := g.members.remove id })
  return found

def setEnabled (group : Nat) (enabled : Bool) : InPlace Unit :=
  alter group fun g => { g with enabled }

def descend (group : Nat) : List String → InPlace Nat
  | [] => pure group
  | name :: names => do
    match (← get).childNamed? group name with
    | some child => descend child names
    | none =>
      let child ← create name group
      descend child names

def ensurePath (path : String) : InPlace Nat :=
  descend root (pathNames path)

/-- Takes groups out one after another, and lists their members. -/
def takeOut : List Nat → InPlace (List Nat)
  | [] => pure []
  | group :: doomed => do
    match (← get).find? group with
    | none => takeOut doomed
    | some g =>
      rewrite fun t => { t with groups := t.groups.erase group }
      let rest ← takeOut doomed
      return g.members.toList ++ rest

def remove (group : Nat) : InPlace (List Nat) := do
  require (group != root) .rootGroup
  require ((← get).contains group) (.unknownGroup group)
  let doomed := (← get).subtree group
  detach (((← get).find? group).bind (·.parent)) group
  takeOut doomed

/-- What steps answer on a tree, and the tree that they leave. -/
def on {α : Type} (steps : InPlace α) (t : GroupTree) : Except Failure α × GroupTree :=
  (steps.run.run t : Id _)

section On

variable {α β : Type} {t t' : GroupTree}

theorem on_pure (a : α) : (pure a : InPlace α).on t = (.ok a, t) := rfl

theorem on_rewrite (f : GroupTree → GroupTree) : (rewrite f).on t = (.ok (), f t) := rfl

/-- Once a step has failed, no other follows. -/
theorem on_bind (steps : InPlace α) (next : α → InPlace β) :
    (steps >>= next).on t = match steps.on t with
      | (.ok a, t') => (next a).on t'
      | (.error e, t') => (.error e, t') := by
  rcases hsteps : steps.on t with ⟨e | a, t'⟩
  · have hrun : StateT.run (ExceptT.run steps) t = (.error e, t') := hsteps
    simp only [on, ExceptT.run_bind, StateT.run_bind, hrun]
    rfl
  · have hrun : StateT.run (ExceptT.run steps) t = (.ok a, t') := hsteps
    simp only [on, ExceptT.run_bind, StateT.run_bind, hrun]
    rfl

theorem on_bind_of_ok {steps : InPlace α} {a : α} (h : steps.on t = (.ok a, t'))
    (next : α → InPlace β) : (steps >>= next).on t = (next a).on t' := by
  rw [on_bind, h]

theorem on_get_bind (next : GroupTree → InPlace α) :
    ((get : InPlace GroupTree) >>= next).on t = (next t).on t :=
  on_bind_of_ok rfl next

theorem on_require_bind (condition : Bool) (e : Failure) (next : Unit → InPlace α) :
    (require condition e >>= next).on t =
      if condition then (next ()).on t else (.error e, t) := by
  cases condition with
  | false => exact on_bind (require false e) next
  | true => exact on_bind_of_ok rfl next

theorem on_alter {group : Nat} (h : t.contains group = true) (f : Group → Group) :
    (alter group f).on t = (.ok (), t.modify group f) := by
  rw [alter, on_get_bind, on_require_bind, if_pos h, on_rewrite]

theorem on_alter_missing {group : Nat} (h : t.contains group = false) (f : Group → Group) :
    (alter group f).on t = (.error (.unknownGroup group), t) := by
  rw [alter, on_get_bind, on_require_bind, h]
  rfl

theorem on_detach {above : Option Nat}
    (h : ∀ parent, above = some parent → t.contains parent = true) (group : Nat) :
    (detach above group).on t = (.ok (), t.detach above group) := by
  cases above with
  | none => rfl
  | some parent => exact on_alter (h parent rfl) (dropChild group)

end On

end InPlace

/-- An answer with the tree that comes with it, or a failure with the tree as it was. -/
def settle {α : Type} (t : GroupTree) :
    Except Failure (α × GroupTree) → Except Failure α × GroupTree
  | .ok (a, t') => (.ok a, t')
  | .error e => (.error e, t)

section Detach

variable {t : GroupTree}

theorem membersOf?_detach (t : GroupTree) (above : Option Nat) (group j : Nat) :
    (t.detach above group).membersOf? j = t.membersOf? j := by
  cases above with
  | none => rfl
  | some parent => exact membersOf?_modify_of_same t parent (f := dropChild group) (fun _ => rfl) j

/-- The group above a group is there. -/
theorem Shaped.contains_above (ht : t.Shaped) {group : Nat} {g : Group}
    (hfind : t.find? group = some g) (above : Nat) (habove : g.parent = some above) :
    t.contains above = true := by
  have hlink : t.parentOf? group = some (some above) := by
    rw [parentOf?, hfind, Option.map_some, habove]
  exact ht.contains_parent hlink

end Detach

namespace InPlace

variable {t : GroupTree}

theorem create_on (t : GroupTree) (name : String) (parent : Nat) :
    (create name parent).on t = t.settle (t.create name parent) := by
  rw [create, on_get_bind, GroupTree.create]
  cases hparent : t.contains parent with
  | false =>
      rw [on_bind, on_alter_missing hparent]
      rfl
  | true =>
      rw [on_bind_of_ok (on_alter hparent _)]
      rfl

/-- The group above is there to give up its child, and so is the one that takes it. -/
theorem move_on (ht : t.Shaped) (group parent : Nat) :
    (move group parent).on t = t.settle ((t.move group parent).map ((), ·)) := by
  simp only [move, on_require_bind, on_get_bind, GroupTree.move]
  by_cases hroot : group = root
  · rw [if_pos hroot, hroot]
    rfl
  have hbelow : (group != root) = true := by simpa using hroot
  rw [if_pos hbelow, if_neg hroot]
  cases hfind : t.find? group with
  | none =>
      have hgroup : t.contains group = false := Table.contains_eq_false_iff.mpr hfind
      rw [hgroup]
      rfl
  | some g =>
      have hgroup : t.contains group = true := contains_eq_true_iff.mpr ⟨g, hfind⟩
      rw [if_pos hgroup]
      cases hparent : t.contains parent with
      | false => rfl
      | true =>
          cases hcycle : (t.ancestors parent).contains group with
          | true => rfl
          | false =>
              let lifted := t.modify group fun g => { g with parent := some parent }
              have habove : ∀ old, g.parent = some old → lifted.contains old = true := by
                intro old hold
                rw [contains_modify, ht.contains_above hfind old hold]
              have hlast : (lifted.detach g.parent group).contains parent = true := by
                rw [contains_detach, contains_modify, hparent]
              simp only [Bool.not_false, Bool.not_true, Bool.false_eq_true, if_true, if_false,
                Option.bind_some]
              rw [on_bind_of_ok (on_alter hgroup _), on_bind_of_ok (on_detach habove group),
                on_alter hlast]
              cases g.parent with
              | none => rfl
              | some old => rfl

theorem moveMember_on (t : GroupTree) (id : Nat) (source : Option Nat) (group : Nat) :
    (moveMember id source group).on t = t.settle ((t.moveMember id source group).map ((), ·)) := by
  rw [moveMember, on_get_bind, on_require_bind]
  unfold GroupTree.moveMember
  cases hgroup : t.contains group with
  | false => rfl
  | true =>
      cases source with
      | none => exact on_alter hgroup _
      | some old =>
          refine (on_bind_of_ok (on_rewrite _) _).trans (on_alter ?_ _)
          rw [contains_modify, hgroup]

theorem removeMember_on (t : GroupTree) (group id : Nat) :
    (removeMember group id).on t = t.settle (.ok (t.removeMember group id)) := by
  rw [removeMember, on_get_bind, on_bind_of_ok (on_rewrite _), on_pure]
  rfl

theorem setEnabled_on (t : GroupTree) (group : Nat) (enabled : Bool) :
    (setEnabled group enabled).on t = t.settle ((t.setEnabled group enabled).map ((), ·)) := by
  rw [setEnabled, GroupTree.setEnabled]
  cases hgroup : t.contains group with
  | false => exact on_alter_missing hgroup _
  | true => exact on_alter hgroup _

theorem descend_on {names : List String} {group found : Nat} {t' : GroupTree}
    (h : t.descend group names = .ok (found, t')) :
    (descend group names).on t = (.ok found, t') := by
  induction names generalizing t group with
  | nil =>
      cases h
      rfl
  | cons name names ih =>
      rw [GroupTree.descend] at h
      rw [descend, on_get_bind]
      cases hchild : t.childNamed? group name with
      | some child =>
          rw [hchild] at h
          exact ih h
      | none =>
          rw [hchild] at h
          dsimp only at h ⊢
          split at h
          · contradiction
          next child grown hcreate =>
            have hstep : (create name group).on t = (.ok child, grown) := by
              rw [create_on, hcreate]
              rfl
            rw [on_bind_of_ok hstep]
            exact ih h

/-- A path is followed to its end, so no group is created for nothing. -/
theorem ensurePath_on (ht : t.Shaped) (path : String) :
    (ensurePath path).on t = t.settle (t.ensurePath path) := by
  obtain ⟨found, t', hpath, -⟩ := ensurePath_eq_ok ht path
  rw [hpath]
  exact descend_on hpath

theorem takeOut_on {doomed : List Nat} (hnodup : doomed.Nodup) (t : GroupTree) :
    (takeOut doomed).on t =
      (.ok (doomed.flatMap fun group => ((t.membersOf? group).map IdSet.toList).getD []),
        { t with groups := doomed.foldl Table.erase t.groups }) := by
  induction doomed generalizing t with
  | nil => rfl
  | cons group doomed ih =>
      obtain ⟨hnew, hrest⟩ := List.nodup_cons.mp hnodup
      rw [takeOut, on_get_bind, List.flatMap_cons, List.foldl_cons]
      cases hfind : t.find? group with
      | none =>
          rw [ih hrest, Table.erase_of_find?_eq_none hfind, membersOf?, hfind]
          rfl
      | some g =>
          have hothers : ∀ other ∈ doomed,
              membersOf? { t with groups := t.groups.erase group } other = t.membersOf? other := by
            intro other hother
            have hne : other ≠ group := by
              rintro rfl
              exact hnew hother
            rw [membersOf?, membersOf?, find?, find?, Table.find?_erase_of_ne _ hne]
          dsimp only
          rw [on_bind_of_ok (on_rewrite _), on_bind_of_ok (ih hrest _), on_pure, membersOf?, hfind,
            List.flatMap_congr fun other hother => by rw [hothers other hother]]
          rfl

theorem remove_on (ht : t.Shaped) (group : Nat) :
    (remove group).on t = t.settle (t.remove group) := by
  simp only [remove, on_require_bind, on_get_bind, GroupTree.remove]
  by_cases hroot : group = root
  · rw [if_pos hroot, hroot]
    rfl
  have hbelow : (group != root) = true := by simpa using hroot
  rw [if_pos hbelow, if_neg hroot]
  cases hfind : t.find? group with
  | none =>
      have hgroup : t.contains group = false := Table.contains_eq_false_iff.mpr hfind
      rw [hgroup]
      rfl
  | some g =>
      have hgroup : t.contains group = true := contains_eq_true_iff.mpr ⟨g, hfind⟩
      rw [if_pos hgroup, Option.bind_some,
        on_bind_of_ok (on_detach (ht.contains_above hfind) group),
        takeOut_on (subtree_nodup ht hgroup)]
      simp only [membersOf?_detach]
      simp only [membersOf?, Option.map_map]
      cases g.parent with
      | none => rfl
      | some parent => rfl

end InPlace

end Breakpoints.GroupTree
