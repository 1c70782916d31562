import Breakpoints.Proofs.Registry.Origin
import Breakpoints.Target.Scripted

/-!
Filters set again from their own texts.  Every filter in a registry was read from a text, and its
own text reads as the same filter.
-/

namespace Breakpoints

namespace Breakpoint

/-- Filters that are set from their own text stay as they are; only the binding gets stale. -/
theorem setClassFilters_text {bp : Breakpoint} (h : FilterList.Kept bp.classFilters) :
    bp.setClassFilters (bp.classFilters.map (·.text)) =
      if bp.enabled then .error (.mustBeDisabled bp.id) else .ok bp.markStale := by
  rw [setClassFilters, h.readOptional_text]
  rfl

theorem setThreadFilters_text {bp : Breakpoint} (h : FilterList.Kept bp.threadFilters) :
    bp.setThreadFilters (bp.threadFilters.map (·.text)) =
      if bp.enabled then .error (.mustBeDisabled bp.id) else .ok bp.markStale := by
  rw [setThreadFilters, h.readOptional_text]
  rfl

variable {bp bp' : Breakpoint} {text : Option String}

/-- Filters that were just set are set again from their own text without a change. -/
theorem setClassFilters_again (h : bp.setClassFilters text = .ok bp') :
    bp'.setClassFilters (bp'.classFilters.map (·.text)) = .ok bp'.markStale := by
  obtain ⟨hdisabled, classFilters, hread, rfl⟩ := setClassFilters_eq_ok h
  have hkept : FilterList.Kept classFilters := .of_readOptional hread
  rw [setClassFilters_text hkept]
  exact if_neg (by simp [markStale, hdisabled])

theorem setThreadFilters_again (h : bp.setThreadFilters text = .ok bp') :
    bp'.setThreadFilters (bp'.threadFilters.map (·.text)) = .ok bp'.markStale := by
  obtain ⟨hdisabled, threadFilters, hread, rfl⟩ := setThreadFilters_eq_ok h
  have hkept : FilterList.Kept threadFilters := .of_readOptional hread
  rw [setThreadFilters_text hkept]
  exact if_neg (by simp [markStale, hdisabled])

end Breakpoint

namespace Registry

variable {τ : Type}

theorem update_of_live {m : Registry τ} {id : Nat} {f : Breakpoint → Except Failure Breakpoint}
    {bp : Breakpoint} (hfind : m.find? id = some bp) (hlive : bp.destroyed = false) :
    m.update id f = match f bp with
      | .error e => (.error e, m)
      | .ok changed => (.ok (), m.store changed id) := by
  cases hchanged : f bp with
  | error e => simp [update, hfind, hlive, hchanged]
  | ok changed => simp [update, hfind, hlive, hchanged]

variable [Target τ]

/-- Whatever has happened, the filters of each breakpoint were read from texts. -/
theorem kept_of_run (target : τ) {kit : Kit} (hkit : kit.ReadsFilters) (settings : Settings)
    (moves : List (Move τ)) {id : Nat} {bp : Breakpoint}
    (hfind : ((create target kit settings).run moves).find? id = some bp) :
    FilterList.Kept bp.classFilters ∧ FilterList.Kept bp.threadFilters := by
  rcases (run_continues (create target kit settings) moves).origin id bp hfind with
    hmade | ⟨old, hold, -⟩
  · exact hmade.kept hkit
  · simp [create, find?] at hold

/-- The text of a list that was read is not blank and reads as the same list, so once a text is
spelled as its list spells it, it stays.  Filters that were just set stay when they are set again
from their own text.  Whatever has happened, a live breakpoint keeps its filters when either of them
is set again from its own text; this is refused while the breakpoint is enabled, as any other change
of filters, and otherwise it succeeds. -/
theorem run_respells (target : τ) {kit : Kit} (hkit : kit.ReadsFilters) (settings : Settings)
    (moves : List (Move τ)) :
    (∀ text filters, FilterList.read text = .ok filters →
      Text.trim filters.text.toList ≠ [] ∧ FilterList.read filters.text = .ok filters) ∧
    (∀ text, (FilterList.respell text).bind FilterList.respell = FilterList.respell text) ∧
    (∀ (bp bp' : Breakpoint) (text : Option String),
      (bp.setClassFilters text = .ok bp' → ∃ again,
        bp'.setClassFilters (bp'.classFilters.map (·.text)) = .ok again ∧
        again.classFilters = bp'.classFilters ∧ again.threadFilters = bp'.threadFilters) ∧
      (bp.setThreadFilters text = .ok bp' → ∃ again,
        bp'.setThreadFilters (bp'.threadFilters.map (·.text)) = .ok again ∧
        again.classFilters = bp'.classFilters ∧ again.threadFilters = bp'.threadFilters)) ∧
    let m := (create target kit settings).run moves
    ∀ id bp, m.find? id = some bp → bp.destroyed = false →
      let answer : Except Failure Unit :=
        if bp.enabled then .error (.mustBeDisabled bp.id) else .ok ()
      ∃ m' bp', m.setClassFilters id (bp.classFilters.map (·.text)) = (answer, m') ∧
        m.setThreadFilters id (bp.threadFilters.map (·.text)) = (answer, m') ∧
        m'.find? id = some bp' ∧ bp'.classFilters = bp.classFilters ∧
        bp'.threadFilters = bp.threadFilters := by
  refine ⟨fun text filters hread => ?_, FilterList.respell_respell,
    fun bp bp' text => ⟨fun h => ?_, fun h => ?_⟩, ?_⟩
  · have hreadable := FilterList.Readable.of_read hread
    obtain ⟨htrim, hsome⟩ := hreadable.trim_text
    exact ⟨by rwa [htrim], hreadable.read_text⟩
  · exact ⟨bp'.markStale, Breakpoint.setClassFilters_again h, rfl, rfl⟩
  · exact ⟨bp'.markStale, Breakpoint.setThreadFilters_again h, rfl, rfl⟩
  · intro m id bp hfind hlive answer
    obtain ⟨hclass, hthread⟩ := kept_of_run target hkit settings moves hfind
    rw [setClassFilters, setThreadFilters, update_of_live hfind hlive, update_of_live hfind hlive,
      Breakpoint.setClassFilters_text hclass, Breakpoint.setThreadFilters_text hthread]
    cases henabled : bp.enabled with
    | true =>
        have hanswer : answer = .error (.mustBeDisabled bp.id) := if_pos henabled
        exact ⟨m, bp, by rw [hanswer]; rfl, by rw [hanswer]; rfl, hfind, rfl, rfl⟩
    | false =>
        have hanswer : answer = .ok () := if_neg (by simp [henabled])
        have hstored : (m.store bp.markStale id).find? id = some bp.markStale :=
          Table.find?_insert_self _ _ _
        exact ⟨_, _, by rw [hanswer]; rfl, by rw [hanswer]; rfl, hstored, rfl, rfl⟩

/-- Lists in a loose spelling, set one after the other, and set again from their own texts. -/
theorem run_respells_loose :
    let m := (create ScriptedTarget.initial .standard .standard).run
      [.createSpec .uncaughtException GroupTree.root, .setEnabled 1 false,
        .setClassFilters 1 (some " java.* ,, *Test"), .setThreadFilters 1 (some "main thread ,")]
    ∃ m' bp', m.setClassFilters 1 (some "java.*,*Test") = (.ok (), m') ∧
      m.setThreadFilters 1 (some "main thread") = (.ok (), m') ∧ m'.find? 1 = some bp' ∧
      bp'.classFilters = some ⟨[.startsWith "java.", .endsWith "Test"]⟩ ∧
      bp'.threadFilters = some ⟨[.exact "main thread"]⟩ := by
  intro m
  let bp : Breakpoint :=
    { Breakpoint.create 1 .uncaughtException GroupTree.root false .all with
      binding := some ⟨1, .exception none, true⟩
      classFilters := some ⟨[.startsWith "java.", .endsWith "Test"]⟩
      threadFilters := some ⟨[.exact "main thread"]⟩ }
  have hfind : m.find? 1 = some bp := by rfl
  obtain ⟨-, -, -, hagain⟩ := run_respells ScriptedTarget.initial Kit.standard_plain.readsFilters
    .standard [.createSpec .uncaughtException GroupTree.root, .setEnabled 1 false,
      .setClassFilters 1 (some " java.* ,, *Test"), .setThreadFilters 1 (some "main thread ,")]
  exact hagain 1 bp hfind rfl

end Registry

end Breakpoints
