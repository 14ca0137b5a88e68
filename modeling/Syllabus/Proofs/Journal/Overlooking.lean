/-
  Syllabus.Proofs.Journal.Overlooking
  ───────────────────────────────────
  **WHAT IS LOGGED AND NOT RECORDED.**

  A degradation is logged and recorded at once, except where a builder runs
  without the collector: there it is logged only, and the collector overlooks
  it.  So the log is woven from two lists, each in its order: what is
  recorded, and what is overlooked.

      Woven              a list that is put together from two others
      Writing.Reports    what a run reports, all of it recorded
      Writing.Overlooks  what a run logs besides what it records
      Building.Overlooks the same of building that does not break off

  Nothing is overlooked exactly if the log and the record agree (`Woven.eq_iff`).
-/
import Syllabus.Proofs.Journal.Promise

namespace Syllabus

/-! ## §1. Woven lists. -/

/-- The third list is put together from the first two, and keeps the order of each. -/
inductive Woven {α : Type} : List α → List α → List α → Prop where
  /-- There is nothing left. -/
  | nil : Woven [] [] []
  /-- The next is from the first list. -/
  | left {a : α} {as bs cs : List α} (h : Woven as bs cs) : Woven (a :: as) bs (a :: cs)
  /-- The next is from the second list. -/
  | right {b : α} {as bs cs : List α} (h : Woven as bs cs) : Woven as (b :: bs) (b :: cs)

namespace Woven

variable {α : Type} {as bs cs as' bs' cs' : List α}

theorem refl_left (as : List α) : Woven as [] as := by
  induction as with
  | nil => exact .nil
  | cons a as ih => exact ih.left

theorem refl_right (bs : List α) : Woven [] bs bs := by
  induction bs with
  | nil => exact .nil
  | cons b bs ih => exact ih.right

theorem append (h : Woven as bs cs) (h' : Woven as' bs' cs') :
    Woven (as ++ as') (bs ++ bs') (cs ++ cs') := by
  induction h with
  | nil => exact h'
  | left _ ih => exact ih.left
  | right _ ih => exact ih.right

theorem length (h : Woven as bs cs) : cs.length = as.length + bs.length := by
  induction h with
  | nil => rfl
  | left _ ih => rw [List.length_cons, List.length_cons, ih]; omega
  | right _ ih => rw [List.length_cons, List.length_cons, ih]; omega

theorem eq_of_nil (h : Woven as [] cs) : cs = as := by
  induction as generalizing cs with
  | nil => cases h; rfl
  | cons a as ih =>
      cases h with
      | left h => rw [ih h]

/-- The first list is all there is exactly if the second one is empty. -/
theorem eq_iff (h : Woven as bs cs) : cs = as ↔ bs = [] := by
  constructor
  · intro heq
    have hlength := h.length
    rw [heq] at hlength
    exact List.length_eq_zero_iff.mp (by omega)
  · intro hnil
    rw [hnil] at h
    exact h.eq_of_nil

end Woven

/-! ## §2. Records and logs. -/

/-- A degradation that was reported: its code and its message. -/
abbrev Report := String × String

/-- What a diagnostic reports. -/
def Diagnostic.report (d : Diagnostic) : Report := (d.code, d.message)

/-- The degradation that a remark is about, if it is about one. -/
def Remark.report? : Remark → Option Report
  | .degradation _ code message => some (code, message)
  | .plain _ => none

/-- What a journal has recorded. -/
def Journal.recorded (j : Journal) : List Report := j.collector.entries.map Diagnostic.report

/-- The degradations that a journal has logged. -/
def Journal.logged (j : Journal) : List Report := j.remarks.filterMap Remark.report?

namespace Notes

/-- What notes record. -/
def recorded (n : Notes) : List Report := n.found.map Diagnostic.report

/-- The degradations that notes log. -/
def logged (n : Notes) : List Report := n.remarks.filterMap Remark.report?

@[simp] theorem recorded_append (n m : Notes) : (n ++ m).recorded = n.recorded ++ m.recorded :=
  List.map_append

@[simp] theorem logged_append (n m : Notes) : (n ++ m).logged = n.logged ++ m.logged :=
  List.filterMap_append

/-- Places do not change what is recorded. -/
@[simp] theorem recorded_under (steps : Path) (n : Notes) : (n.under steps).recorded = n.recorded := by
  unfold recorded
  rw [found_under, List.map_map]
  rfl

@[simp] theorem logged_under (steps : Path) (n : Notes) : (n.under steps).logged = n.logged := rfl

@[simp] theorem recorded_unrecorded (n : Notes) : n.unrecorded.recorded = [] := rfl

@[simp] theorem logged_unrecorded (n : Notes) : n.unrecorded.logged = n.logged := rfl

end Notes

/-! ## §3. Writing. -/

namespace Writing

variable {α β : Type} {w : Writing α} {f : α → Writing β} {rs rs' : List Report}

/-- The run reports some degradations: it logs them and records them. -/
def Reports (w : Writing α) (rs : List Report) : Prop :=
  ∃ a n, Gives w a n ∧ n.recorded = rs ∧ n.logged = rs

/-- The run logs, woven into what it records, some degradations that are not recorded. -/
def Overlooks (w : Writing α) (rs : List Report) : Prop :=
  ∃ a n, Gives w a n ∧ Woven n.recorded rs n.logged

theorem reports_pure (a : α) : Reports (pure a) [] := ⟨a, {}, gives_pure a, rfl, rfl⟩

theorem reports_report (channel : Channel) (code message : String) (severity : Severity) :
    Reports (report channel code message severity) [(code, message)] :=
  ⟨(), _, gives_report channel code message severity, rfl, rfl⟩

theorem Reports.bind (hw : Reports w rs) (hf : ∀ a, Reports (f a) rs') :
    Reports (w >>= f) (rs ++ rs') := by
  obtain ⟨a, n, hga, hrecorded, hlogged⟩ := hw
  obtain ⟨b, m, hgb, hrecorded', hlogged'⟩ := hf a
  refine ⟨b, n ++ m, hga.bind hgb, ?_, ?_⟩
  · rw [Notes.recorded_append, hrecorded, hrecorded']
  · rw [Notes.logged_append, hlogged, hlogged']

/-- What follows reports nothing. -/
theorem Reports.then_pure (hw : Reports w rs) (g : α → β) :
    Reports (w >>= fun a => pure (g a)) rs := by
  have hboth := hw.bind fun a => reports_pure (g a)
  rw [List.append_nil] at hboth
  exact hboth

theorem Reports.mapM {γ : Type} {g : γ → Writing α} {reports : γ → List Report} {xs : List γ}
    (h : ∀ x ∈ xs, Reports (g x) (reports x)) : Reports (xs.mapM g) (xs.flatMap reports) := by
  induction xs with
  | nil => exact reports_pure []
  | cons x xs ih =>
      rw [List.mapM_cons, List.flatMap_cons]
      have ihxs := ih fun y hy => h y (List.mem_cons_of_mem x hy)
      exact (h x List.mem_cons_self).bind fun a => ihxs.then_pure fun as => a :: as

theorem Reports.overlooks (hw : Reports w rs) : Overlooks w [] := by
  obtain ⟨a, n, hg, hrecorded, hlogged⟩ := hw
  refine ⟨a, n, hg, ?_⟩
  rw [hrecorded, hlogged]
  exact Woven.refl_left rs

/-- Without the collector everything is overlooked. -/
theorem Reports.unrecorded (hw : Reports w rs) : Overlooks (Writing.unrecorded w) rs := by
  obtain ⟨a, n, hg, -, hlogged⟩ := hw
  refine ⟨a, n.unrecorded, hg.unrecorded, ?_⟩
  rw [Notes.recorded_unrecorded, Notes.logged_unrecorded, hlogged]
  exact Woven.refl_right rs

theorem overlooks_pure (a : α) : Overlooks (pure a) [] := (reports_pure a).overlooks

theorem Overlooks.bind (hw : Overlooks w rs) (hf : ∀ a, Overlooks (f a) rs') :
    Overlooks (w >>= f) (rs ++ rs') := by
  obtain ⟨a, n, hga, hwoven⟩ := hw
  obtain ⟨b, m, hgb, hwoven'⟩ := hf a
  refine ⟨b, n ++ m, hga.bind hgb, ?_⟩
  rw [Notes.recorded_append, Notes.logged_append]
  exact hwoven.append hwoven'

/-- Nothing is overlooked in what goes before. -/
theorem Overlooks.none_then (hw : Overlooks w []) (hf : ∀ a, Overlooks (f a) rs) :
    Overlooks (w >>= f) rs := hw.bind hf

/-- Nothing is overlooked in what follows. -/
theorem Overlooks.then_none (hw : Overlooks w rs) (hf : ∀ a, Overlooks (f a) []) :
    Overlooks (w >>= f) rs := by
  have hboth := hw.bind hf
  rw [List.append_nil] at hboth
  exact hboth

theorem Overlooks.then_pure (hw : Overlooks w rs) (g : α → β) :
    Overlooks (w >>= fun a => pure (g a)) rs :=
  hw.then_none fun a => overlooks_pure (g a)

/-- What goes before is recorded, and what follows need only be known for the result of it. -/
theorem overlooks_after {a : α} {n : Notes} (hw : Gives w a n) (hn : n.logged = n.recorded)
    (hf : Overlooks (f a) rs) : Overlooks (w >>= f) rs := by
  obtain ⟨b, m, hgives, hwoven⟩ := hf
  refine ⟨b, n ++ m, hw.bind hgives, ?_⟩
  rw [Notes.recorded_append, Notes.logged_append, hn]
  exact (Woven.refl_left _).append hwoven

theorem Overlooks.mapM {γ : Type} {g : γ → Writing α} {missed : γ → List Report}
    (h : ∀ x, Overlooks (g x) (missed x)) (xs : List γ) :
    Overlooks (xs.mapM g) (xs.flatMap missed) := by
  induction xs with
  | nil => exact overlooks_pure []
  | cons x xs ih =>
      rw [List.mapM_cons, List.flatMap_cons]
      exact (h x).bind fun a => ih.then_pure fun as => a :: as

end Writing

/-! ## §4. Building. -/

namespace Building

variable {α β : Type} {b : Building α} {f : α → Building β} {rs rs' : List Report}

/-- The building does not break off, and logs some degradations that are not recorded. -/
def Overlooks (b : Building α) (rs : List Report) : Prop :=
  ∃ a n, Ends b (.ok a) n ∧ Woven n.recorded rs n.logged

theorem overlooks_pure (a : α) : Overlooks (pure a) [] := ⟨a, {}, ends_pure a, .nil⟩

theorem overlooks_ofWriting {w : Writing α} (h : w.Overlooks rs) : Overlooks (ofWriting w) rs := by
  obtain ⟨a, n, hg, hwoven⟩ := h
  exact ⟨a, n, ends_ofWriting hg, hwoven⟩

theorem Overlooks.bind (hb : Overlooks b rs) (hf : ∀ a, Overlooks (f a) rs') :
    Overlooks (b >>= f) (rs ++ rs') := by
  obtain ⟨a, n, hends, hwoven⟩ := hb
  obtain ⟨c, m, hends', hwoven'⟩ := hf a
  refine ⟨c, n ++ m, hends.bind hends', ?_⟩
  rw [Notes.recorded_append, Notes.logged_append]
  exact hwoven.append hwoven'

/-- Nothing is overlooked in what goes before. -/
theorem Overlooks.none_then (hb : Overlooks b []) (hf : ∀ a, Overlooks (f a) rs) :
    Overlooks (b >>= f) rs := hb.bind hf

/-- Nothing is overlooked in what follows. -/
theorem Overlooks.then_none (hb : Overlooks b rs) (hf : ∀ a, Overlooks (f a) []) :
    Overlooks (b >>= f) rs := by
  have hboth := hb.bind hf
  rw [List.append_nil] at hboth
  exact hboth

theorem Overlooks.then_pure (hb : Overlooks b rs) (g : α → β) :
    Overlooks (b >>= fun a => pure (g a)) rs :=
  hb.then_none fun a => overlooks_pure (g a)

theorem Overlooks.scope (hb : Overlooks b rs) (steps : Path) :
    Overlooks (Building.scope steps b) rs := by
  obtain ⟨a, n, hends, hwoven⟩ := hb
  refine ⟨a, n.under steps, hends.scope steps, ?_⟩
  rw [Notes.recorded_under, Notes.logged_under]
  exact hwoven

/-- What a fresh journal holds after the run. -/
theorem Overlooks.journal (hb : Overlooks b rs) :
    Woven (b.run.run {}).2.recorded rs (b.run.run {}).2.logged := by
  obtain ⟨a, n, hends, hwoven⟩ := hb
  rw [hends {}, Journal.noted_fresh]
  exact hwoven

end Building

end Syllabus
