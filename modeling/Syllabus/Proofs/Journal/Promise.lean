/-
  Syllabus.Proofs.Journal.Promise
  ───────────────────────────────
  **WHAT A RUN PROMISES.**

  A promise leaves open what exactly a run gives and notes, and says what is
  true of it:

      Writing.Meets D P w       `w` gives something with `P`, and every
                                diagnostic that it adds is one of `D`
      Building.Meets D P E b    the same of building; if it ends in a failure,
                                the failure is one of `E`
      Writing.Yields w a        `w` gives just `a`, whatever it notes

  Every builder has one such promise.  Those that build with it use the
  promise and never look inside.
-/
import Syllabus.Proofs.Journal.Notes

namespace Syllabus

/-- A warning about the present place, under one of some codes. -/
def Diagnostic.Warns (codes : List String) (d : Diagnostic) : Prop :=
  d.path = [] ∧ d.severity = .warning ∧ d.code ∈ codes

theorem Diagnostic.Warns.mono {codes codes' : List String} {d : Diagnostic} (h : d.Warns codes)
    (hc : ∀ code ∈ codes, code ∈ codes') : d.Warns codes' := ⟨h.1, h.2.1, hc d.code h.2.2⟩

/-! ## §1. Writing. -/

namespace Writing

variable {α β : Type} {D D' : Diagnostic → Prop} {P P' : α → Prop} {Q : β → Prop}

/-- The writing gives something with `P`, and adds only diagnostics of `D`. -/
def Meets (D : Diagnostic → Prop) (P : α → Prop) (w : Writing α) : Prop :=
  ∃ a n, Gives w a n ∧ (∀ d ∈ n.found, D d) ∧ P a

theorem meets_pure {a : α} (h : P a) : Meets D P (pure a) :=
  ⟨a, {}, gives_pure a, by intro d hd; exact absurd hd (List.not_mem_nil), h⟩

theorem Meets.bind {w : Writing α} {f : α → Writing β} (hw : Meets D P w)
    (hf : ∀ a, P a → Meets D Q (f a)) : Meets D Q (w >>= f) := by
  obtain ⟨a, n, hga, hn, ha⟩ := hw
  obtain ⟨b, m, hgb, hm, hb⟩ := hf a ha
  refine ⟨b, n ++ m, hga.bind hgb, ?_, hb⟩
  intro d hd
  rw [Notes.found_append, List.mem_append] at hd
  exact hd.elim (hn d) (hm d)

theorem Meets.mono {w : Writing α} (hw : Meets D P w) (hD : ∀ d, D d → D' d)
    (hP : ∀ a, P a → P' a) : Meets D' P' w := by
  obtain ⟨a, n, hg, hn, ha⟩ := hw
  exact ⟨a, n, hg, fun d hd => hD d (hn d hd), hP a ha⟩

/-- A promise about the result alone. -/
theorem Meets.result {w : Writing α} (hw : Meets D P w) (hP : ∀ a, P a → P' a) : Meets D P' w :=
  hw.mono (fun _ h => h) hP

theorem Meets.unrecorded {w : Writing α} (hw : Meets D P w) : Meets D' P (Writing.unrecorded w) := by
  obtain ⟨a, n, hg, _, ha⟩ := hw
  exact ⟨a, n.unrecorded, hg.unrecorded, by intro d hd; exact absurd hd (List.not_mem_nil), ha⟩

theorem meets_report {channel : Channel} {code message : String} {severity : Severity}
    (h : D ⟨code, message, [], severity⟩) :
    Meets D (fun _ => True) (report channel code message severity) := by
  refine ⟨(), _, gives_report channel code message severity, ?_, trivial⟩
  intro d hd
  rw [List.mem_singleton] at hd
  rw [hd]
  exact h

theorem meets_log (channel : Channel) (level : Level) (message : String) :
    Meets D (fun _ => True) (log channel level message) :=
  ⟨(), _, gives_log channel level message, by intro d hd; exact absurd hd (List.not_mem_nil), trivial⟩

theorem Meets.mapM {γ : Type} {f : γ → Writing α} {xs : List γ} (h : ∀ x ∈ xs, Meets D P (f x)) :
    Meets D (fun ys => ys.length = xs.length ∧ ∀ y ∈ ys, P y) (xs.mapM f) := by
  induction xs with
  | nil => exact meets_pure ⟨rfl, by intro y hy; exact absurd hy (List.not_mem_nil)⟩
  | cons x xs ih =>
      rw [List.mapM_cons]
      have ihxs := ih fun y hy => h y (List.mem_cons_of_mem x hy)
      refine (h x List.mem_cons_self).bind fun a ha => ihxs.bind fun ys hys => meets_pure ?_
      refine ⟨by rw [List.length_cons, List.length_cons, hys.1], ?_⟩
      intro y hy
      rcases List.mem_cons.mp hy with hya | hyr
      · rw [hya]; exact ha
      · exact hys.2 y hyr

/-- The writing gives `a`, whatever it notes. -/
def Yields (w : Writing α) (a : α) : Prop := ∃ n, Gives w a n

theorem Gives.yields {w : Writing α} {a : α} {n : Notes} (h : Gives w a n) : Yields w a := ⟨n, h⟩

theorem yields_pure (a : α) : Yields (pure a) a := (gives_pure a).yields

theorem Yields.bind {w : Writing α} {f : α → Writing β} {a : α} {b : β} (hw : Yields w a)
    (hf : Yields (f a) b) : Yields (w >>= f) b := by
  obtain ⟨n, hn⟩ := hw
  obtain ⟨m, hm⟩ := hf
  exact (hn.bind hm).yields

theorem Yields.mapM {γ : Type} {f : γ → Writing α} {g : γ → α} {xs : List γ}
    (h : ∀ x ∈ xs, Yields (f x) (g x)) : Yields (xs.mapM f) (xs.map g) := by
  induction xs with
  | nil => exact yields_pure []
  | cons x xs ih =>
      rw [List.mapM_cons]
      have ihxs := ih fun y hy => h y (List.mem_cons_of_mem x hy)
      exact (h x List.mem_cons_self).bind (ihxs.bind (yields_pure _))

theorem Yields.meets {w : Writing α} {a : α} (h : Yields w a) (ha : P a) :
    Meets (fun _ => True) P w := by
  obtain ⟨n, hn⟩ := h
  exact ⟨a, n, hn, fun _ _ => trivial, ha⟩

/-- Without the collector nothing is recorded. -/
theorem Yields.silent {w : Writing α} {a : α} (h : Yields w a) :
    Meets D (fun b => b = a) (Writing.unrecorded w) :=
  (h.meets (P := fun b => b = a) rfl).unrecorded

/-- A promise of a writing whose result is known. -/
theorem Meets.exact {w : Writing α} {a : α} (hw : Meets D P w) (ha : Yields w a) :
    Meets D (fun b => b = a) w := by
  obtain ⟨b, n, hb, hn, -⟩ := hw
  obtain ⟨m, hm⟩ := ha
  exact ⟨b, n, hb, hn, congrArg Prod.fst ((hb {}).symm.trans (hm {}))⟩

/-- What is promised holds from every journal. -/
theorem Meets.holds {w : Writing α} (h : Meets D P w) (j : Journal) : P (w j).1 := by
  obtain ⟨a, n, hn, -, ha⟩ := h
  rw [hn j]
  exact ha

/-- What is given is the same from every journal. -/
theorem Yields.result {w : Writing α} {a : α} (h : Yields w a) (j : Journal) : (w j).1 = a := by
  obtain ⟨n, hn⟩ := h
  rw [hn j]

end Writing

/-! ## §2. Building. -/

namespace Building

variable {α β : Type} {D D' : Diagnostic → Prop} {P P' : α → Prop} {Q : β → Prop}
  {E : Failure → Prop}

/-- What a run ends in has `P`, or is a failure with `E`. -/
def Result (P : α → Prop) (E : Failure → Prop) : Except Failure α → Prop
  | .ok a => P a
  | .error e => E e

/-- The building ends as promised, and adds only diagnostics of `D`. -/
def Meets (D : Diagnostic → Prop) (P : α → Prop) (E : Failure → Prop) (b : Building α) : Prop :=
  ∃ r n, Ends b r n ∧ (∀ d ∈ n.found, D d) ∧ Result P E r

theorem meets_pure {a : α} (h : P a) : Meets D P E (pure a) :=
  ⟨.ok a, {}, ends_pure a, by intro d hd; exact absurd hd (List.not_mem_nil), h⟩

theorem meets_ofWriting {w : Writing α} (hw : Writing.Meets D P w) : Meets D P E (ofWriting w) := by
  obtain ⟨a, n, hg, hn, ha⟩ := hw
  exact ⟨.ok a, n, ends_ofWriting hg, hn, ha⟩

theorem Meets.bind {b : Building α} {f : α → Building β} (hb : Meets D P E b)
    (hf : ∀ a, P a → Meets D Q E (f a)) : Meets D Q E (b >>= f) := by
  obtain ⟨r, n, hr, hn, hp⟩ := hb
  cases r with
  | error e => exact ⟨.error e, n, hr.bind_error f, hn, hp⟩
  | ok a =>
      obtain ⟨s, m, hs, hm, hq⟩ := hf a hp
      refine ⟨s, n ++ m, hr.bind hs, ?_, hq⟩
      intro d hd
      rw [Notes.found_append, List.mem_append] at hd
      exact hd.elim (hn d) (hm d)

theorem Meets.mono {b : Building α} (hb : Meets D P E b) (hD : ∀ d, D d → D' d)
    (hP : ∀ a, P a → P' a) : Meets D' P' E b := by
  obtain ⟨r, n, hr, hn, hp⟩ := hb
  refine ⟨r, n, hr, fun d hd => hD d (hn d hd), ?_⟩
  cases r with
  | ok a => exact hP a hp
  | error e => exact hp

theorem Meets.scope {b : Building α} {steps : Path} (hb : Meets D P E b)
    (hD : ∀ d, D d → D' (d.under steps)) : Meets D' P E (Building.scope steps b) := by
  obtain ⟨r, n, hr, hn, hp⟩ := hb
  refine ⟨r, n.under steps, hr.scope steps, ?_, hp⟩
  intro d hd
  rw [Notes.found_under, List.mem_map] at hd
  obtain ⟨e, he, rfl⟩ := hd
  exact hD e (hn e he)

end Building

end Syllabus
