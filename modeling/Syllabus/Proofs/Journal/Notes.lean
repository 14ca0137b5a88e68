/-
  Syllabus.Proofs.Journal.Notes
  ─────────────────────────────
  **WHAT A RUN ADDS TO A JOURNAL.**

  A builder writes to the journal and never reads it.  So a run has a result
  and *notes*, and both are the same whatever journal it starts from:

      Writing.Gives w a n     `w` gives `a` and adds the notes `n`
      Building.Ends b r n     the same of building, which may end in a failure

  The places in notes count from where the run starts; the journal puts its
  own stack in front of them.  There is one rule for each way of putting runs
  together: in sequence notes are appended, a scope puts its steps in front of
  their places, and a failure keeps the notes made before it.
-/
import Syllabus.Building

namespace Syllabus

/-! ## §1. Notes. -/

/-- A diagnostic seen from further out. -/
def Diagnostic.under (steps : Path) (d : Diagnostic) : Diagnostic := { d with path := steps ++ d.path }

@[simp] theorem Diagnostic.under_severity (steps : Path) (d : Diagnostic) :
    (d.under steps).severity = d.severity := rfl

@[simp] theorem Diagnostic.under_path (steps : Path) (d : Diagnostic) :
    (d.under steps).path = steps ++ d.path := rfl

@[simp] theorem Diagnostic.under_under (outer inner : Path) (d : Diagnostic) :
    (d.under inner).under outer = d.under (outer ++ inner) := by
  simp only [Diagnostic.under, List.append_assoc]

/-- What a run adds to a journal. -/
structure Notes where
  /-- The diagnostics, at places that count from where the run starts. -/
  found : List Diagnostic := []
  /-- What is written to the log. -/
  remarks : List Remark := []

namespace Notes

/-- The notes of one run and then of another. -/
def append (n m : Notes) : Notes := ⟨n.found ++ m.found, n.remarks ++ m.remarks⟩

instance : Append Notes := ⟨append⟩

/-- Notes seen from further out. -/
def under (steps : Path) (n : Notes) : Notes := { n with found := n.found.map (.under steps) }

/-- Notes that no collector gets. -/
def unrecorded (n : Notes) : Notes := { n with found := [] }

@[simp] theorem found_append (n m : Notes) : (n ++ m).found = n.found ++ m.found := rfl

@[simp] theorem remarks_append (n m : Notes) : (n ++ m).remarks = n.remarks ++ m.remarks := rfl

@[simp] theorem found_under (steps : Path) (n : Notes) :
    (n.under steps).found = n.found.map (.under steps) := rfl

@[simp] theorem append_none (n : Notes) : n ++ ({} : Notes) = n := by
  show Notes.mk (n.found ++ []) (n.remarks ++ []) = n
  rw [List.append_nil, List.append_nil]

end Notes

/-- A journal with notes added at its present place. -/
def Journal.noted (j : Journal) (n : Notes) : Journal :=
  { collector :=
      { entries := j.collector.entries ++ n.found.map (.under j.collector.stack)
        stack := j.collector.stack }
    remarks := j.remarks ++ n.remarks }

@[simp] theorem Journal.noted_stack (j : Journal) (n : Notes) :
    (j.noted n).collector.stack = j.collector.stack := rfl

@[simp] theorem Journal.noted_entries (j : Journal) (n : Notes) :
    (j.noted n).collector.entries
      = j.collector.entries ++ n.found.map (.under j.collector.stack) := rfl

@[simp] theorem Journal.noted_none (j : Journal) : j.noted {} = j := by
  show Journal.mk ⟨j.collector.entries ++ [], j.collector.stack⟩ (j.remarks ++ []) = j
  rw [List.append_nil, List.append_nil]

theorem Journal.noted_append (j : Journal) (n m : Notes) :
    j.noted (n ++ m) = (j.noted n).noted m := by
  simp only [Journal.noted, Notes.found_append, Notes.remarks_append, List.map_append,
    List.append_assoc]

/-- Notes on a fresh journal are what it then holds. -/
theorem Journal.noted_fresh (n : Notes) :
    ({} : Journal).noted n = ⟨⟨n.found, []⟩, n.remarks⟩ := by
  have h : n.found.map (Diagnostic.under []) = n.found := by
    rw [show Diagnostic.under [] = id from rfl, List.map_id]
  simp only [Journal.noted, h, List.nil_append]

/-- What is noted further in, seen from where it was entered. -/
theorem Journal.leave_noted_enter (j : Journal) (steps : Path) (n : Notes) :
    let inner := ({ j with collector := j.collector.enter steps } : Journal).noted n
    { inner with collector := inner.collector.leave steps.length } = j.noted (n.under steps) := by
  have hstack : (j.collector.stack ++ steps).take ((j.collector.stack ++ steps).length - steps.length)
      = j.collector.stack := by
    rw [List.length_append, Nat.add_sub_cancel, List.take_left]
  have hentries : n.found.map (Diagnostic.under (j.collector.stack ++ steps))
      = (n.under steps).found.map (Diagnostic.under j.collector.stack) := by
    simp only [Notes.found_under, List.map_map, Function.comp_def, Diagnostic.under_under]
  simp only [Journal.noted, Collector.enter, Collector.leave, hstack, hentries]
  rfl

/-! ## §2. Writing. -/

namespace Writing

variable {α β : Type}

/-- From any journal the writing gives `a` and adds the notes `n`. -/
def Gives (w : Writing α) (a : α) (n : Notes) : Prop := ∀ j, w j = (a, j.noted n)

theorem gives_pure (a : α) : Gives (pure a) a {} := by
  intro j
  rw [Journal.noted_none]
  rfl

theorem Gives.bind {w : Writing α} {f : α → Writing β} {a : α} {b : β} {n m : Notes}
    (hw : Gives w a n) (hf : Gives (f a) b m) : Gives (w >>= f) b (n ++ m) := by
  intro j
  show f (w j).1 (w j).2 = _
  rw [hw j, Journal.noted_append]
  exact hf (j.noted n)

/-- What is given may be turned into something else. -/
theorem Gives.then_pure {w : Writing α} {a : α} {n : Notes} (hw : Gives w a n) (g : α → β) :
    Gives (w >>= fun a => pure (g a)) (g a) n := by
  have hgives := hw.bind (f := fun a => pure (g a)) (gives_pure (g a))
  rw [Notes.append_none] at hgives
  exact hgives

theorem gives_report (channel : Channel) (code message : String) (severity : Severity) :
    Gives (report channel code message severity) ()
      ⟨[⟨code, message, [], severity⟩], [.degradation channel code message]⟩ := by
  intro j
  show ((), Journal.mk ⟨_ ++ [⟨code, message, j.collector.stack, severity⟩], _⟩ _) = _
  simp only [Journal.noted, List.map_cons, List.map_nil, Diagnostic.under, List.append_nil]

/-- A report, and then something. -/
theorem gives_reported (channel : Channel) (code message : String) (severity : Severity) (a : α) :
    Gives (report channel code message severity >>= fun _ => pure a) a
      ⟨[⟨code, message, [], severity⟩], [.degradation channel code message]⟩ :=
  (gives_report channel code message severity).then_pure fun _ => a

theorem gives_record (code message : String) (severity : Severity) :
    Gives (record code message severity) () ⟨[⟨code, message, [], severity⟩], []⟩ := by
  intro j
  show ((), Journal.mk ⟨_ ++ [⟨code, message, j.collector.stack, severity⟩], _⟩ _) = _
  simp only [Journal.noted, List.map_cons, List.map_nil, Diagnostic.under, List.append_nil]

theorem gives_log (channel : Channel) (level : Level) (message : String) :
    Gives (log channel level message) () ⟨[], [.plain ⟨channel, level, message⟩]⟩ := by
  intro j
  show ((), Journal.mk j.collector _) = _
  simp only [Journal.noted, List.map_nil, List.append_nil]

theorem Gives.unrecorded {w : Writing α} {a : α} {n : Notes} (hw : Gives w a n) :
    Gives (Writing.unrecorded w) a n.unrecorded := by
  intro j
  show ((w j).1, { (w j).2 with collector := j.collector }) = _
  rw [hw j]
  simp only [Journal.noted, Notes.unrecorded, List.map_nil, List.append_nil]

end Writing

/-! ## §3. Building. -/

namespace Building

variable {α β : Type}

/-- From any journal the building ends in `r` and adds the notes `n`. -/
def Ends (b : Building α) (r : Except Failure α) (n : Notes) : Prop :=
  ∀ j, b.run.run j = (r, j.noted n)

/-- What a run ends in and what it adds is determined by the run. -/
theorem Ends.unique {b : Building α} {r r' : Except Failure α} {n n' : Notes} (h : Ends b r n)
    (h' : Ends b r' n') : r = r' ∧ n = n' := by
  have hsame := (h {}).symm.trans (h' {})
  rw [Journal.noted_fresh, Journal.noted_fresh] at hsame
  obtain ⟨hresult, hjournal⟩ := Prod.mk.inj hsame
  obtain ⟨hcollector, hremarks⟩ := Journal.mk.inj hjournal
  have hfound : n.found = n'.found := (Collector.mk.inj hcollector).1
  exact ⟨hresult, show Notes.mk n.found n.remarks = Notes.mk n'.found n'.remarks by
    rw [hfound, hremarks]⟩

theorem ends_pure (a : α) : Ends (pure a) (.ok a) {} := by
  intro j
  rw [Journal.noted_none]
  rfl

theorem ends_fail (message : String) : Ends (fail message : Building α) (.error ⟨message⟩) {} := by
  intro j
  rw [Journal.noted_none]
  rfl

theorem ends_ofWriting {w : Writing α} {a : α} {n : Notes} (hw : Writing.Gives w a n) :
    Ends (ofWriting w) (.ok a) n := by
  intro j
  show ((Except.ok (w j).1, (w j).2) : Except Failure α × Journal) = _
  rw [hw j]

theorem Ends.bind {b : Building α} {f : α → Building β} {a : α} {r : Except Failure β} {n m : Notes}
    (hb : Ends b (.ok a) n) (hf : Ends (f a) r m) : Ends (b >>= f) r (n ++ m) := by
  intro j
  show (ExceptT.bindCont f (b.run.run j).1) (b.run.run j).2 = _
  rw [hb j, Journal.noted_append]
  exact hf (j.noted n)

theorem Ends.bind_error {b : Building α} {e : Failure} {n : Notes} (hb : Ends b (.error e) n)
    (f : α → Building β) : Ends (b >>= f) (.error e) n := by
  intro j
  show (ExceptT.bindCont f (b.run.run j).1) (b.run.run j).2 = _
  rw [hb j]
  rfl

theorem Ends.scope {b : Building α} {r : Except Failure α} {n : Notes} (hb : Ends b r n)
    (steps : Path) : Ends (Building.scope steps b) r (n.under steps) := by
  intro j
  have hrun := hb { j with collector := j.collector.enter steps }
  show (fun p : Except Failure α × Journal =>
      (p.1, { p.2 with collector := p.2.collector.leave steps.length }))
    (b.run.run { j with collector := j.collector.enter steps }) = _
  rw [hrun, ← Journal.leave_noted_enter]

theorem Ends.recover {b : Building α} {a : α} {n : Notes} (hb : Ends b (.ok a) n)
    (handle : Failure → Building α) : Ends (Building.recover b handle) (.ok a) n := by
  intro j
  show Building.recover b handle j = _
  unfold Building.recover
  rw [hb j]

theorem Ends.recover_error {b : Building α} {e : Failure} {r : Except Failure α} {n m : Notes}
    {handle : Failure → Building α} (hb : Ends b (.error e) n) (hh : Ends (handle e) r m) :
    Ends (Building.recover b handle) r (n ++ m) := by
  intro j
  show Building.recover b handle j = _
  unfold Building.recover
  rw [hb j, Journal.noted_append]
  exact hh (j.noted n)

end Building

end Syllabus
