/-
  Syllabus.Proofs.Course.Review
  ─────────────────────────────
  **WHAT A REVIEW LOOKS AT, AND WHERE.**

  A review reads the journal in one place only: it counts the errors of an
  item before it converts the item.  The count is the same whatever was in the
  journal before, so a review is steady: it always adds the same notes.  What
  it says of a course is then put together from what it says of each item, and
  an error that is found in an item is found at the path of that item in
  whatever the item is part of:

      Steady      the notes of a run do not depend on the journal
      Flags w p   among the notes of `w` there is an error at `p`

  The rules below carry `Flags` from an item to its course, one step of the
  path at a time.
-/
import Syllabus.Course.Review
import Syllabus.Proofs.Conversion.Members
import Syllabus.Proofs.Item.Nesting

namespace Syllabus

/-! ## §1. Steady runs and errors. -/

namespace Writing

/-- What a run adds to an empty journal. -/
def notes {α : Type} (w : Writing α) : Notes := ⟨(w {}).2.collector.entries, (w {}).2.remarks⟩

theorem Gives.notes_eq {α : Type} {w : Writing α} {a : α} {n : Notes} (h : Gives w a n) :
    w.notes = n := by
  unfold notes
  rw [h {}, Journal.noted_fresh]

/-- The run adds the same notes to every journal. -/
def Steady (w : Writing Unit) : Prop := Gives w () w.notes

/-- Among the notes of a run there is an error at a path. -/
def Flags (w : Writing Unit) (p : Path) : Prop :=
  ∃ e ∈ w.notes.found, e.severity = .error ∧ e.path = p

variable {w v : Writing Unit} {p : Path}

theorem Gives.steady {n : Notes} (h : Gives w () n) : Steady w := by
  unfold Steady
  rw [h.notes_eq]
  exact h

theorem steady_pure : Steady (pure ()) := (gives_pure ()).steady

theorem steady_record (code message : String) (severity : Severity) :
    Steady (record code message severity) := (gives_record code message severity).steady

theorem flags_record (code message : String) : Flags (record code message .error) [] := by
  refine ⟨⟨code, message, [], .error⟩, ?_, rfl, rfl⟩
  rw [(gives_record code message .error).notes_eq]
  exact List.mem_cons_self

theorem Steady.bind (hw : Steady w) (hv : Steady v) : Steady (w >>= fun _ => v) :=
  (Gives.bind (f := fun _ => v) hw hv).steady

theorem Steady.notes_bind (hw : Steady w) (hv : Steady v) :
    (w >>= fun _ => v).notes = w.notes ++ v.notes := (Gives.bind (f := fun _ => v) hw hv).notes_eq

theorem Flags.left (h : Flags w p) (hw : Steady w) (hv : Steady v) :
    Flags (w >>= fun _ => v) p := by
  obtain ⟨e, he, herror⟩ := h
  refine ⟨e, ?_, herror⟩
  rw [hw.notes_bind hv]
  exact List.mem_append_left _ he

theorem Flags.right (h : Flags v p) (hw : Steady w) (hv : Steady v) :
    Flags (w >>= fun _ => v) p := by
  obtain ⟨e, he, herror⟩ := h
  refine ⟨e, ?_, herror⟩
  rw [hw.notes_bind hv]
  exact List.mem_append_right _ he

/-- The run is steady, and all that it notes is about the present place. -/
structure Local (w : Writing Unit) : Prop where
  /-- The run is steady. -/
  steady : Steady w
  /-- Its notes are about the present place. -/
  here : ∀ e ∈ w.notes.found, e.path = []

theorem Gives.local {n : Notes} (h : Gives w () n) (hhere : ∀ e ∈ n.found, e.path = []) : Local w :=
  ⟨h.steady, by rw [h.notes_eq]; exact hhere⟩

theorem local_pure : Local (pure ()) :=
  (gives_pure ()).local fun _ he => absurd he List.not_mem_nil

theorem local_record (code message : String) (severity : Severity) :
    Local (record code message severity) := by
  refine (gives_record code message severity).local ?_
  intro e he
  rw [List.mem_singleton.mp he]

theorem Local.bind (hw : Local w) (hv : Local v) : Local (w >>= fun _ => v) := by
  refine ⟨hw.steady.bind hv.steady, ?_⟩
  intro e he
  rw [hw.steady.notes_bind hv.steady, Notes.found_append, List.mem_append] at he
  exact he.elim (hw.here e) (hv.here e)

end Writing

namespace Review

open Writing

theorem gives_scope {w : Writing Unit} {n : Notes} (h : Gives w () n) (steps : Path) :
    Gives (scope steps w) () (n.under steps) := by
  intro j
  show ((), { (w { j with collector := j.collector.enter steps }).2 with
    collector := (w { j with collector := j.collector.enter steps }).2.collector.leave steps.length }) = _
  rw [h { j with collector := j.collector.enter steps }]
  exact congrArg (Prod.mk ()) (Journal.leave_noted_enter j steps n)

section Scope

variable {w : Writing Unit} {p : Path}

theorem steady_scope (h : Steady w) (steps : Path) : Steady (scope steps w) :=
  (gives_scope h steps).steady

theorem flags_scope (h : Flags w p) (hw : Steady w) (steps : Path) :
    Flags (scope steps w) (steps ++ p) := by
  obtain ⟨e, he, hsev, hpath⟩ := h
  refine ⟨e.under steps, ?_, hsev, by rw [Diagnostic.under_path, hpath]⟩
  rw [(gives_scope hw steps).notes_eq, Notes.found_under]
  exact List.mem_map_of_mem he

end Scope

/-! ## §2. One item on its own. -/

theorem local_checkQuiz (label : String) (ms : List (String × Json)) :
    Local (checkQuiz label ms) := by
  unfold checkQuiz
  dsimp only
  split
  · exact local_record _ _ _
  · split
    · exact local_pure
    · exact local_record _ _ _

theorem local_checkUrl (label : String) (tag : Tag) (ms : List (String × Json)) :
    Local (checkUrl label tag ms) := by
  unfold checkUrl
  dsimp only
  split
  · exact local_pure
  · exact local_record _ _ _

theorem local_checkLength (label : String) (ms : List (String × Json)) :
    Local (checkLength label ms) := by
  unfold checkLength
  split
  · split
    · exact local_record _ _ _
    · exact local_pure
  · exact local_pure

theorem local_checkConversion (label : String) (tag : Tag) (ms : List (String × Json)) :
    Local (checkConversion label tag ms) := by
  unfold checkConversion
  split
  · exact local_record _ _ _
  · exact local_pure

/-- The checks of an item with a tag that come before its conversion. -/
def tagChecks (label : String) (tag : Tag) (ms : List (String × Json)) : Writing Unit := do
  if tag = .quiz then checkQuiz label ms
  if urlTags.contains tag then checkUrl label tag ms

/-- All checks that come before the conversion. -/
def firstChecks (label : String) (tag? : Option Tag) (ms : List (String × Json)) : Writing Unit := do
  match tag? with
  | some tag => tagChecks label tag ms
  | none => pure ()
  checkLength label ms

/-- The conversion of an item with a tag. -/
def lastCheck (label : String) (tag? : Option Tag) (ms : List (String × Json)) : Writing Unit :=
  match tag? with
  | some tag => checkConversion label tag ms
  | none => pure ()

theorem tagChecks_eq (label : String) (tag : Tag) (ms : List (String × Json)) :
    tagChecks label tag ms
      = (if tag = .quiz then checkQuiz label ms else pure ()) >>= fun _ =>
          if urlTags.contains tag then checkUrl label tag ms else pure () := by
  unfold tagChecks
  split <;> split <;> rfl

theorem firstChecks_eq (label : String) (tag? : Option Tag) (ms : List (String × Json)) :
    firstChecks label tag? ms
      = (match tag? with
          | some tag => tagChecks label tag ms
          | none => pure ()) >>= fun _ => checkLength label ms := by
  unfold firstChecks
  split <;> rfl

theorem local_tagChecks (label : String) (tag : Tag) (ms : List (String × Json)) :
    Local (tagChecks label tag ms) := by
  rw [tagChecks_eq]
  refine Local.bind ?_ ?_
  · split
    · exact local_checkQuiz label ms
    · exact local_pure
  · split
    · exact local_checkUrl label tag ms
    · exact local_pure

theorem local_firstChecks (label : String) (tag? : Option Tag) (ms : List (String × Json)) :
    Local (firstChecks label tag? ms) := by
  rw [firstChecks_eq]
  refine Local.bind ?_ (local_checkLength label ms)
  split
  · exact local_tagChecks label _ ms
  · exact local_pure

theorem local_lastCheck (label : String) (tag? : Option Tag) (ms : List (String × Json)) :
    Local (lastCheck label tag? ms) := by
  unfold lastCheck
  split
  · exact local_checkConversion label _ ms
  · exact local_pure

/-- The checks of an item: the first ones, and the conversion unless they found an error. -/
theorem checkMembers_eq (label : String) (ms : List (String × Json)) :
    checkMembers label ms = (do
      let before ← errorCount
      firstChecks label (tagOf? ms) ms
      let after ← errorCount
      if after = before then lastCheck label (tagOf? ms) ms else pure ()) := by
  unfold checkMembers firstChecks lastCheck tagChecks
  rw [show Tag.ofJson? ((Json.lookup "type" ms).getD .null) = tagOf? ms from rfl]
  -- The only difference is how the checks of a tag hang together.
  cases tagOf? ms with
  | none => simp only [ite_self, reduceCtorEq, if_false]
  | some tag =>
      by_cases hquiz : tag = .quiz
      · simp only [hquiz, if_true, bind_assoc]
        rfl
      · simp only [Option.some.injEq, hquiz, if_false]
        split
        · simp only [bind_assoc]
        · rfl

theorem length_errors_noted (j : Journal) (n : Notes) :
    (j.noted n).collector.errors.length
      = j.collector.errors.length + (n.found.filter (·.severity = .error)).length := by
  unfold Collector.errors
  rw [Journal.noted_entries, List.filter_append, List.length_append, List.filter_map,
    List.length_map]
  rfl

/-- Whether notes hold no error. -/
def Clean (n : Notes) : Prop := n.found.filter (·.severity = .error) = []

instance (n : Notes) : Decidable (Clean n) :=
  inferInstanceAs (Decidable (n.found.filter (·.severity = .error) = []))

theorem gives_checkMembers (label : String) (ms : List (String × Json)) {n m : Notes}
    (hn : Gives (firstChecks label (tagOf? ms) ms) () n)
    (hm : Gives (lastCheck label (tagOf? ms) ms) () m) :
    Gives (checkMembers label ms) () (if Clean n then n ++ m else n) := by
  intro j
  rw [checkMembers_eq]
  -- The count grows by the errors of the first checks, whatever it was before.
  show (if ((firstChecks label (tagOf? ms) ms) j).2.collector.errors.length
      = j.collector.errors.length then lastCheck label (tagOf? ms) ms else pure ())
        ((firstChecks label (tagOf? ms) ms) j).2 = _
  rw [hn j]
  have hcount : (j.noted n).collector.errors.length = j.collector.errors.length ↔ Clean n := by
    rw [length_errors_noted]
    unfold Clean
    rw [← List.length_eq_zero_iff]
    omega
  by_cases hclean : Clean n
  · rw [if_pos (hcount.mpr hclean), if_pos hclean, hm, Journal.noted_append]
  · rw [if_neg fun h => hclean (hcount.mp h), if_neg hclean]
    rfl

theorem steady_checkMembers (label : String) (ms : List (String × Json)) :
    Steady (checkMembers label ms) :=
  (gives_checkMembers label ms (local_firstChecks label _ ms).steady
    (local_lastCheck label _ ms).steady).steady

/-- An item with an error in any of its checks is flagged: if the conversion is left out, it is
because another error was found. -/
theorem flags_checkMembers {label : String} {ms : List (String × Json)}
    (h : Flags (firstChecks label (tagOf? ms) ms) [] ∨ Flags (lastCheck label (tagOf? ms) ms) []) :
    Flags (checkMembers label ms) [] := by
  -- Whether the conversion is left out depends on the errors of the first checks alone.
  have hgives := gives_checkMembers label ms (local_firstChecks label _ ms).steady
    (local_lastCheck label _ ms).steady
  unfold Flags
  rw [hgives.notes_eq]
  by_cases hclean : Clean (firstChecks label (tagOf? ms) ms).notes
  · rw [if_pos hclean]
    rcases h with ⟨e, he, herror⟩ | ⟨e, he, herror⟩
    · exact ⟨e, List.mem_append_left _ he, herror⟩
    · exact ⟨e, List.mem_append_right _ he, herror⟩
  · rw [if_neg hclean]
    -- The conversion was left out, so one of the first checks has an error to show.
    obtain ⟨e, he⟩ := List.exists_mem_of_ne_nil _ hclean
    rw [List.mem_filter, decide_eq_true_eq] at he
    exact ⟨e, he.1, he.2, (local_firstChecks label _ ms).here e he.1⟩

/-! ## §3. Items in their places. -/

theorem scope_pure (steps : Path) : scope steps (pure ()) = pure () := by
  funext j
  have hgives := gives_scope (gives_pure ()) steps j
  rw [hgives]
  exact (gives_pure () j).symm

theorem nested_eq (label : String) (ms : List (String × Json)) :
    nested label ms = childrenFrom label 0 (nestedItems ms) := by
  induction ms with
  | nil => rfl
  | cons m ms ih =>
      obtain ⟨key, v⟩ := m
      unfold nested nestedItems Json.lookup
      by_cases hkey : key = "children"
      · rw [if_pos hkey, if_pos hkey]
        cases v <;> rfl
      · rw [if_neg hkey, if_neg hkey]
        exact ih

theorem side_eq (label name : String) (ms : List (String × Json)) :
    side label name ms = scope [.key name] (childrenFrom label 0 (sideItems name ms)) := by
  induction ms with
  | nil => exact (scope_pure _).symm
  | cons m ms ih =>
      obtain ⟨key, v⟩ := m
      unfold side sideItems Json.lookup
      by_cases hkey : key = name
      · rw [if_pos hkey, if_pos hkey]
        cases v with
        | obj inner =>
            show scope [.key name] (nested label inner) = _
            rw [nested_eq]
        | null => exact (scope_pure _).symm
        | bool b => exact (scope_pure _).symm
        | int n => exact (scope_pure _).symm
        | float x => exact (scope_pure _).symm
        | str s => exact (scope_pure _).symm
        | arr vs => exact (scope_pure _).symm
      · rw [if_neg hkey, if_neg hkey]
        exact ih

theorem item_obj (label : String) (ms : List (String × Json)) :
    item label (.obj ms)
      = checkMembers label ms >>= fun _ =>
        childrenFrom label 0 (nestedItems ms) >>= fun _ =>
        scope [.key "left"] (childrenFrom label 0 (sideItems "left" ms)) >>= fun _ =>
        scope [.key "right"] (childrenFrom label 0 (sideItems "right" ms)) := by
  rw [← nested_eq, ← side_eq, ← side_eq]
  rfl

theorem childrenFrom_cons (label : String) (index : Nat) (v : Json) (vs : List Json) :
    childrenFrom label index (v :: vs)
      = scope [.key "children", .index index] (item label v) >>= fun _ =>
        childrenFrom label (index + 1) vs := rfl

theorem steady_childrenFrom {label : String} {vs : List Json} (h : ∀ v ∈ vs, Steady (item label v)) :
    ∀ index, Steady (childrenFrom label index vs) := by
  induction vs with
  | nil => intro index; exact steady_pure
  | cons v vs ih =>
      intro index
      rw [childrenFrom_cons]
      exact (steady_scope (h v List.mem_cons_self) _).bind
        (ih (fun w hw => h w (List.mem_cons_of_mem v hw)) _)

theorem steady_item (label : String) (v : Json) : Steady (item label v) := by
  induction v using item_induction with
  | scalar v hv =>
      cases v with
      | obj ms => exact absurd hv (show ¬ (true = false) by decide)
      | str s => exact steady_pure
      | _ => exact steady_record _ _ _
  | object ms ihchildren ihsides =>
      rw [item_obj]
      refine (steady_checkMembers label ms).bind ((steady_childrenFrom ihchildren 0).bind ?_)
      exact (steady_scope (steady_childrenFrom (ihsides "left") 0) _).bind
        (steady_scope (steady_childrenFrom (ihsides "right") 0) _)

theorem steady_items (label : String) (vs : List Json) (index : Nat) :
    Steady (childrenFrom label index vs) :=
  steady_childrenFrom (fun v _ => steady_item label v) index

section Items

variable {label : String} {v : Json} {i : Nat} {p : Path}

theorem flags_childrenFrom (h : Flags (item label v) p) {vs : List Json} :
    ∀ {index : Nat}, (v, i) ∈ vs.zipIdx index →
      Flags (childrenFrom label index vs) ([.key "children", .index i] ++ p) := by
  induction vs with
  | nil => intro index hv; exact absurd hv List.not_mem_nil
  | cons w vs ih =>
      intro index hv
      have hfirst := steady_scope (steady_item label w) [.key "children", .index index]
      have hrest := steady_items label vs (index + 1)
      rw [List.zipIdx_cons, List.mem_cons] at hv
      rw [childrenFrom_cons]
      rcases hv with hhead | htail
      · obtain ⟨hvw, hi⟩ := Prod.mk.inj hhead
        rw [hvw] at h
        rw [hi]
        exact (flags_scope h (steady_item label w) _).left hfirst hrest
      · exact (ih htail).right hfirst hrest

/-- What is flagged in an item, by its own checks or in what is nested in it. -/
theorem flags_item_own {ms : List (String × Json)} (h : Flags (checkMembers label ms) p) :
    Flags (item label (.obj ms)) p := by
  rw [item_obj]
  have hnested := fun vs => steady_items label vs 0
  exact h.left (steady_checkMembers label ms) ((hnested _).bind
    ((steady_scope (hnested _) _).bind (steady_scope (hnested _) _)))

theorem flags_item_child {ms : List (String × Json)} (hv : (v, i) ∈ (nestedItems ms).zipIdx)
    (h : Flags (item label v) p) :
    Flags (item label (.obj ms)) ([.key "children", .index i] ++ p) := by
  rw [item_obj]
  have hnested := fun vs => steady_items label vs 0
  have hsides := (steady_scope (hnested (sideItems "left" ms)) [.key "left"]).bind
    (steady_scope (hnested (sideItems "right" ms)) [.key "right"])
  exact ((flags_childrenFrom h hv).left (hnested _) hsides).right (steady_checkMembers label ms)
    ((hnested _).bind hsides)

theorem flags_item_side {ms : List (String × Json)} {side : String} (hside : side ∈ ["left", "right"])
    (hv : (v, i) ∈ (sideItems side ms).zipIdx) (h : Flags (item label v) p) :
    Flags (item label (.obj ms)) ([.key side, .key "children", .index i] ++ p) := by
  rw [item_obj]
  have hnested := fun vs => steady_items label vs 0
  have hleft := steady_scope (hnested (sideItems "left" ms)) [.key "left"]
  have hright := steady_scope (hnested (sideItems "right" ms)) [.key "right"]
  have hflag := flags_scope (flags_childrenFrom h hv) (hnested _) [.key side]
  refine Flags.right (Flags.right ?_ (hnested _) (hleft.bind hright)) (steady_checkMembers label ms)
    ((hnested _).bind (hleft.bind hright))
  simp only [List.mem_cons, List.not_mem_nil, or_false] at hside
  rcases hside with rfl | rfl
  · exact hflag.left hleft hright
  · exact hflag.right hleft hright

/-! ## §4. Sections and courses. -/

theorem itemsFrom_cons (label : String) (index run : Nat) (v : Json) (vs : List Json) :
    itemsFrom label index run (v :: vs)
      = scope [.key "content", .index index]
          (if isParagraph v && (if isParagraph v then run + 1 else 0) == paragraphRunLimit then
            Writing.record "consecutive_paragraphs"
              (s!"{label}: {paragraphRunLimit} or more consecutive paragraphs; "
                ++ "vary the block types") .warning >>= fun _ => item label v
          else item label v) >>= fun _ =>
        itemsFrom label (index + 1) (if isParagraph v then run + 1 else 0) vs := rfl

/-- A remark on style, and then the item. -/
theorem steady_remarked (label : String) (v : Json) (code message : String) (remark : Bool) :
    Steady (if remark = true then Writing.record code message .warning >>= fun _ => item label v
      else item label v) := by
  split
  · exact (steady_record _ _ _).bind (steady_item label v)
  · exact steady_item label v

theorem flags_remarked (h : Flags (item label v) p) (code message : String) (remark : Bool) :
    Flags (if remark = true then Writing.record code message .warning >>= fun _ => item label v
      else item label v) p := by
  split
  · exact h.right (steady_record _ _ _) (steady_item label v)
  · exact h

theorem steady_itemsFrom (label : String) (vs : List Json) :
    ∀ index run, Steady (itemsFrom label index run vs) := by
  induction vs with
  | nil => intro index run; exact steady_pure
  | cons v vs ih =>
      intro index run
      rw [itemsFrom_cons]
      exact (steady_scope (steady_remarked label v _ _ _) _).bind (ih _ _)

theorem flags_itemsFrom (h : Flags (item label v) p) {vs : List Json} :
    ∀ {index run : Nat}, (v, i) ∈ vs.zipIdx index →
      Flags (itemsFrom label index run vs) ([.key "content", .index i] ++ p) := by
  induction vs with
  | nil => intro index run hv; exact absurd hv List.not_mem_nil
  | cons w vs ih =>
      intro index run hv
      have hrest := steady_itemsFrom label vs (index + 1)
      rw [List.zipIdx_cons, List.mem_cons] at hv
      rw [itemsFrom_cons]
      have hitem := fun remark message => steady_remarked label w "consecutive_paragraphs" message remark
      rcases hv with hhead | htail
      · obtain ⟨hvw, hi⟩ := Prod.mk.inj hhead
        rw [hvw] at h
        rw [hi]
        exact (flags_scope (flags_remarked h _ _ _) (hitem _ _) _).left (steady_scope (hitem _ _) _)
          (hrest _)
      · exact (ih htail).right (steady_scope (hitem _ _) _) (hrest _)

/-- A missing part is recorded, and nothing else is done. -/
theorem steady_missing (code message : String) (missing : Bool) :
    Steady (if missing = true then Writing.record code message .error else pure ()) := by
  split
  · exact steady_record _ _ _
  · exact steady_pure

theorem oneSection_eq (number : Nat) (v : Json) :
    oneSection number v
      = (if !hasText (v.member "title") then
          Writing.record "section_missing_title" (s!"Section {number}" ++ ": missing title") .error
        else pure ()) >>= fun _ =>
        if (v.member "content").items.isEmpty then
          Writing.record "section_missing_content" (s!"Section {number}" ++ ": missing content") .error
        else itemsFrom s!"Section {number}" 0 0 (v.member "content").items := by
  unfold oneSection
  split <;> rfl

theorem steady_oneSection (number : Nat) (v : Json) : Steady (oneSection number v) := by
  rw [oneSection_eq]
  refine (steady_missing _ _ _).bind ?_
  split
  · exact steady_record _ _ _
  · exact steady_itemsFrom _ _ _ _

theorem flags_oneSection {number : Nat} {s : Json}
    (hv : (v, i) ∈ (s.member "content").items.zipIdx)
    (h : Flags (item s!"Section {number}" v) p) :
    Flags (oneSection number s) ([.key "content", .index i] ++ p) := by
  have hne : ¬ (s.member "content").items.isEmpty = true := by
    intro hempty
    rw [List.isEmpty_iff.mp hempty] at hv
    exact absurd hv List.not_mem_nil
  rw [oneSection_eq, if_neg hne]
  exact (flags_itemsFrom h hv).right (steady_missing _ _ _) (steady_itemsFrom _ _ _ _)

theorem sectionsFrom_cons (index : Nat) (s : Json) (ss : List Json) :
    sectionsFrom index (s :: ss)
      = scope [.key "sections", .index index] (oneSection (index + 1) s) >>= fun _ =>
        sectionsFrom (index + 1) ss := rfl

theorem steady_sectionsFrom (ss : List Json) : ∀ index, Steady (sectionsFrom index ss) := by
  induction ss with
  | nil => intro index; exact steady_pure
  | cons s ss ih =>
      intro index
      rw [sectionsFrom_cons]
      exact (steady_scope (steady_oneSection _ s) _).bind (ih _)

theorem flags_sectionsFrom {s : Json} (h : Flags (oneSection (i + 1) s) p) {ss : List Json} :
    ∀ {index : Nat}, (s, i) ∈ ss.zipIdx index →
      Flags (sectionsFrom index ss) ([.key "sections", .index i] ++ p) := by
  induction ss with
  | nil => intro index hs; exact absurd hs List.not_mem_nil
  | cons t ss ih =>
      intro index hs
      have hfirst := steady_scope (steady_oneSection (index + 1) t) [.key "sections", .index index]
      rw [List.zipIdx_cons, List.mem_cons] at hs
      rw [sectionsFrom_cons]
      rcases hs with hhead | htail
      · obtain ⟨hst, hi⟩ := Prod.mk.inj hhead
        rw [hst, hi] at h
        rw [hi]
        exact (flags_scope h (steady_oneSection _ t) _).left hfirst (steady_sectionsFrom ss _)
      · exact (ih htail).right hfirst (steady_sectionsFrom ss _)

theorem courseParts_eq (course : Json) :
    courseParts course
      = (if !hasText (course.member "title") then
          Writing.record "course_missing_title" "Missing course title" .error
        else pure ()) >>= fun _ =>
        (if (course.member "sections").items.isEmpty then
          Writing.record "course_missing_sections" "At least one section is required" .error
        else pure ()) >>= fun _ =>
        sectionsFrom 0 (course.member "sections").items := by
  unfold courseParts
  dsimp only
  cases hasText (course.member "title") <;>
    cases (course.member "sections").items.isEmpty <;> rfl

theorem steady_courseParts (course : Json) : Steady (courseParts course) := by
  rw [courseParts_eq]
  exact (steady_missing _ _ _).bind ((steady_missing _ _ _).bind (steady_sectionsFrom _ _))

theorem flags_courseParts {course s : Json} (hs : (s, i) ∈ (course.member "sections").items.zipIdx)
    (h : Flags (oneSection (i + 1) s) p) :
    Flags (courseParts course) ([.key "sections", .index i] ++ p) := by
  rw [courseParts_eq]
  have hsections := steady_sectionsFrom (course.member "sections").items 0
  exact ((flags_sectionsFrom h hs).right (steady_missing _ _ _) hsections).right
    (steady_missing _ _ _) ((steady_missing _ _ _).bind hsections)

end Items

/-- A review of a course adds what its parts add, and its verdict is on that. -/
theorem gives_course (course : Json) (j : Journal) :
    Review.course course j
      = (Verdict.of ((courseParts course).notes.found.map (.under j.collector.stack)),
        j.noted (courseParts course).notes) := by
  have hparts := steady_courseParts course j
  show (Verdict.of ((courseParts course j).2.collector.entries.drop j.collector.entries.length),
    (courseParts course j).2) = _
  rw [hparts, Journal.noted_entries, List.drop_left]

/-- A valid course is one in which nothing is flagged. -/
theorem valid_iff (course : Json) (j : Journal) :
    (Review.course course j).1.valid = true ↔ ∀ p, ¬ Flags (courseParts course) p := by
  rw [gives_course]
  unfold Verdict.valid Verdict.of
  rw [List.isEmpty_iff, List.map_eq_nil_iff, List.filter_eq_nil_iff]
  constructor
  · rintro h p ⟨e, he, hsev, _⟩
    refine h (e.under j.collector.stack) (List.mem_map_of_mem he) ?_
    rw [Diagnostic.under_severity, hsev]
    decide
  · intro h d hd herror
    obtain ⟨e, he, rfl⟩ := List.mem_map.mp hd
    rw [Diagnostic.under_severity, decide_eq_true_eq] at herror
    exact h e.path ⟨e, he, herror, rfl⟩

end Review

end Syllabus
