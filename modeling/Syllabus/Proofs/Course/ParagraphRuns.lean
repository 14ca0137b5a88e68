/-
  Syllabus.Proofs.Course.ParagraphRuns
  ────────────────────────────────────
  **ONE REMARK ON EACH LONG RUN.**

  A review counts paragraphs in a row while it goes over the items of a
  section, and remarks on them when the count reaches three.  It says nothing
  of the kind elsewhere: the checks of an item have five codes, none of them
  this one.  So what it remarks are the maximal runs of three or more
  paragraphs, each of them once and at its third item:

      Stretch              some items in a row
      LongRun              when they are such a run
      longRuns             all of them, in order
      itemsFrom_remarks    a review of items remarks on these
      long_runs_remarked   and so does one of a course, section by section
-/
import Syllabus.Proofs.Course.Places
import Syllabus.Proofs.Course.Statistics
import Syllabus.Proofs.Course.Surroundings

namespace Syllabus

open Writing

/-! ## §1. What is said of items. -/

namespace Review

/-- The codes of what a review says of an item. -/
def itemCodes : List String := "malformed_item" :: firstCodes

/-- What a review says of an item and of all that is nested in it has one of five codes. -/
theorem item_codes (label : String) (v : Json) :
    Meets (fun d => d.code ∈ itemCodes) (fun _ => True) (item label v) :=
  item_meets (D := fun _ d => d.code ∈ itemCodes)
    { first := fun _ _ hcode _ _ => List.mem_cons_of_mem _ hcode
      malformed := fun _ _ _ => List.mem_cons_self
      child := fun _ _ _ _ _ hd => hd
      sideChild := fun _ _ _ _ _ _ _ hd => hd } label v

end Review

/-! ## §2. Long runs. -/

/-- Some places in a row. -/
structure Stretch where
  /-- The first of them. -/
  start : Nat
  /-- How many they are. -/
  length : Nat
  deriving DecidableEq, Repr

/-- At some place of a list of items there is one that carries the tag of a paragraph. -/
def ParagraphAt (vs : List Json) (k : Nat) : Prop := ∃ v, vs[k]? = some v ∧ Carries v "paragraph"

/-- A stretch of three or more places with a property, none of them next to another such place. -/
structure LongRun (P : Nat → Prop) (r : Stretch) : Prop where
  /-- There are at least three. -/
  long : 3 ≤ r.length
  /-- All of them have the property. -/
  inside : ∀ k, r.start ≤ k → k < r.start + r.length → P k
  /-- The place in front of the first one has not. -/
  before : ∀ k, k + 1 = r.start → ¬ P k
  /-- Nor has the place behind the last one. -/
  after : ¬ P (r.start + r.length)

/-- A run that is over, if it is long. -/
def closed (start count : Nat) : List Stretch := if 3 ≤ count then [⟨start, count⟩] else []

/-- The long runs of some items, if the last `count` items in front of them, from `start` on, are
paragraphs. -/
def runsFrom : (start count : Nat) → List Json → List Stretch
  | start, count, [] => closed start count
  | start, count, v :: vs =>
      if Carries v "paragraph" then runsFrom start (count + 1) vs
      else closed start count ++ runsFrom (start + count + 1) 0 vs

/-- The long runs of paragraphs among some items. -/
def longRuns (vs : List Json) : List Stretch := runsFrom 0 0 vs

section Runs

variable {P : Nat → Prop} {start count : Nat} {r : Stretch}

theorem mem_closed : r ∈ closed start count ↔ r = ⟨start, count⟩ ∧ 3 ≤ count := by
  unfold closed
  by_cases h : 3 ≤ count
  · rw [if_pos h, List.mem_singleton]
    exact ⟨fun hr => ⟨hr, h⟩, fun hr => hr.1⟩
  · rw [if_neg h]
    exact ⟨fun hr => absurd hr List.not_mem_nil, fun hr => absurd hr.2 h⟩

/-- Behind the start of a run that is over there is no other long run before its end. -/
theorem LongRun.eq_or_behind (h : LongRun P r) (hstart : start ≤ r.start)
    (hinside : ∀ k, start ≤ k → k < start + count → P k) (hafter : ¬ P (start + count)) :
    r = ⟨start, count⟩ ∨ start + count < r.start := by
  obtain ⟨s, n⟩ := r
  have hlong := h.long
  dsimp only at hstart hlong ⊢
  by_cases hbehind : start + count < s
  · exact .inr hbehind
  · left
    -- It starts within the run, so it starts with it.
    have hwithin : s ≠ start + count := by
      intro heq
      exact hafter (heq ▸ h.inside s (Nat.le_refl s) (show s < s + n by omega))
    have hs : s = start := by
      by_contra hne
      have hprevious := h.before (s - 1) (show s - 1 + 1 = s by omega)
      exact hprevious (hinside (s - 1) (by omega) (by omega))
    subst hs
    -- It ends neither before the end of the run nor behind it.
    have hshort : ¬ n < count := fun hlt => h.after (hinside (s + n) (by omega) (by omega))
    have hover : ¬ count < n := fun hlt =>
      hafter (h.inside (s + count) (show s ≤ s + count by omega) (show s + count < s + n by omega))
    rw [show n = count by omega]

/-- What is found are the long runs, from the one that has begun on. -/
theorem mem_runsFrom (vs : List Json) : ∀ start count,
    (∀ k, start ≤ k → k < start + count → P k) → (∀ k, k + 1 = start → ¬ P k) →
      (∀ k, P (start + count + k) ↔ ParagraphAt vs k) →
      (r ∈ runsFrom start count vs ↔ LongRun P r ∧ start ≤ r.start) := by
  -- By induction on the items that are left.  The items from `start` on that have been seen are
  -- `count` paragraphs; such a run is over in front of another item or at the end.
  have hclosed : ∀ start count, (∀ k, start ≤ k → k < start + count → P k) →
      (∀ k, k + 1 = start → ¬ P k) → ¬ P (start + count) → 3 ≤ count →
        LongRun P ⟨start, count⟩ :=
    fun start count hinside hbefore hafter hlong => ⟨hlong, hinside, hbefore, hafter⟩
  induction vs with
  | nil =>
      intro start count hinside hbefore hrest
      have hnone : ∀ k, ¬ P (start + count + k) := by
        intro k hk
        obtain ⟨v, hv, -⟩ := (hrest k).mp hk
        cases hv
      show r ∈ closed start count ↔ _
      rw [mem_closed]
      constructor
      · rintro ⟨rfl, hlong⟩
        exact ⟨hclosed start count hinside hbefore (hnone 0) hlong, Nat.le_refl start⟩
      · rintro ⟨hrun, hstart⟩
        rcases hrun.eq_or_behind hstart hinside (hnone 0) with rfl | hbehind
        · exact ⟨rfl, hrun.long⟩
        · have hfirst := hrun.inside r.start (Nat.le_refl _) (by have := hrun.long; omega)
          rw [show r.start = start + count + (r.start - (start + count)) by omega] at hfirst
          exact absurd hfirst (hnone _)
  | cons v vs ih =>
      intro start count hinside hbefore hrest
      have htail : ∀ k, P (start + count + 1 + k) ↔ ParagraphAt vs k := by
        intro k
        rw [show start + count + 1 + k = start + count + (k + 1) by omega, hrest]
        rfl
      have hhead : P (start + count) ↔ Carries v "paragraph" := by
        refine (hrest 0).trans ⟨?_, fun h => ⟨v, rfl, h⟩⟩
        rintro ⟨w, hw, h⟩
        cases hw
        exact h
      unfold runsFrom
      by_cases hv : Carries v "paragraph"
      · rw [if_pos hv]
        refine ih start (count + 1) ?_ hbefore htail
        intro k hk hlt
        by_cases hlast : k = start + count
        · exact hlast ▸ hhead.mpr hv
        · exact hinside k hk (by omega)
      · rw [if_neg hv]
        have hafter : ¬ P (start + count) := fun h => hv (hhead.mp h)
        have hrests : r ∈ runsFrom (start + count + 1) 0 vs
            ↔ LongRun P r ∧ start + count + 1 ≤ r.start := by
          refine ih (start + count + 1) 0 (fun k hk hlt => by omega) ?_ htail
          intro k hk
          rw [show k = start + count by omega]
          exact hafter
        rw [List.mem_append, mem_closed, hrests]
        constructor
        · rintro (⟨rfl, hlong⟩ | ⟨hrun, hbehind⟩)
          · exact ⟨hclosed start count hinside hbefore hafter hlong, Nat.le_refl start⟩
          · exact ⟨hrun, by omega⟩
        · rintro ⟨hrun, hstart⟩
          rcases hrun.eq_or_behind hstart hinside hafter with rfl | hbehind
          · exact .inl ⟨rfl, hrun.long⟩
          · exact .inr ⟨hrun, hbehind⟩

/-- The runs stand one behind the other, with something in between. -/
theorem ordered_runsFrom (vs : List Json) : ∀ start count,
    (∀ r ∈ runsFrom start count vs, start ≤ r.start)
      ∧ (runsFrom start count vs).Pairwise fun r s => r.start + r.length < s.start := by
  have hclosed : ∀ start count, (∀ r ∈ closed start count, start ≤ r.start)
      ∧ (closed start count).Pairwise fun r s => r.start + r.length < s.start := by
    intro start count
    constructor
    · intro r hr
      rw [(mem_closed.mp hr).1]
    · unfold closed
      split
      · exact List.pairwise_singleton _ _
      · exact List.Pairwise.nil
  induction vs with
  | nil => exact hclosed
  | cons v vs ih =>
      intro start count
      unfold runsFrom
      by_cases hv : Carries v "paragraph"
      · rw [if_pos hv]
        exact ih start (count + 1)
      · rw [if_neg hv]
        obtain ⟨hbehind, hpairwise⟩ := ih (start + count + 1) 0
        constructor
        · intro r hr
          rcases List.mem_append.mp hr with hfirst | hrest
          · exact (hclosed start count).1 r hfirst
          · have := hbehind r hrest
            omega
        · refine List.pairwise_append.mpr ⟨(hclosed start count).2, hpairwise, ?_⟩
          intro r hr s hs
          have := hbehind s hs
          rw [(mem_closed.mp hr).1]
          show start + count < s.start
          omega

/-- Some stretches are the long runs of a property, each of them once and in order. -/
structure ListsRuns (P : Nat → Prop) (rs : List Stretch) : Prop where
  /-- They are the long runs. -/
  mem : ∀ r, r ∈ rs ↔ LongRun P r
  /-- They stand one behind the other. -/
  ordered : rs.Pairwise fun r s => r.start + r.length < s.start

theorem listsRuns_longRuns (vs : List Json) : ListsRuns (ParagraphAt vs) (longRuns vs) where
  mem r := by
    unfold longRuns
    have hmem := mem_runsFrom (P := ParagraphAt vs) (r := r) vs 0 0 (fun k _ hlt => by omega)
      (fun k hk => by omega) fun k => by rw [Nat.add_zero, Nat.zero_add]
    rw [hmem]
    exact and_iff_left (Nat.zero_le r.start)
  ordered := (ordered_runsFrom vs 0 0).2

end Runs

/-! ## §3. Remarks. -/

/-- The code of a remark on paragraphs in a row. -/
def runCode : String := "consecutive_paragraphs"

/-- What is said in a remark, in the section with some number. -/
def runWarning (number : Nat) : Diagnostic where
  code := runCode
  message := s!"Section {number}: 3 or more consecutive paragraphs; vary the block types"
  path := []
  severity := .warning

/-- The remark on a run, at its third item. -/
def runRemark (number : Nat) (r : Stretch) : Diagnostic :=
  (runWarning number).under [.key "content", .index (r.start + 2)]

/-- The remarks on paragraphs in a row among notes. -/
def Notes.runRemarks (n : Notes) : List Diagnostic := n.found.filter fun d => d.code = runCode

theorem Notes.runRemarks_append (n m : Notes) : (n ++ m).runRemarks = n.runRemarks ++ m.runRemarks :=
  List.filter_append ..

theorem Notes.runRemarks_under (steps : Path) (n : Notes) :
    (n.under steps).runRemarks = n.runRemarks.map (.under steps) := List.filter_map ..

/-- What is counted are the items that carry the tag of a paragraph. -/
theorem isParagraph_iff (v : Json) : Review.isParagraph v = true ↔ Carries v "paragraph" := by
  have hunknown : ¬ "unknown" = "paragraph" := by decide
  rw [carries_iff]
  cases v with
  | str s => exact ⟨fun _ => rfl, fun _ => rfl⟩
  | obj ms =>
      show (Json.lookup "type" ms == some (.str "paragraph")) = true
        ↔ ((Json.lookup "type" ms).bind Json.str?).getD "unknown" = "paragraph"
      rw [beq_iff_eq]
      cases Json.lookup "type" ms with
      | none => exact ⟨fun h => (by cases h), fun h => absurd h hunknown⟩
      | some w =>
          cases w with
          | str t =>
              show some (Json.str t) = some (.str "paragraph") ↔ t = "paragraph"
              rw [Option.some.injEq, Json.str.injEq]
          | _ => exact ⟨fun h => (by cases h), fun h => absurd h hunknown⟩
  | _ => exact ⟨fun h => absurd h Bool.false_ne_true, fun h => absurd h hunknown⟩

namespace Review

/-- The checks of an item make no such remark. -/
theorem runRemarks_item (label : String) (v : Json) : (item label v).notes.runRemarks = [] := by
  obtain ⟨⟨⟩, n, hgives, hn, -⟩ := item_codes label v
  rw [hgives.notes_eq]
  refine List.filter_eq_nil_iff.mpr fun d hd hcode => ?_
  have hitem : d.code ∈ itemCodes := hn d hd
  rw [of_decide_eq_true hcode] at hitem
  exact absurd hitem (by decide)

/-- Nor is one made under any other code. -/
theorem runRemarks_record {code : String} (hcode : code ≠ runCode) (message : String)
    (severity : Severity) : (record code message severity).notes.runRemarks = [] := by
  rw [(gives_record _ _ _).notes_eq]
  exact List.filter_cons_of_neg (by simp [hcode])

theorem runRemarks_missing {code : String} (hcode : code ≠ runCode) (message : String)
    (missing : Bool) :
    (if missing = true then record code message .error else pure () : Writing Unit).notes.runRemarks
      = [] := by
  cases missing with
  | false => rfl
  | true =>
      rw [if_pos rfl]
      exact runRemarks_record hcode message .error

/-- A remark that is made is one on a run. -/
theorem runRemarks_paragraphRemark (number : Nat) (remark : Bool) :
    (paragraphRemark s!"Section {number}" remark).notes.runRemarks
      = if remark then [runWarning number] else [] := by
  have hmessage : ∀ label, label = s!"Section {number}" →
      s!"{label}: {paragraphRunLimit} or more consecutive paragraphs; " ++ "vary the block types"
        = (runWarning number).message := by
    rintro label rfl
    simp only [String.append_assoc, toString]
    rfl
  cases remark with
  | false => rfl
  | true =>
      unfold paragraphRemark
      rw [if_pos rfl, if_pos rfl, hmessage _ rfl, (gives_record _ _ _).notes_eq]
      exact List.filter_cons_of_pos (decide_eq_true rfl)

/-- With one more paragraph there is a remark exactly if this makes the run long. -/
theorem closed_remarks (number start count : Nat) :
    (closed start count).map (runRemark number)
        ++ (if count + 1 == paragraphRunLimit then [runWarning number] else []).map
            (.under [.key "content", .index (start + count)])
      = (closed start (count + 1)).map (runRemark number) := by
  unfold closed paragraphRunLimit
  by_cases hlong : 3 ≤ count
  · -- The run was long before, and the remark has been made.
    rw [if_pos hlong, if_pos (show 3 ≤ count + 1 by omega),
      if_neg (show ¬ (count + 1 == 3) = true by rw [beq_iff_eq]; omega)]
    rfl
  · rw [if_neg hlong]
    by_cases hnow : count = 2
    · subst hnow
      rfl
    · rw [if_neg (show ¬ 3 ≤ count + 1 by omega),
        if_neg (show ¬ (count + 1 == 3) = true by rw [beq_iff_eq]; omega)]
      rfl

/-- While paragraphs are counted, a run is remarked on as soon as it is long; at its end it is the run
that has been remarked on. -/
theorem itemsFrom_remarks (number : Nat) (vs : List Json) : ∀ start count,
    (closed start count).map (runRemark number)
        ++ (itemsFrom s!"Section {number}" (start + count) count vs).notes.runRemarks
      = (runsFrom start count vs).map (runRemark number) := by
  induction vs with
  | nil =>
      intro start count
      exact List.append_nil _
  | cons v vs ih =>
      intro start count
      rw [notes_itemsFrom_cons, Notes.runRemarks_append, Notes.runRemarks_under,
        Notes.runRemarks_append, runRemarks_item, List.append_nil, runRemarks_paragraphRemark]
      unfold runsFrom runAfter
      by_cases hv : Carries v "paragraph"
      · have hparagraph := (isParagraph_iff v).mpr hv
        -- The run goes on, and its remark may become due at this item.
        rw [if_pos hv, ← ih start (count + 1), hparagraph, if_pos rfl, Bool.true_and,
          ← closed_remarks, List.append_assoc]
        rfl
      · have hother : isParagraph v = false := by
          rw [Bool.eq_false_iff, Ne, isParagraph_iff]
          exact hv
        -- The run is over, and counting starts again behind this item.
        have hrest := ih (start + count + 1) 0
        rw [show closed (start + count + 1) 0 = [] from rfl, List.map_nil, List.nil_append] at hrest
        rw [if_neg hv, List.map_append, ← hrest, hother]
        rfl

/-- The remarks on the items of a section. -/
theorem oneSection_remarks (number : Nat) (v : Json) :
    (oneSection number v).notes.runRemarks
      = (longRuns (v.member "content").items).map (runRemark number) := by
  have hmissing := steady_missing "section_missing_title"
    (s!"Section {number}" ++ ": missing title") (!hasText (v.member "title"))
  rw [oneSection_eq]
  by_cases hempty : (v.member "content").items.isEmpty = true
  · rw [if_pos hempty, hmissing.notes_bind (steady_record _ _ _), Notes.runRemarks_append,
      runRemarks_missing (by decide), runRemarks_record (by decide), List.isEmpty_iff.mp hempty]
    rfl
  · have hitems := itemsFrom_remarks number (v.member "content").items 0 0
    rw [if_neg hempty, hmissing.notes_bind (steady_itemsFrom _ _ _ _), Notes.runRemarks_append,
      runRemarks_missing (by decide)]
    exact hitems

/-- The remarks on the sections of a course, from an index on. -/
theorem sectionsFrom_remarks (ss : List Json) : ∀ index,
    (sectionsFrom index ss).notes.runRemarks
      = (ss.zipIdx index).flatMap fun (s, i) =>
          (longRuns (s.member "content").items).map fun r =>
            (runRemark (i + 1) r).under [.key "sections", .index i] := by
  induction ss with
  | nil => intro index; rfl
  | cons s ss ih =>
      intro index
      rw [notes_sectionsFrom_cons, Notes.runRemarks_append, Notes.runRemarks_under, oneSection_remarks,
        ih, List.zipIdx_cons, List.flatMap_cons, List.map_map]
      rfl

theorem courseParts_remarks (course : Json) :
    (courseParts course).notes.runRemarks
      = (course.member "sections").items.zipIdx.flatMap fun (s, i) =>
          (longRuns (s.member "content").items).map fun r =>
            (runRemark (i + 1) r).under [.key "sections", .index i] := by
  have hsections := steady_sectionsFrom (course.member "sections").items 0
  rw [courseParts_eq, (steady_missing _ _ _).notes_bind ((steady_missing _ _ _).bind hsections),
    (steady_missing _ _ _).notes_bind hsections, Notes.runRemarks_append, Notes.runRemarks_append,
    runRemarks_missing (by decide), runRemarks_missing (by decide)]
  exact sectionsFrom_remarks _ 0

end Review

/-! ## §4. Courses. -/

/-- **ONE REMARK ON EACH LONG RUN.**

Of the diagnostics that a review of a course adds to a journal, those about paragraphs in a row are, for
one section after the other, one for each maximal run of three or more items that are bare strings or
objects tagged as paragraphs: a warning at the third item of the run. -/
theorem long_runs_remarked (course : Json) (j : Journal) :
    ∃ found, (Review.course course j).2.collector.entries = j.collector.entries ++ found
      ∧ (found.filter fun d => d.code = "consecutive_paragraphs")
        = (course.member "sections").items.zipIdx.flatMap (fun (s, i) =>
            (longRuns (s.member "content").items).map fun r => {
              code := "consecutive_paragraphs"
              message := s!"Section {i + 1}: 3 or more consecutive paragraphs; vary the block types"
              path := j.collector.stack ++
                [.key "sections", .index i, .key "content", .index (r.start + 2)]
              severity := .warning })
      ∧ ∀ vs, ListsRuns (ParagraphAt vs) (longRuns vs) := by
  refine ⟨(Review.courseParts course).notes.found.map (.under j.collector.stack), ?_, ?_,
    listsRuns_longRuns⟩
  · rw [Review.gives_course]
    rfl
  · have hremarks := Review.courseParts_remarks course
    unfold Notes.runRemarks runCode at hremarks
    rw [List.filter_map]
    show List.map _ (List.filter (fun d : Diagnostic => d.code = "consecutive_paragraphs") _) = _
    rw [hremarks, List.map_flatMap]
    refine congrArg (List.flatMap · _) (funext fun ⟨s, i⟩ => ?_)
    rw [List.map_map]
    rfl

end Syllabus
