/-
  Syllabus.Proofs.Course.Hints
  ────────────────────────────
  **HINTS GO BY THE SPELLING.**

  A hint is given when a course has no quiz, and another one when it has no
  exercise.  Both are counted under the names of the tag as they stand, its
  synonyms among them; but an item is built under the name without the blanks
  around it.  So a course whose only quiz has a blank in its tag is told to
  add one.

      Tag.spellings           the names of a tag
      Tag.ofName?_eq_some     which are exactly these
      HintGoesBySpelling      when a hint is given, and when rightly so
      hints_go_by_spelling    this holds of both hints
-/
import Syllabus.Item.Reading
import Syllabus.Proofs.Course.Statistics

namespace Syllabus

/-! ## §1. The names of a tag. -/

namespace Tag

/-- The names of a tag, its own and its synonyms. -/
def spellings (tag : Tag) : List String :=
  tag.name :: (synonyms.filter fun entry => entry.2 = tag).map Prod.fst

/-- No tag has the name of another one. -/
theorem find?_name (tag : Tag) : all.find? (·.name = tag.name) = some tag := by
  cases tag with
  | text kind => cases kind <;> decide
  | note kind => cases kind <;> decide
  | entry kind => cases kind <;> decide
  | group kind => cases kind <;> decide
  | media tag => cases tag <;> decide
  | layout kind => cases kind <;> decide
  | _ => decide

/-- A tag is found under its names and under no others. -/
theorem ofName?_eq_some (s : String) (tag : Tag) : ofName? s = some tag ↔ s ∈ tag.spellings := by
  have hsynonyms : ∀ entry ∈ synonyms, ofName? entry.1 = some entry.2 := by decide
  unfold spellings
  rw [List.mem_cons, List.mem_map]
  constructor
  · intro h
    unfold ofName? at h
    split at h
    · rename_i found hfind
      cases h
      have hname := List.find?_some hfind
      exact .inl (of_decide_eq_true hname).symm
    · obtain ⟨before, after, hsplit, -⟩ := List.lookup_eq_some_iff.mp h
      refine .inr ⟨(s, tag), List.mem_filter.mpr ⟨?_, decide_eq_true rfl⟩, rfl⟩
      rw [hsplit]
      exact List.mem_append_right _ List.mem_cons_self
  · rintro (rfl | ⟨entry, hentry, rfl⟩)
    · unfold ofName?
      rw [find?_name]
    · obtain ⟨hmem, htag⟩ := List.mem_filter.mp hentry
      rw [hsynonyms entry hmem, of_decide_eq_true htag]

end Tag

/-! ## §2. What an item is, and what it is counted as. -/

/-- An object that is built as an item of a tag: its type names the tag, blanks around it apart. -/
def IsOf (tag : Tag) (v : Json) : Prop := Tag.ofJson? (v.member "type") = some tag

/-- An object whose type is a name of a tag just as it stands. -/
def IsSpelled (tag : Tag) (v : Json) : Prop := ∃ s ∈ tag.spellings, v.member "type" = .str s

instance (tag : Tag) (v : Json) : Decidable (IsOf tag v) :=
  inferInstanceAs (Decidable (Tag.ofJson? (v.member "type") = some tag))

/-- An item of a tag has a name of it for its type, between blanks. -/
theorem isOf_iff (tag : Tag) (v : Json) :
    IsOf tag v ↔ ∃ s, v.member "type" = .str s ∧ Text.strip s ∈ tag.spellings := by
  unfold IsOf
  cases htype : v.member "type" with
  | str s =>
      show Tag.ofName? (Text.strip s) = some tag ↔ _
      rw [Tag.ofName?_eq_some]
      exact ⟨fun h => ⟨s, rfl, h⟩, fun ⟨_, heq, h⟩ => Json.str.inj heq ▸ h⟩
  | _ =>
      constructor
      · intro h
        cases h
      · rintro ⟨s, heq, _⟩
        cases heq

/-- What is counted for lack of a tag. -/
def standIns : List String := ["paragraph", "unknown"]

/-- Apart from these, an item carries a tag exactly if that is its type. -/
theorem carries_iff_member {tag : String} (h : tag ∉ standIns) (v : Json) :
    Carries v tag ↔ v.member "type" = .str tag := by
  rw [standIns, List.mem_cons, List.mem_singleton, not_or] at h
  constructor
  · intro hcarries
    cases hcarries with
    | bare s => exact absurd rfl h.1
    | tagged htype => exact congrArg (fun w => w.getD Json.null) htype
    | untagged _ => exact absurd rfl h.2
    | other _ _ => exact absurd rfl h.2
  · intro htype
    cases v with
    | obj ms =>
        refine .tagged ?_
        cases hlookup : Json.lookup "type" ms with
        | none =>
            have hnull : Json.null = .str tag := by
              rw [← htype]
              exact (congrArg (fun w => w.getD Json.null) hlookup).symm
            cases hnull
        | some w =>
            rw [← htype]
            exact congrArg some (congrArg (fun w => w.getD Json.null) hlookup).symm
    | _ => cases htype

/-! ## §3. Hints. -/

theorem mem_whenTrue {condition : Bool} {text hint : String} :
    hint ∈ whenTrue condition text ↔ condition = true ∧ hint = text := by
  cases condition <;> simp [whenTrue]

namespace Statistics

theorem mem_recommendations {s : Statistics} {hint : String} (h : hint ≠ allGood) :
    hint ∈ s.recommendations ↔ hint ∈ s.hints := by
  unfold recommendations
  split
  · rename_i hempty
    rw [List.isEmpty_iff.mp hempty]
    simp [h]
  · exact Iff.rfl

/-- No two of the texts are the same. -/
theorem nodup_hintTexts : [paragraphHint, exerciseHint, quizHint, lengthHint, allGood].Nodup := by
  decide

theorem quizHint_mem (s : Statistics) :
    quizHint ∈ s.recommendations ↔ s.count ["quiz", "quickQuiz"] = 0 := by
  have hdistinct := nodup_hintTexts
  simp only [List.nodup_cons, List.mem_cons, List.not_mem_nil, or_false, not_or] at hdistinct
  obtain ⟨hparagraph, hexercise, hquiz, -⟩ := hdistinct
  rw [mem_recommendations hquiz.2]
  simp only [hints, List.mem_append, mem_whenTrue, decide_eq_true_eq, Ne.symm hparagraph.2.1,
    Ne.symm hexercise.1, hquiz.1, and_false, and_true, false_or, or_false]

theorem exerciseHint_mem (s : Statistics) :
    exerciseHint ∈ s.recommendations ↔ s.count ["exercice", "exercise"] = 0 := by
  have hdistinct := nodup_hintTexts
  simp only [List.nodup_cons, List.mem_cons, List.not_mem_nil, or_false, not_or] at hdistinct
  obtain ⟨hparagraph, hexercise, -⟩ := hdistinct
  rw [mem_recommendations hexercise.2.2]
  simp only [hints, List.mem_append, mem_whenTrue, decide_eq_true_eq, Ne.symm hparagraph.1,
    hexercise.1, hexercise.2.1, and_false, and_true, false_or, or_false]

/-- The number of items with one of some tags is a sum of counts. -/
theorem count_ofCourse (course : Json) (tags : List String) :
    (ofCourse course).count tags
      = total (tags.map fun tag => ((sectionItems course).flatten.countP fun v => Carries v tag : Int)) := by
  have hlookup : ∀ tag, ((ofCourse course).blockTypes.lookup tag).getD 0
      = ((sectionItems course).flatten.countP fun v => Carries v tag : Int) := by
    intro tag
    rw [← count_rawTag, ← lookup_tally]
    rfl
  unfold count total
  simp only [hlookup]

/-- There is none exactly if no item carries one of these tags. -/
theorem count_eq_zero (course : Json) (tags : List String) :
    (ofCourse course).count tags = 0
      ↔ ∀ tag ∈ tags, ∀ v ∈ (sectionItems course).flatten, ¬ Carries v tag := by
  rw [count_ofCourse]
  -- A sum of numbers that are not negative is zero exactly if all of them are.
  have hnonneg : ∀ tags : List String, 0 ≤ total (tags.map fun tag =>
      ((sectionItems course).flatten.countP fun v => Carries v tag : Int)) := by
    intro tags
    induction tags with
    | nil => exact Int.le_refl 0
    | cons tag tags ih =>
        show 0 ≤ ((sectionItems course).flatten.countP fun v => Carries v tag : Int) + total _
        omega
  induction tags with
  | nil => simp [total]
  | cons tag tags ih =>
      have hrest := hnonneg tags
      rw [List.forall_mem_cons]
      show ((sectionItems course).flatten.countP fun v => Carries v tag : Int) + total _ = 0 ↔ _
      have hnone : (sectionItems course).flatten.countP (fun v => Carries v tag) = 0
          ↔ ∀ v ∈ (sectionItems course).flatten, ¬ Carries v tag := by
        rw [List.countP_eq_zero]
        simp only [decide_eq_true_eq]
      constructor
      · intro hsum
        exact ⟨hnone.mp (by omega), ih.mp (by omega)⟩
      · rintro ⟨hfirst, hothers⟩
        rw [hnone.mpr hfirst, ih.mpr hothers]
        rfl

end Statistics

/-- When a hint is given that a course should have items of a tag. -/
structure HintGoesBySpelling (course : Json) (hint : String) (tag : Tag) : Prop where
  /-- It is given exactly if no item has a name of the tag just as it stands. -/
  given : hint ∈ (Statistics.ofCourse course).recommendations
    ↔ ∀ v ∈ (sectionItems course).flatten, ¬ IsSpelled tag v
  /-- That is the same as having no item of the tag, unless all such items have blanks in it. -/
  right : (hint ∈ (Statistics.ofCourse course).recommendations
      ↔ ∀ v ∈ (sectionItems course).flatten, ¬ IsOf tag v)
    ↔ ((∃ v ∈ (sectionItems course).flatten, IsOf tag v) →
        ∃ v ∈ (sectionItems course).flatten, IsSpelled tag v)

section Hints

variable {course : Json} {hint : String} {tag : Tag}

/-- All that matters of a hint is which tags are counted for it. -/
theorem HintGoesBySpelling.of_count {tags : List String} (hplain : ∀ s ∈ tag.spellings,
      Text.strip s = s ∧ s ∉ standIns) (htags : ∀ s, s ∈ tags ↔ s ∈ tag.spellings)
    (hcount : hint ∈ (Statistics.ofCourse course).recommendations
      ↔ (Statistics.ofCourse course).count tags = 0) : HintGoesBySpelling course hint tag := by
  have hgiven : hint ∈ (Statistics.ofCourse course).recommendations
      ↔ ∀ v ∈ (sectionItems course).flatten, ¬ IsSpelled tag v := by
    rw [hcount, Statistics.count_eq_zero]
    constructor
    · rintro h v hv ⟨s, hs, htype⟩
      exact h s ((htags s).mpr hs) v hv ((carries_iff_member (hplain s hs).2 v).mpr htype)
    · intro h s hs v hv hcarries
      have hspelling := (htags s).mp hs
      exact h v hv ⟨s, hspelling, (carries_iff_member (hplain s hspelling).2 v).mp hcarries⟩
  have hof : ∀ v, IsSpelled tag v → IsOf tag v := by
    rintro v ⟨s, hs, htype⟩
    exact (isOf_iff tag v).mpr ⟨s, htype, by rw [(hplain s hs).1]; exact hs⟩
  refine ⟨hgiven, ?_⟩
  rw [hgiven]
  constructor
  · rintro hagree ⟨v, hv, hvof⟩
    by_contra hnone
    exact hagree.mp (fun w hw hspelled => hnone ⟨w, hw, hspelled⟩) v hv hvof
  · intro himplies
    constructor
    · intro hnone v hv hvof
      obtain ⟨w, hw, hspelled⟩ := himplies ⟨v, hv, hvof⟩
      exact hnone w hw hspelled
    · exact fun hnone v hv hspelled => hnone v hv (hof v hspelled)

/-- **HINTS GO BY THE SPELLING.**

That a course should have quizzes is said exactly if no item of a section has a name of the tag for its
type just as it stands, and likewise for exercises.  An item with blanks around the name is built as a
quiz all the same, so this is right unless all quizzes of a course are such items. -/
theorem hints_go_by_spelling (course : Json) :
    HintGoesBySpelling course quizHint .quiz ∧ HintGoesBySpelling course exerciseHint .exercise := by
  constructor
  · exact .of_count (by decide) (fun s => Iff.rfl) (Statistics.quizHint_mem _)
  · refine .of_count (by decide) (fun s => ?_) (Statistics.exerciseHint_mem _)
    show s ∈ ["exercice", "exercise"] ↔ s ∈ ["exercise", "exercice"]
    simp only [List.mem_cons, List.not_mem_nil, or_false]
    exact or_comm

end Hints

/-- A course has a quiz, with a blank on either side of its tag, and is told to add one. -/
theorem padded_quiz_uncounted :
    let quiz : Json := .obj [("type", .str " quiz "), ("question", .str "Q"),
      ("options", .arr [.str "a", .str "b"])]
    let course : Json := .obj [("title", .str "T"), ("sections", .arr [.obj [("title", .str "S"),
      ("content", .arr [quiz])]])]
    quiz ∈ (sectionItems course).flatten ∧ IsOf .quiz quiz
      ∧ quizHint ∈ (Statistics.ofCourse course).recommendations := by
  decide +kernel

end Syllabus
