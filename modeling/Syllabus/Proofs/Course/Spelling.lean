/-
  Syllabus.Proofs.Course.Spelling
  ───────────────────────────────
  **A TAG COUNTS, NOT HOW IT IS SPELLED.**

  A tag has a name and perhaps synonyms, and may be written with blanks around
  it.  An item is read under its tag; its spelling is no field of any item.  So
  authors may respell the tags of as many items as they like: the course is
  built and reviewed as before.  Only remarks on style go by the spelling.

      SameTag                two spellings of one tag
      ofMembers_respelled    an item is read as before
      Respelling             another spelling for an item of a course
      respell_preserves      what one respelling preserves, all of them preserve
-/
import Syllabus.Proofs.Course.Surroundings

namespace Syllabus

/-! ## §1. Members that are no field. -/

section Reading

variable {σ : Type} {fields own : List (Field σ)} {name : String}

/-- Members that no field is read from make no difference. -/
theorem readMembers_filter (h : ∀ field ∈ fields, field.name ≠ name) (ms : List (String × Json)) :
    ∀ r, readMembers fields (ms.filter fun m => m.1 ≠ name) r = readMembers fields ms r := by
  induction ms with
  | nil => intro r; rfl
  | cons m ms ih =>
      intro r
      obtain ⟨key, v⟩ := m
      by_cases hkey : key = name
      · have hnone : fields.find? (·.name = key) = none := by
          rw [List.find?_eq_none]
          intro field hfield
          rw [hkey, decide_eq_true_eq]
          exact h field hfield
        have hput : putMember fields key v r = .ok r := by
          unfold putMember
          rw [hnone]
        rw [List.filter_cons_of_neg (by simpa using hkey), ih, readMembers, hput]
        rfl
      · rw [List.filter_cons_of_pos (by simpa using hkey), readMembers, readMembers]
        exact congrArg (putMember fields key v r >>= ·) (funext ih)

theorem readContent_filter (h : ∀ field ∈ own, field.name ≠ "type") (defaults : σ)
    (build : σ → Content) (ms : List (String × Json)) :
    readContent own defaults build (ms.filter fun m => m.1 ≠ "type")
      = readContent own defaults build ms := by
  have hcolored : ∀ field ∈ Colored.fields own, field.name ≠ "type" := by
    intro field hfield
    rcases List.mem_cons.mp hfield with rfl | hmem
    · exact show "color" ≠ "type" by decide
    · obtain ⟨f, hf, rfl⟩ := List.mem_map.mp hmem
      exact h f hf
  unfold readContent
  rw [readMembers_filter hcolored]

end Reading

/-- No content has a field for its tag. -/
theorem Content.ofMembers_filter (ms : List (String × Json)) (tag : Tag) :
    Content.ofMembers (ms.filter fun m => m.1 ≠ "type") tag = Content.ofMembers ms tag := by
  cases tag with
  | layout kind =>
      exact readContent_filter (fun _ hfield => absurd hfield List.not_mem_nil) ()
        (fun _ => .layout kind) ms
  | _ => exact readContent_filter (by decide) _ _ ms

theorem readableMembers_filter (name : String) (ms : List (String × Json)) :
    readableMembers (ms.filter fun m => m.1 ≠ name)
      = (readableMembers ms).filter fun m => m.1 ≠ name := by
  unfold readableMembers Json.withoutNulls
  rw [List.filter_map, List.filter_filter, List.filter_filter]
  simp only [Function.comp_def, Bool.and_comm]

/-! ## §2. One item. -/

/-- Two spellings of one tag. -/
def SameTag (s t : String) : Prop :=
  ∃ tag, Tag.resolve? s = some tag ∧ Tag.resolve? t = some tag

/-- The members of an item with another spelling of its tag. -/
def spelled (t : String) (ms : List (String × Json)) : List (String × Json) :=
  Json.modifyMember "type" (fun _ => .str t) ms

section Item

variable {ms : List (String × Json)} {s t : String}

theorem tagOf?_spelled (hs : Json.lookup "type" ms = some (.str s)) (h : SameTag s t) :
    tagOf? (spelled t ms) = tagOf? ms := by
  obtain ⟨tag, hold, hnew⟩ := h
  unfold tagOf? spelled
  rw [Json.lookup_modifyMember, hs]
  exact hnew.trans hold.symm

/-- An item is read as before. -/
theorem Item.ofMembers_spelled (hs : Json.lookup "type" ms = some (.str s)) (h : SameTag s t) :
    Item.ofMembers (spelled t ms) = Item.ofMembers ms := by
  have hcontent : ∀ tag, Content.ofMembers (readableMembers (spelled t ms)) tag
      = Content.ofMembers (readableMembers ms) tag := by
    intro tag
    rw [← Content.ofMembers_filter, ← readableMembers_filter, spelled, Json.filter_modifyMember,
      readableMembers_filter, Content.ofMembers_filter]
  have htag := tagOf?_spelled hs h
  obtain ⟨tag, hold, hnew⟩ := h
  have htagged : tagOf? ms = some tag := by
    unfold tagOf?
    rw [hs]
    exact hold
  unfold tagOf? at htag htagged
  unfold Item.ofMembers
  dsimp only
  rw [htag, htagged]
  dsimp only
  rw [hcontent]

theorem lookup_spelled {key : String} (hkey : key ≠ "type") :
    Json.lookup key (spelled t ms) = Json.lookup key ms := Json.lookup_modifyMember_of_ne hkey ms

/-- It is built as before. -/
theorem buildItem_spelled (hs : Json.lookup "type" ms = some (.str s)) (h : SameTag s t)
    (options : BuildOptions) : buildItem options (.obj (spelled t ms)) = buildItem options (.obj ms) := by
  have hnested : Nested.of options (spelled t ms) = Nested.of options ms := by
    unfold Nested.of spelled
    rw [nestedItems_modifyMember (by decide), sideItems_modifyMember (by decide),
      sideItems_modifyMember (by decide)]
  rw [buildItem_obj, buildItem_obj, hnested, Item.ofMembers_spelled hs h]

/-- And it is reviewed as before. -/
theorem Review.item_spelled (hs : Json.lookup "type" ms = some (.str s)) (h : SameTag s t)
    (label : String) : Review.item label (.obj (spelled t ms)) = Review.item label (.obj ms) := by
  have hown : Review.checkMembers label (spelled t ms) = Review.checkMembers label ms := by
    refine checkMembers_congr (tagOf?_spelled hs h) ?_ (by rw [Item.ofMembers_spelled hs h]) label
    intro key hkey
    refine lookup_spelled ?_
    revert key
    decide
  unfold spelled at hown ⊢
  rw [item_obj, item_obj, hown, nestedItems_modifyMember (by decide),
    sideItems_modifyMember (by decide), sideItems_modifyMember (by decide)]

end Item

/-! ## §3. The items of a course. -/

/-- Another spelling for the tag of an item of a course. -/
structure Respelling where
  /-- The index of the section that the item is in. -/
  sectionIndex : Nat
  /-- The index of the item among those of the section. -/
  itemIndex : Nat
  /-- The path from there, if the item is nested. -/
  within : Path := []
  /-- The new spelling. -/
  spelling : String

namespace Respelling

/-- The path to the item. -/
def place (r : Respelling) : Path := .ofItem r.sectionIndex r.itemIndex r.within

/-- There is such an item, and the spelling is one of its tag. -/
def Fits (course : Json) (r : Respelling) : Prop :=
  r.within.Nesting ∧ ∃ s, course.at? (r.place ++ [.key "type"]) = some (.str s) ∧ SameTag s r.spelling

/-- The course with the new spelling in it. -/
def apply (course : Json) (r : Respelling) : Json :=
  course.put (r.place ++ [.key "type"]) (.str r.spelling)

end Respelling

/-- A course with new spellings in it. -/
def respell (course : Json) (rs : List Respelling) : Json := rs.foldl Respelling.apply course

section Course

variable {course : Json} {r other : Respelling}

/-- A fitting respelling replaces one item by another. -/
theorem Respelling.Fits.item (h : r.Fits course) :
    ∃ ms s, course.at? r.place = some (.obj ms) ∧ Json.lookup "type" ms = some (.str s)
      ∧ SameTag s r.spelling
      ∧ r.apply course = course.put r.place (.obj (spelled r.spelling ms)) := by
  obtain ⟨_, s, hs, hsame⟩ := h
  obtain ⟨v, hv, htype⟩ := Json.at?_append_iff.mp hs
  obtain ⟨ms, w, rfl, hw, hrest⟩ := Json.at?_key htype
  cases hrest
  refine ⟨ms, s, hv, hw, hsame, ?_⟩
  unfold Respelling.apply
  rw [Json.put_append hv]
  show course.put r.place (.obj (Json.modifyMember "type" (fun v => v.put [] _) ms)) = _
  simp only [Json.put_nil]
  rfl

/-- The path to an item goes through no tag. -/
theorem type_notMem_place {q : Path} (hq : q.Nesting) (i k : Nat) :
    Step.key "type" ∉ Path.ofItem i k q := by
  have hnested : Step.key "type" ∉ q := by
    induction hq with
    | here => exact List.not_mem_nil
    | child i _ ih => simpa using ih
    | sideChild hside i _ ih =>
        simp only [List.mem_cons, List.not_mem_nil, or_false] at hside
        rcases hside with rfl | rfl <;> simpa using ih
  simpa [Path.ofItem] using hnested

theorem not_prefix_of_ne {p q : Path} {step : Step} (hne : p ≠ q) (h : step ∉ q) :
    ¬ p ++ [step] <+: q ++ [step] := by
  rw [List.prefix_concat_iff]
  rintro (heq | hfront)
  · exact hne (List.append_cancel_right heq)
  · exact h (hfront.subset (List.mem_append_right p List.mem_cons_self))

/-- Respellings that fit still do after one of them, even two of the same item. -/
theorem Respelling.Fits.apply (hr : r.Fits course) (h : other.Fits course) :
    other.Fits (r.apply course) := by
  obtain ⟨hnesting, s, hs, hsame⟩ := hr
  obtain ⟨hnesting', s', hs', hsame'⟩ := h
  refine ⟨hnesting', ?_⟩
  by_cases hplace : r.place = other.place
  · rw [hplace] at hs
    cases Json.str.inj (Option.some.inj (hs.symm.trans hs'))
    obtain ⟨tag, hold, hnew⟩ := hsame
    obtain ⟨tag', hold', hnew'⟩ := hsame'
    cases hold.symm.trans hold'
    refine ⟨r.spelling, ?_, tag, hnew, hnew'⟩
    unfold Respelling.apply
    rw [hplace]
    exact Json.at?_put_self hs' _
  · refine ⟨s', ?_, hsame'⟩
    unfold Respelling.apply
    rw [Json.at?_put_of_apart (not_prefix_of_ne hplace (type_notMem_place hnesting' _ _))
      (not_prefix_of_ne (Ne.symm hplace) (type_notMem_place hnesting _ _))]
    exact hs'

/-- What one respelling preserves, all of them preserve. -/
theorem respell_preserves {α : Type} {f : Json → α}
    (hstep : ∀ {course : Json} {r : Respelling}, r.Fits course → f (r.apply course) = f course)
    {rs : List Respelling} (h : ∀ r ∈ rs, r.Fits course) : f (respell course rs) = f course := by
  induction rs generalizing course with
  | nil => rfl
  | cons r rs ih =>
      have hr := h r List.mem_cons_self
      have hrest : ∀ other ∈ rs, other.Fits (r.apply course) :=
        fun other hother => hr.apply (h other (List.mem_cons_of_mem r hother))
      exact (ih hrest).trans (hstep hr)

theorem buildCourse_respelled (options : BuildOptions) (h : r.Fits course) :
    buildCourse options (r.apply course) = buildCourse options course := by
  obtain ⟨ms, s, hv, hs, hsame, hput⟩ := h.item
  rw [hput]
  unfold Respelling.place at hv ⊢
  rw [buildCourse_put h.1 (buildItem_spelled hs hsame options), Json.put_self hv]

namespace Review

/-- The errors that a review finds in a course. -/
def errorsIn (course : Json) : List Diagnostic :=
  (courseParts course).notes.kept fun severity => severity = .error

theorem errorsIn_respelled (h : r.Fits course) : errorsIn (r.apply course) = errorsIn course := by
  obtain ⟨ms, s, hv, hs, hsame, hput⟩ := h.item
  -- All but the remarks on paragraphs is enclosed by the same on both sides.
  have hfound : foundIn (fun severity => severity = .error) s!"Section {r.sectionIndex + 1}"
      (.obj (spelled r.spelling ms))
        = foundIn (fun severity => severity = .error) s!"Section {r.sectionIndex + 1}" (.obj ms) := by
    unfold foundIn
    rw [item_spelled hs hsame]
  rw [hput]
  unfold Respelling.place at hv ⊢
  obtain ⟨front, back, haround⟩ := courseParts_put (P := fun _ => True)
    (fun severity => severity = .error) h.1 hv fun _ _ hwarning => by simp at hwarning
  dsimp only at haround
  have hold := haround (.obj ms) trivial
  rw [Json.put_self hv] at hold
  unfold errorsIn
  rw [haround _ trivial, hold, hfound]

theorem errors_verdict (course : Json) (j : Journal) :
    (Review.course course j).1.errors = (errorsIn course).map (·.message) := by
  rw [gives_review]
  rfl

theorem errors_recorded (course : Json) (j : Journal) :
    (Review.course course j).2.collector.errors
      = j.collector.errors ++ (errorsIn course).map (.under j.collector.stack) := by
  rw [gives_review]
  unfold Collector.errors
  rw [Journal.noted_entries, List.filter_append, List.filter_map]
  rfl

end Review

/-- **The spelling of tags makes no difference.**  Whatever items of a course are respelled, nested ones
included, building the course does the same: the same blocks and the same notes, or the same failure.
A review finds the same errors at the same places. -/
theorem spellings_make_no_difference (course : Json) (rs : List Respelling)
    (h : ∀ r ∈ rs, r.Fits course) (options : BuildOptions) :
    buildCourse options (respell course rs) = buildCourse options course
      ∧ ∀ j, (Review.course (respell course rs) j).1.errors = (Review.course course j).1.errors
        ∧ (Review.course (respell course rs) j).2.collector.errors
            = (Review.course course j).2.collector.errors := by
  have herrors : Review.errorsIn (respell course rs) = Review.errorsIn course :=
    respell_preserves Review.errorsIn_respelled h
  refine ⟨respell_preserves (buildCourse_respelled options) h, fun j => ⟨?_, ?_⟩⟩
  · rw [Review.errors_verdict, Review.errors_verdict, herrors]
  · rw [Review.errors_recorded, Review.errors_recorded, herrors]

/-- A quiz, a comparison and an exercise in it, all respelled at once; the quiz is refused as before. -/
theorem spellings_in_a_comparison :
    let side : Json := .obj [("title", .str "Old"),
      ("children", .arr [.obj [("type", .str "exercise"), ("title", .str "Try")]])]
    let course : Json := .obj [("title", .str "T"), ("sections", .arr [.obj [("title", .str "S"),
      ("content", .arr [.obj [("type", .str "quiz"), ("options", .arr [.str "yes"])],
        .obj [("type", .str "columns"), ("left", side), ("right", side)]])]])]
    let rs : List Respelling := [⟨0, 0, [], " quickQuiz\n"⟩, ⟨0, 1, [], "comparison"⟩,
      ⟨0, 1, [.key "right", .key "children", .index 0], "exercice "⟩]
    (∀ r ∈ rs, r.Fits course)
      ∧ buildCourse {} (respell course rs) = buildCourse {} course
      ∧ (Review.course (respell course rs) {}).1.errors
          = ["Section 1: quiz needs at least 2 options (got 1)"] := by
  intro side course rs
  have hfits : ∀ r ∈ rs, r.Fits course := by
    intro r hr
    simp only [rs, List.mem_cons, List.not_mem_nil, or_false] at hr
    rcases hr with rfl | rfl | rfl
    · exact ⟨.here, "quiz", rfl, .quiz, rfl, rfl⟩
    · exact ⟨.here, "columns", rfl, .comparison, rfl, rfl⟩
    · exact ⟨.sideChild (by decide) 0 .here, "exercise", rfl, .exercise, rfl, rfl⟩
  obtain ⟨hbuilt, hreviewed⟩ := spellings_make_no_difference course rs hfits {}
  exact ⟨hfits, hbuilt, (hreviewed {}).1.trans (by rfl)⟩

end Course

end Syllabus
