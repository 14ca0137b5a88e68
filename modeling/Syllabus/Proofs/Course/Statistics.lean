/-
  Syllabus.Proofs.Course.Statistics
  ─────────────────────────────────
  **COUNTS LOSE NO ITEM.**

  The counts of a course are made of the course as it was written, and its
  sections are read apart from that.  Both find the same sections with the
  same items.  Every item is counted once in its section and once under its
  tag, so that the three totals agree:

      Carries                what tag an item carries, as it is written
      tally                  how often each of some tags occurs
      mem_tally              an entry of it, and
      total_tally            the sum of all its entries
      statistics_conserved   the counts of a course and the course that is read
-/
import Syllabus.Course.Statistics
import Syllabus.Proofs.Course.Reading

namespace Syllabus

/-! ## §1. The tag of an item. -/

/-- What tag an item carries, as it is written. -/
inductive Carries : Json → String → Prop where
  /-- A bare string is a paragraph. -/
  | bare (s : String) : Carries (.str s) "paragraph"
  /-- An object carries the text under its type. -/
  | tagged {ms : List (String × Json)} {t : String}
      (h : Json.lookup "type" ms = some (.str t)) : Carries (.obj ms) t
  /-- Without such a text its tag is unknown. -/
  | untagged {ms : List (String × Json)}
      (h : ∀ t, Json.lookup "type" ms ≠ some (.str t)) : Carries (.obj ms) "unknown"
  /-- So is that of any other value. -/
  | other {v : Json} (hobject : v.isObject = false) (htext : v.str? = none) : Carries v "unknown"

section Object

variable {ms : List (String × Json)}

theorem rawTag_tagged {t : String} (h : Json.lookup "type" ms = some (.str t)) :
    rawTag (.obj ms) = t := by
  show ((Json.lookup "type" ms).bind Json.str?).getD "unknown" = t
  rw [h]
  rfl

theorem rawTag_untagged (h : ∀ t, Json.lookup "type" ms ≠ some (.str t)) :
    rawTag (.obj ms) = "unknown" := by
  show ((Json.lookup "type" ms).bind Json.str?).getD "unknown" = "unknown"
  cases htype : Json.lookup "type" ms with
  | none => rfl
  | some w =>
      cases w with
      | str t => exact absurd htype (h t)
      | _ => rfl

end Object

theorem carries_rawTag (v : Json) : Carries v (rawTag v) := by
  cases v with
  | str s => exact .bare s
  | obj ms =>
      by_cases h : ∃ t, Json.lookup "type" ms = some (.str t)
      · obtain ⟨t, ht⟩ := h
        rw [rawTag_tagged ht]
        exact .tagged ht
      · have huntagged : ∀ t, Json.lookup "type" ms ≠ some (.str t) := fun t ht => h ⟨t, ht⟩
        rw [rawTag_untagged huntagged]
        exact .untagged huntagged
  | _ => exact .other rfl rfl

/-- Every item carries one tag, and it is counted under that. -/
theorem carries_iff (v : Json) (tag : String) : Carries v tag ↔ rawTag v = tag := by
  constructor
  · intro h
    cases h with
    | bare s => rfl
    | tagged h => exact rawTag_tagged h
    | untagged h => exact rawTag_untagged h
    | other hobject htext =>
        cases v with
        | str s => cases htext
        | obj ms => cases hobject
        | _ => rfl
  · rintro rfl
    exact carries_rawTag v

instance (v : Json) (tag : String) : Decidable (Carries v tag) :=
  decidable_of_iff _ (carries_iff v tag).symm

/-! ## §2. Counting tags. -/

/-- The sum of whole numbers. -/
def total (ns : List Int) : Int := ns.foldr (· + ·) 0

/-- How often each of some tags occurs, in the order in which they first occur. -/
def tally (tags : List String) : List (String × Int) :=
  tags.foldl (fun counts tag => countTag tag counts) []

section Tally

/-- One tag more is one more of this tag, and of no other. -/
theorem lookup_countTag (tag other : String) (counts : List (String × Int)) :
    ((countTag tag counts).lookup other).getD 0
      = (counts.lookup other).getD 0 + if tag = other then 1 else 0 := by
  have hcons : ∀ (t : String) (n : Int) (rest : List (String × Int)),
      (((t, n) :: rest).lookup other).getD 0
        = if t = other then n else (rest.lookup other).getD 0 := by
    intro t n rest
    by_cases h : t = other
    · subst h
      simp
    · rw [List.lookup_cons, beq_false_of_ne (Ne.symm h), if_neg h]
  induction counts with
  | nil =>
      rw [countTag, hcons]
      simp
  | cons entry counts ih =>
      obtain ⟨t, n⟩ := entry
      unfold countTag
      by_cases ht : t = tag
      · rw [if_pos ht, hcons, hcons, ht]
        by_cases h : tag = other <;> simp [h]
      · rw [if_neg ht, hcons, hcons, ih]
        by_cases h : t = other
        · -- The entry is of the other tag, so what is counted is not.
          simp [h, Ne.symm (h ▸ ht)]
        · simp [h]

theorem total_countTag (tag : String) (counts : List (String × Int)) :
    total ((countTag tag counts).map Prod.snd) = total (counts.map Prod.snd) + 1 := by
  induction counts with
  | nil => rfl
  | cons entry counts ih =>
      obtain ⟨t, n⟩ := entry
      unfold countTag
      by_cases ht : t = tag
      · rw [if_pos ht]
        show n + 1 + total (counts.map Prod.snd) = n + total (counts.map Prod.snd) + 1
        omega
      · rw [if_neg ht]
        show n + total ((countTag tag counts).map Prod.snd) = n + total (counts.map Prod.snd) + 1
        omega

theorem map_fst_countTag (tag : String) (counts : List (String × Int)) :
    (countTag tag counts).map Prod.fst
      = if tag ∈ counts.map Prod.fst then counts.map Prod.fst else counts.map Prod.fst ++ [tag] := by
  induction counts with
  | nil => rfl
  | cons entry counts ih =>
      obtain ⟨t, n⟩ := entry
      unfold countTag
      by_cases ht : t = tag
      · simp [ht]
      · rw [if_neg ht, List.map_cons, ih]
        by_cases hmem : tag ∈ counts.map Prod.fst
        · simp only [hmem, if_true, List.map_cons, List.mem_cons, or_true]
        · simp [hmem, Ne.symm ht]

theorem mem_names_countTag (tag other : String) (counts : List (String × Int)) :
    other ∈ (countTag tag counts).map Prod.fst ↔ other ∈ counts.map Prod.fst ∨ other = tag := by
  rw [map_fst_countTag]
  by_cases hmem : tag ∈ counts.map Prod.fst
  · rw [if_pos hmem]
    exact ⟨.inl, fun h => h.elim id fun heq => heq ▸ hmem⟩
  · rw [if_neg hmem, List.mem_append, List.mem_singleton]

theorem nodup_countTag {counts : List (String × Int)} (h : (counts.map Prod.fst).Nodup)
    (tag : String) : ((countTag tag counts).map Prod.fst).Nodup := by
  rw [map_fst_countTag]
  by_cases hmem : tag ∈ counts.map Prod.fst
  · rw [if_pos hmem]
    exact h
  · rw [if_neg hmem, List.nodup_append]
    refine ⟨h, by simp, ?_⟩
    rintro other hother _ hlast rfl
    exact hmem (List.mem_singleton.mp hlast ▸ hother)

/-- A number that every tag of a kind raises by one counts the tags of this kind. -/
theorem foldl_countTag {f : List (String × Int) → Int} {p : String → Bool}
    (h : ∀ tag counts, f (countTag tag counts) = f counts + if p tag then 1 else 0)
    (tags : List String) : ∀ counts,
      f (tags.foldl (fun counts tag => countTag tag counts) counts) = f counts + tags.countP p := by
  induction tags with
  | nil => intro counts; simp
  | cons tag tags ih =>
      intro counts
      rw [List.foldl_cons, ih, h, List.countP_cons]
      by_cases hp : p tag = true
      · simp only [hp, if_true]
        omega
      · simp only [hp, Bool.false_eq_true, if_false]
        omega

theorem lookup_tally (tags : List String) (tag : String) :
    ((tally tags).lookup tag).getD 0 = tags.count tag := by
  have hstep : ∀ other counts, ((countTag other counts).lookup tag).getD 0
      = (counts.lookup tag).getD 0 + if (other == tag) = true then 1 else 0 := by
    intro other counts
    rw [lookup_countTag]
    simp
  have hfold := foldl_countTag (f := fun counts => (counts.lookup tag).getD 0) hstep tags []
  simpa [tally, List.count] using hfold

/-- All entries together make up all tags. -/
theorem total_tally (tags : List String) : total ((tally tags).map Prod.snd) = tags.length := by
  have hstep : ∀ tag counts, total ((countTag tag counts).map Prod.snd)
      = total (counts.map Prod.snd) + if (true : Bool) then 1 else 0 := total_countTag
  have hfold := foldl_countTag (f := fun counts => total (counts.map Prod.snd)) hstep tags []
  simpa [tally, total] using hfold

/-- No tag has two entries. -/
theorem nodup_tally (tags : List String) : ((tally tags).map Prod.fst).Nodup := by
  have hfold : ∀ (tags : List String) (counts : List (String × Int)), (counts.map Prod.fst).Nodup →
      ((tags.foldl (fun counts tag => countTag tag counts) counts).map Prod.fst).Nodup := by
    intro tags
    induction tags with
    | nil => intro counts h; exact h
    | cons tag tags ih => intro counts h; exact ih _ (nodup_countTag h tag)
  exact hfold tags [] List.nodup_nil

/-- And every tag has one. -/
theorem mem_names_tally (tags : List String) (tag : String) :
    tag ∈ (tally tags).map Prod.fst ↔ tag ∈ tags := by
  have hfold : ∀ (tags : List String) (counts : List (String × Int)),
      tag ∈ (tags.foldl (fun counts tag => countTag tag counts) counts).map Prod.fst
        ↔ tag ∈ counts.map Prod.fst ∨ tag ∈ tags := by
    intro tags
    induction tags with
    | nil => intro counts; simp
    | cons first tags ih =>
        intro counts
        rw [List.foldl_cons, ih, mem_names_countTag, List.mem_cons, or_assoc]
  exact (hfold tags []).trans (by simp)

theorem lookup_of_mem {tag : String} {n : Int} {counts : List (String × Int)}
    (hnodup : (counts.map Prod.fst).Nodup) (h : (tag, n) ∈ counts) : counts.lookup tag = some n := by
  induction counts with
  | nil => cases h
  | cons entry counts ih =>
      obtain ⟨t, m⟩ := entry
      rw [List.map_cons, List.nodup_cons] at hnodup
      rcases List.mem_cons.mp h with heq | hrest
      · cases heq
        simp
      · have hne : tag ≠ t := by
          rintro rfl
          exact hnodup.1 (List.mem_map.mpr ⟨(tag, n), hrest, rfl⟩)
        rw [List.lookup_cons, beq_false_of_ne hne]
        exact ih hnodup.2 hrest

/-- The entries of a tally are the tags that occur, with how often they do. -/
theorem mem_tally (tags : List String) (tag : String) (n : Int) :
    (tag, n) ∈ tally tags ↔ 0 < n ∧ n = tags.count tag := by
  -- Whatever number stands in an entry of a tag, it is the one that is counted.
  have hentry : ∀ m, (tag, m) ∈ tally tags → m = tags.count tag := by
    intro m hm
    rw [← lookup_tally, lookup_of_mem (nodup_tally tags) hm]
    rfl
  constructor
  · intro h
    have hmem : tag ∈ tags := (mem_names_tally tags tag).mp (List.mem_map_of_mem h)
    have hcount : 0 < tags.count tag := List.count_pos_iff.mpr hmem
    have hn := hentry n h
    exact ⟨by omega, hn⟩
  · rintro ⟨hpos, hn⟩
    have hmem : tag ∈ tags := List.count_pos_iff.mp (by omega)
    obtain ⟨⟨t, m⟩, hm, rfl⟩ := List.mem_map.mp ((mem_names_tally tags tag).mpr hmem)
    rw [hn, ← hentry m hm]
    exact hm

end Tally

/-! ## §3. Counting a course. -/

section Course

variable {course : Json} {c : Course}

/-- The counts go over the items of the sections that are read. -/
theorem sectionItems_of_ofJson (h : Course.ofJson course = .ok c) :
    sectionItems course = c.sections.map (·.content) := by
  obtain ⟨t, -, rfl⟩ := Course.ofJson_eq_ok h
  show sectionItems course = ((course.member "sections").items.map Section.ofJson).map _
  rw [List.map_map]
  rfl

theorem total_lengths (parts : List (List Json)) :
    total (parts.map fun items => (items.length : Int)) = parts.flatten.length := by
  induction parts with
  | nil => rfl
  | cons items parts ih =>
      show (items.length : Int) + total (parts.map fun items => (items.length : Int)) = _
      rw [ih, List.flatten_cons, List.length_append]
      omega

theorem count_rawTag (items : List Json) (tag : String) :
    (items.map rawTag).count tag = items.countP fun v => Carries v tag := by
  rw [List.count, List.countP_map]
  refine List.countP_congr fun v _ => ?_
  simp [carries_iff]

/-- **COUNTS LOSE NO ITEM, AND THEY ARE OF THE COURSE THAT IS READ.**

There are as many sections as the course has, in their order and with as many items each as the section
that is read.  The sum over the sections and the sum over the tags are both the number of all items.  A
tag has an entry exactly if some item carries it, one entry, and that is how many items do. -/
theorem statistics_conserved (h : Course.ofJson course = .ok c) :
    let s := Statistics.ofCourse course
    s.totalBlocks = total s.blocksPerSection
      ∧ s.totalBlocks = total (s.blockTypes.map Prod.snd)
      ∧ s.totalSections = s.blocksPerSection.length
      ∧ s.totalSections = c.sections.length
      ∧ s.blocksPerSection = c.sections.map (fun part => (part.content.length : Int))
      ∧ (s.blockTypes.map Prod.fst).Nodup
      ∧ ∀ tag n, (tag, n) ∈ s.blockTypes
          ↔ 0 < n ∧ n = (c.sections.flatMap (·.content)).countP fun v => Carries v tag := by
  intro s
  have hitems := sectionItems_of_ofJson h
  have hsections : s.blocksPerSection = c.sections.map fun part => (part.content.length : Int) := by
    show (sectionItems course).map (fun items => (items.length : Int)) = _
    rw [hitems, List.map_map]
    rfl
  have htypes : s.blockTypes = tally ((c.sections.flatMap (·.content)).map rawTag) := by
    show tally ((sectionItems course).flatten.map rawTag) = _
    rw [hitems, List.flatMap_def]
  have hcount : s.totalSections = s.blocksPerSection.length := rfl
  refine ⟨rfl, ?_, hcount, ?_, hsections, ?_, ?_⟩
  · rw [htypes, total_tally, List.length_map, List.flatMap_def, ← hitems]
    exact total_lengths (sectionItems course)
  · rw [hcount, hsections, List.length_map]
  · rw [htypes]
    exact nodup_tally _
  · intro tag n
    rw [htypes, mem_tally, count_rawTag]

/-- Items of all kinds in two sections, one of which has no list of items. -/
theorem statistics_conserved_mixed :
    let course : Json := .obj [("sections", .arr [
      .obj [("title", .str "One"), ("content", .arr [.str "Text.", .obj [("type", .str "quiz")],
        .obj [("type", .str " quiz ")], .obj [("type", .int 3)], .null])],
      .obj [("title", .str "Two"), ("content", .str "none")]])]
    let c : Course := { sections := [
      { title := "One", content := [.str "Text.", .obj [("type", .str "quiz")],
        .obj [("type", .str " quiz ")], .obj [("type", .int 3)], .null] },
      { title := "Two" }] }
    Course.ofJson course = .ok c
      ∧ (Statistics.ofCourse course).blocksPerSection = [5, 0]
      ∧ ("unknown", 2) ∈ (Statistics.ofCourse course).blockTypes := by
  intro course c
  have hread : Course.ofJson course = .ok c := by rfl
  obtain ⟨-, -, -, -, hsections, -, htypes⟩ := statistics_conserved hread
  exact ⟨hread, hsections, (htypes "unknown" 2).mpr (by decide)⟩

end Course

end Syllabus
