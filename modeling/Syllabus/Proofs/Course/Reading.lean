/-
  Syllabus.Proofs.Course.Reading
  ──────────────────────────────
  **WHEN A COURSE CANNOT BE READ.**

  A course is read leniently: what is missing or mistyped reads as empty.  The
  estimated time is the one exception.  Whether a text is taken for a number
  depends on its being made of digits, but a number is made of decimal digits
  only, and of not too many:

      Lenient.Misread        a text that is taken for a number and is none
      Course.ofJson_eq       nothing but the estimated time counts
      Lenient.minutes?_read  what is not misread is no number, or a positive one
      reading_breaks_on      courses with a misread estimated time break reading,
                             building and rehearsing; no other course does

  A superscript zero is such a text.
-/
import Syllabus.Proofs.Conversion.Digits
import Syllabus.Proofs.Course.Frame

namespace Syllabus

/-! ## §1. Minutes. -/

namespace Lenient

/-- A text that is made of digits and yet no number: one of them is no decimal digit, or they are too
many. -/
def Misread (v : Json) : Prop :=
  ∃ s, v = .str s ∧ Text.isAllDigits (Text.strip s) = true
    ∧ (¬ Text.IsDecimal (Text.strip s) ∨ Text.maxDigits < (Text.strip s).length)

theorem minutes?_str (s : String) :
    minutes? (.str s) = if Text.isAllDigits (Text.strip s) = true
      then (Text.readInt (Text.strip s)).map nonZero? else .ok none := rfl

theorem minutes?_misread {v : Json} (h : Misread v) : ∃ e, minutes? v = .error e := by
  obtain ⟨s, rfl, hdigits, hnumber⟩ := h
  have hread : ∃ e, Text.readInt (Text.strip s) = .error e := by
    by_cases hdecimal : Text.IsDecimal (Text.strip s)
    · have hlong := hnumber.resolve_left (not_not_intro hdecimal)
      rw [Text.readInt_decimal hdigits hdecimal, if_pos hlong]
      exact ⟨_, rfl⟩
    · exact Text.readInt_foreign hdigits hdecimal
  obtain ⟨e, he⟩ := hread
  refine ⟨e, ?_⟩
  rw [minutes?_str, if_pos hdigits, he]
  rfl

theorem nonZero?_positive {n m : Int} (hn : 0 ≤ n) (h : nonZero? n = some m) : 0 < m := by
  unfold nonZero? at h
  split at h
  · exact absurd h (by simp)
  · rw [← Option.some.inj h]
    omega

/-- A positive number with its fraction cut off is not negative. -/
theorem truncate?_nonneg {x : Binary64} {n : Int} (hx : x.isPositive = true)
    (h : x.truncate? = some n) : 0 ≤ n := by
  cases x with
  | nan => exact absurd hx (by decide)
  | infinite negative => exact absurd h (by simp [Binary64.truncate?])
  | finite negative m exponent =>
      have hsign : negative = false := by
        cases negative with
        | false => rfl
        | true => exact absurd hx (by simp [Binary64.isPositive])
      unfold Binary64.truncate? at h
      rw [hsign] at h
      rw [← Option.some.inj h]
      exact Int.natCast_nonneg _

/-- Anything else reads as nothing or as a positive number. -/
theorem minutes?_read {v : Json} (h : ¬ Misread v) :
    ∃ t, minutes? v = .ok t ∧ ∀ n, t = some n → 0 < n := by
  have hnothing : ∀ {r : Except Text.NumeralError (Option Int)}, r = .ok none →
      ∃ t, r = .ok t ∧ ∀ n, t = some n → 0 < n := by
    rintro _ rfl
    exact ⟨none, rfl, fun n hn => absurd hn (by simp)⟩
  cases v with
  | str s =>
      by_cases hdigits : Text.isAllDigits (Text.strip s) = true
      · have hdecimal : Text.IsDecimal (Text.strip s) := by
          apply Classical.byContradiction
          intro hforeign
          exact h ⟨s, rfl, hdigits, .inl hforeign⟩
        have hshort : ¬ Text.maxDigits < (Text.strip s).length := by
          intro hlong
          exact h ⟨s, rfl, hdigits, .inr hlong⟩
        -- A sign would be no digit, so that what is read is not negative.
        have hread := Text.readInt_decimal hdigits hdecimal
        rw [if_neg hshort] at hread
        rw [minutes?_str, if_pos hdigits, hread]
        exact ⟨_, rfl, fun n hn => nonZero?_positive (Int.natCast_nonneg _) hn⟩
      · apply hnothing
        rw [minutes?_str, if_neg hdigits]
  | int n =>
      refine ⟨_, rfl, ?_⟩
      intro m hm
      split at hm
      · rw [← Option.some.inj hm]
        assumption
      · exact absurd hm (by simp)
  | float x =>
      refine ⟨_, rfl, ?_⟩
      intro m hm
      split at hm
      · rename_i hpositive
        obtain ⟨n, hn, hm⟩ := Option.bind_eq_some_iff.mp hm
        exact nonZero?_positive (truncate?_nonneg hpositive hn) hm
      · exact absurd hm (by simp)
  | null => exact hnothing rfl
  | bool b => exact hnothing rfl
  | arr vs => exact hnothing rfl
  | obj ms => exact hnothing rfl

end Lenient

/-! ## §2. Courses. -/

/-- The course that a value describes, with an estimated time of its own. -/
def Course.timed (v : Json) (estimatedTime : Option Int) : Course :=
  { parentId := Lenient.text (v.member "parentId")
    title := Lenient.text (v.member "title")
    icon := Lenient.text? (v.member "icon")
    cover := Lenient.text? (v.member "cover")
    description := Lenient.text? (v.member "description")
    estimatedTime
    prerequisites := Lenient.texts (v.member "prerequisites")
    objectives := Lenient.texts (v.member "objectives")
    sections := (v.member "sections").items.map Section.ofJson }

/-- Reading can only break on the estimated time. -/
theorem Course.ofJson_eq (v : Json) :
    Course.ofJson v = (Lenient.minutes? (v.member "estimatedTime")).map (Course.timed v) := by
  unfold Course.ofJson
  cases Lenient.minutes? (v.member "estimatedTime") <;> rfl

theorem Course.ofJson_eq_ok {v : Json} {c : Course} (h : Course.ofJson v = .ok c) :
    ∃ t, Lenient.minutes? (v.member "estimatedTime") = .ok t ∧ c = Course.timed v t := by
  rw [Course.ofJson_eq] at h
  cases hminutes : Lenient.minutes? (v.member "estimatedTime") with
  | error e =>
      rw [hminutes] at h
      exact absurd h (by simp [Except.map])
  | ok t =>
      rw [hminutes] at h
      exact ⟨t, rfl, (Except.ok.inj h).symm⟩

theorem Course.rehearse_of_error {v : Json} {e : Text.NumeralError} (h : Course.ofJson v = .error e)
    (failing : Tag → Option String) : Course.rehearse failing v = .error e := by
  unfold Course.rehearse
  rw [h]
  rfl

theorem Course.rehearse_of_ok {v : Json} {c : Course} (h : Course.ofJson v = .ok c)
    (failing : Tag → Option String) : ∃ r, Course.rehearse failing v = .ok r := by
  unfold Course.rehearse
  rw [h]
  exact ⟨_, rfl⟩

theorem buildCourse_of_error {v : Json} {e : Text.NumeralError} (h : Course.ofJson v = .error e) :
    (buildCourse {} v).fresh.1 = .error ⟨e.message⟩ := by
  unfold buildCourse
  rw [h]
  rfl

theorem buildCourse_of_ok {v : Json} {c : Course} (h : Course.ofJson v = .ok c) :
    ∃ blocks, (buildCourse {} v).fresh.1 = .ok blocks := by
  obtain ⟨blocks, after, hrun, _⟩ := c.page_shape.runs {}
  refine ⟨blocks, ?_⟩
  unfold buildCourse Building.fresh
  rw [h]
  exact congrArg Prod.fst hrun

/-- **Reading breaks on a misread estimated time, and on nothing else.**  With such a time a course is
not read, and neither built nor rehearsed.  Every other value is read, whatever it is; its estimated
time is none or positive, its page is built, and it is rehearsed whatever builders are out of order. -/
theorem reading_breaks_on (v : Json) :
    (Lenient.Misread (v.member "estimatedTime")
      ∧ ∃ e, Course.ofJson v = .error e
        ∧ (buildCourse {} v).fresh.1 = .error ⟨e.message⟩
        ∧ ∀ failing, Course.rehearse failing v = .error e)
    ∨ (¬ Lenient.Misread (v.member "estimatedTime")
      ∧ ∃ c, Course.ofJson v = .ok c
        ∧ (∀ n, c.estimatedTime = some n → 0 < n)
        ∧ (∃ blocks, (buildCourse {} v).fresh.1 = .ok blocks)
        ∧ ∀ failing, ∃ r, Course.rehearse failing v = .ok r) := by
  by_cases hmisread : Lenient.Misread (v.member "estimatedTime")
  · obtain ⟨e, he⟩ := Lenient.minutes?_misread hmisread
    have hread : Course.ofJson v = .error e := by
      rw [Course.ofJson_eq, he]
      rfl
    exact .inl ⟨hmisread, e, hread, buildCourse_of_error hread, Course.rehearse_of_error hread⟩
  · obtain ⟨t, ht, hpositive⟩ := Lenient.minutes?_read hmisread
    have hread : Course.ofJson v = .ok (Course.timed v t) := by
      rw [Course.ofJson_eq, ht]
      rfl
    exact .inr ⟨hmisread, _, hread, hpositive, buildCourse_of_ok hread, Course.rehearse_of_ok hread⟩

/-- A superscript zero is a digit and no number. -/
theorem superscript_misread :
    let v : Json := .obj [("estimatedTime", .str "⁰")]
    Course.ofJson v = .error (.malformed "⁰")
      ∧ (buildCourse {} v).fresh.1 = .error ⟨"invalid literal for int() with base 10: '⁰'"⟩
      ∧ Course.rehearse (fun _ => none) v = .error (.malformed "⁰") := by
  intro v
  have hread : Course.ofJson v = .error (.malformed "⁰") := by decide +kernel
  have hmessage : (Text.NumeralError.malformed "⁰").message
      = "invalid literal for int() with base 10: '⁰'" := by decide +kernel
  refine ⟨hread, ?_, Course.rehearse_of_error hread _⟩
  rw [buildCourse_of_error hread, hmessage]

end Syllabus
