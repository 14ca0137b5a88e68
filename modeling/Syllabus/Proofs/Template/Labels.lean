/-
  Syllabus.Proofs.Template.Labels
  ───────────────────────────────
  **A LABEL THAT AN AUTHOR PASTES IN MAKES NO DIFFERENCE.**

  A label is a word in any case, for a step a number behind blanks, and a
  colon, with blanks around the colon.  What is taken off the start of a
  title is such a label, and every such label is taken off; so a title with
  a label in front, and an icon in front of that, is the title without them.

      IsLabel                 how the labels of a kind are written
      after?_label            a label is read to its end, with the blanks behind it
      exists_label            what is read in front of a text is a label
      labels_taken_once       steps, exercises and quizzes with a label pasted in
-/
import Mathlib.Data.Bool.AllAny
import Syllabus.Proofs.Conversion.Digits
import Syllabus.Proofs.Template.Icons
import Syllabus.Template.Basic

namespace Syllabus.Label

open Text (AllBlank Trimmed strip stripStart stripEnd stripChars foldChar)

/-! ## §1. How labels are written. -/

/-- What a label is for. -/
inductive Kind where
  /-- A step, whose label has a number. -/
  | step
  /-- An exercise. -/
  | exercise
  /-- A quiz. -/
  | quiz
  deriving DecidableEq, Repr

/-- The words for what a label is for. -/
def Kind.words : Kind → List String
  | .step => ["step", "étape"]
  | .exercise => ["exercise", "exercice"]
  | .quiz => ["quiz"]

/-- The number in a label of a kind: for a step decimal digits behind blanks, else nothing. -/
inductive Kind.Counts : Kind → List Char → Prop where
  /-- The number of a step. -/
  | step {gap number : List Char} (hgap : gap ≠ []) (hblank : AllBlank gap) (hnumber : number ≠ [])
      (hdigits : ∀ c ∈ number, Text.isDecimalDigit c = true) : Counts .step (gap ++ number)
  /-- Exercises are not counted. -/
  | exercise : Counts .exercise []
  /-- Nor are quizzes. -/
  | quiz : Counts .quiz []

/-- A label of a kind: one of its words in any case, its number, and a colon with blanks around. -/
inductive IsLabel (kind : Kind) : List Char → Prop where
  /-- The parts of a label. -/
  | written {word number before behind : List Char}
      (hword : ∃ w ∈ kind.words, word.map foldChar = w.toList) (hnumber : kind.Counts number)
      (hbefore : AllBlank before) (hbehind : AllBlank behind) :
      IsLabel kind (word ++ (number ++ (before ++ ':' :: behind)))

/-- No label of a kind stands in front of a text. -/
def Unlabelled (kind : Kind) (s : String) : Prop := ∀ label, IsLabel kind label → ¬ label <+: s.toList

/-! ## §2. Words. -/

theorem afterWord?_eq_some_iff {word cs rest : List Char} :
    afterWord? word cs = some rest ↔ ∃ w, w.map foldChar = word ∧ cs = w ++ rest := by
  unfold afterWord?
  constructor
  · intro h
    split at h
    · rename_i hword
      cases h
      exact ⟨cs.take word.length, hword, (List.take_append_drop _ _).symm⟩
    · cases h
  · rintro ⟨w, rfl, rfl⟩
    rw [List.length_map, List.take_left, List.drop_left, if_pos rfl]

/-- No word of a kind is the start of another one. -/
theorem words_apart (kind : Kind) : ∀ w ∈ kind.words, ∀ v ∈ kind.words,
    w.toList <+: v.toList → w = v := by
  cases kind <;> decide

theorem afterWords?_eq_some_iff (kind : Kind) {cs rest : List Char} :
    afterWords? kind.words cs = some rest
      ↔ ∃ w ∈ kind.words, ∃ word, word.map foldChar = w.toList ∧ cs = word ++ rest := by
  unfold afterWords?
  constructor
  · intro h
    obtain ⟨w, hw, hafter⟩ := List.exists_of_findSome?_eq_some h
    exact ⟨w, hw, afterWord?_eq_some_iff.mp hafter⟩
  · rintro ⟨w, hw, word, hword, rfl⟩
    cases hfind : kind.words.findSome? fun v => afterWord? v.toList (word ++ rest) with
    | none =>
        have hnone := List.findSome?_eq_none_iff.mp hfind w hw
        rw [afterWord?_eq_some_iff.mpr ⟨word, hword, rfl⟩] at hnone
        cases hnone
    | some left =>
        -- Both words stand at the start of the text in small letters, so they are the same.
        obtain ⟨v, hv, hafter⟩ := List.exists_of_findSome?_eq_some hfind
        obtain ⟨other, hother, hsplit⟩ := afterWord?_eq_some_iff.mp hafter
        have hsmall : v.toList <+: (word ++ rest).map foldChar := by
          rw [hsplit, List.map_append, hother]
          exact List.prefix_append _ _
        have hsmall' : w.toList <+: (word ++ rest).map foldChar := by
          rw [List.map_append, hword]
          exact List.prefix_append _ _
        have hsame : v = w := by
          rcases List.prefix_or_prefix_of_prefix hsmall hsmall' with h | h
          · exact words_apart kind v hv w hw h
          · exact (words_apart kind w hw v hv h).symm
        have hlength : word.length = other.length := by
          have hmapped : (word.map foldChar).length = (other.map foldChar).length := by
            rw [hword, ← hsame, ← hother]
          rwa [List.length_map, List.length_map] at hmapped
        exact congrArg some (List.append_inj_right hsplit hlength).symm

/-! ## §3. Numbers and colons. -/

/-- What follows the number of a label. -/
def Kind.afterNumber? : Kind → List Char → Option (List Char)
  | .step => Label.afterNumber?
  | _ => some

theorem isBlankChar_of_decimal {c : Char} (h : Text.isDecimalDigit c = true) :
    Text.isBlankChar c = false :=
  Text.isBlankChar_of_isDigit (by rw [Text.isDigit, h, Bool.true_or])

theorem Kind.Counts.afterNumber? {kind : Kind} {number : List Char} (h : kind.Counts number)
    {rest : List Char} (hrest : ∀ c, rest.head? = some c → Text.isDecimalDigit c = false) :
    kind.afterNumber? (number ++ rest) = some rest := by
  cases h with
  | @step gap number hgap hblank hnumber hdigits =>
      have hstart : stripStart ((gap ++ number) ++ rest) = number ++ rest := by
        rw [List.append_assoc, Text.stripStart_append hblank]
        obtain ⟨d, ds, rfl⟩ := List.exists_cons_of_ne_nil hnumber
        refine Text.stripStart_of_head fun c hc => ?_
        cases hc
        exact isBlankChar_of_decimal (hdigits d List.mem_cons_self)
      have hafter : (number ++ rest).dropWhile Text.isDecimalDigit = rest := by
        rw [List.dropWhile_append_of_pos hdigits]
        cases rest with
        | nil => rfl
        | cons c cs => rw [List.dropWhile_cons_of_neg (by rw [hrest c rfl]; exact Bool.false_ne_true)]
      have hgaplength := List.length_pos_iff.mpr hgap
      have hnumberlength := List.length_pos_iff.mpr hnumber
      show Label.afterNumber? ((gap ++ number) ++ rest) = some rest
      unfold Label.afterNumber?
      simp only [hstart, hafter, List.length_append]
      rw [if_pos]
      rw [Bool.and_eq_true, decide_eq_true_eq, decide_eq_true_eq]
      omega
  | exercise => rfl
  | quiz => rfl

theorem Kind.exists_number {kind : Kind} {cs rest : List Char} (h : kind.afterNumber? cs = some rest) :
    ∃ number, kind.Counts number ∧ cs = number ++ rest := by
  cases kind with
  | step =>
      have hafter : Label.afterNumber? cs = some rest := h
      unfold Label.afterNumber? at hafter
      dsimp only at hafter
      split at hafter
      · rename_i hlengths
        cases hafter
        obtain ⟨gap, hcs, hblank⟩ := Text.append_stripStart cs
        rw [Bool.and_eq_true, decide_eq_true_eq, decide_eq_true_eq] at hlengths
        have hsplit := List.takeWhile_append_dropWhile (p := Text.isDecimalDigit) (l := stripStart cs)
        refine ⟨gap ++ (stripStart cs).takeWhile Text.isDecimalDigit,
          .step ?_ hblank ?_ fun c hc => List.all_eq_true.mp List.all_takeWhile c hc, ?_⟩
        · rintro rfl
          rw [List.nil_append] at hcs
          rw [← hcs] at hlengths
          exact Nat.lt_irrefl _ hlengths.1
        · intro hnil
          rw [hnil, List.nil_append] at hsplit
          rw [hsplit] at hlengths
          exact Nat.lt_irrefl _ hlengths.2
        · rw [List.append_assoc, hsplit]
          exact hcs
      · cases hafter
  | exercise => exact ⟨[], .exercise, Option.some.inj h⟩
  | quiz => exact ⟨[], .quiz, Option.some.inj h⟩

theorem afterColon?_written {before behind : List Char} (hbefore : AllBlank before)
    (hbehind : AllBlank behind) (rest : List Char) :
    afterColon? (before ++ ':' :: (behind ++ rest)) = some (stripStart rest) := by
  have hcolon : stripStart (':' :: (behind ++ rest)) = ':' :: (behind ++ rest) := by
    refine Text.stripStart_of_head fun c hc => ?_
    cases hc
    decide
  unfold afterColon?
  rw [Text.stripStart_append hbefore, hcolon]
  show some (stripStart (behind ++ rest)) = _
  rw [Text.stripStart_append hbehind]

theorem exists_colon {cs rest : List Char} (h : afterColon? cs = some rest) :
    ∃ before behind, AllBlank before ∧ AllBlank behind ∧ cs = before ++ ':' :: (behind ++ rest) := by
  unfold afterColon? at h
  split at h
  · rename_i after hcolon
    cases h
    obtain ⟨before, hcs, hbefore⟩ := Text.append_stripStart cs
    obtain ⟨behind, hafter, hbehind⟩ := Text.append_stripStart after
    refine ⟨before, behind, hbefore, hbehind, ?_⟩
    rw [← hafter, ← hcolon]
    exact hcs
  · cases h

/-! ## §4. Labels. -/

/-- What follows the label of a kind. -/
def Kind.after? : Kind → List Char → Option (List Char)
  | .step => afterStep?
  | .exercise => afterExercise?
  | .quiz => afterQuiz?

theorem Kind.after?_eq (kind : Kind) (cs : List Char) :
    kind.after? cs = (afterWords? kind.words cs).bind fun rest =>
      (kind.afterNumber? rest).bind afterColon? := by
  cases kind <;> rfl

/-- A label is read to its end, and the blanks behind it are passed over. -/
theorem after?_label {kind : Kind} {label : List Char} (h : IsLabel kind label) (rest : List Char) :
    kind.after? (label ++ rest) = some (stripStart rest) := by
  cases h with
  | @written word number before behind hword hnumber hbefore hbehind =>
      obtain ⟨w, hw, hword⟩ := hword
      -- Neither a blank nor the colon could go on with the number.
      have hnodigit : ∀ c, (before ++ ':' :: (behind ++ rest)).head? = some c →
          Text.isDecimalDigit c = false := by
        intro c hc
        cases before with
        | nil =>
            cases hc
            decide
        | cons d before =>
            cases hc
            have hblank := hbefore c List.mem_cons_self
            cases hdigit : Text.isDecimalDigit c with
            | false => rfl
            | true =>
                rw [isBlankChar_of_decimal hdigit] at hblank
                cases hblank
      have htext : (word ++ (number ++ (before ++ ':' :: behind))) ++ rest
          = word ++ (number ++ (before ++ ':' :: (behind ++ rest))) := by
        simp only [List.append_assoc, List.cons_append]
      rw [htext, Kind.after?_eq,
        (afterWords?_eq_some_iff kind).mpr ⟨w, hw, word, hword, rfl⟩, Option.bind_some,
        hnumber.afterNumber? hnodigit, Option.bind_some]
      exact afterColon?_written hbefore hbehind rest

/-- What is read in front of a text is a label. -/
theorem exists_label {kind : Kind} {cs rest : List Char} (h : kind.after? cs = some rest) :
    ∃ label, IsLabel kind label ∧ cs = label ++ rest := by
  rw [Kind.after?_eq] at h
  obtain ⟨afterWord, hwords, h⟩ := Option.bind_eq_some_iff.mp h
  obtain ⟨afterNumber, hnumbers, hcolon⟩ := Option.bind_eq_some_iff.mp h
  obtain ⟨w, hw, word, hword, rfl⟩ := (afterWords?_eq_some_iff kind).mp hwords
  obtain ⟨number, hnumber, rfl⟩ := Kind.exists_number hnumbers
  obtain ⟨before, behind, hbefore, hbehind, rfl⟩ := exists_colon hcolon
  refine ⟨_, .written ⟨w, hw, hword⟩ hnumber hbefore hbehind, ?_⟩
  simp only [List.append_assoc, List.cons_append]

/-- A label is read exactly if one stands in front. -/
theorem unlabelled_iff {kind : Kind} {s : String} :
    Unlabelled kind s ↔ kind.after? s.toList = none := by
  constructor
  · intro h
    cases hafter : kind.after? s.toList with
    | none => rfl
    | some rest =>
        obtain ⟨label, hlabel, hsplit⟩ := exists_label hafter
        exact absurd ⟨rest, hsplit.symm⟩ (h label hlabel)
  · rintro h label hlabel ⟨rest, hrest⟩
    rw [← hrest, after?_label hlabel] at h
    cases h

/-- What is read to its end is a label. -/
theorem isLabel_of_after? {kind : Kind} {cs : List Char} (h : kind.after? cs = some []) :
    IsLabel kind cs := by
  obtain ⟨label, hlabel, rfl⟩ := exists_label h
  rw [List.append_nil]
  exact hlabel

/-! ## §5. How a label starts and ends. -/

/-- The letters that labels start with. -/
def initials : List Char := ['s', 'é', 'e', 'q']

/-- The blank characters, one by one. -/
def blankChars : List Char :=
  Text.blankRanges.flatMap fun (first, last) =>
    (List.range' first (last + 1 - first)).map Char.ofNat

theorem mem_blankChars {c : Char} (h : Text.isBlankChar c = true) : c ∈ blankChars := by
  obtain ⟨r, hr, hlow, hhigh⟩ := (Text.inRanges_iff _ c).mp h
  refine List.mem_flatMap.mpr ⟨r, hr, List.mem_map.mpr ⟨c.toNat, ?_, Char.ofNat_toNat c⟩⟩
  rw [List.mem_range'_1]
  omega

/-- What counts as one of these letters is neither blank nor the start of an icon. -/
theorem visible_of_initial {c : Char} (h : foldChar c ∈ initials) : Text.isBlankChar c = false := by
  have hapart : ∀ b ∈ blankChars, foldChar b ∉ initials :=
    List.all_iff_forall_prop.mp (by decide +kernel)
  cases hblank : Text.isBlankChar c with
  | false => rfl
  | true => exact absurd h (hapart c (mem_blankChars hblank))

theorem plain_of_initial {c : Char} (h : foldChar c ∈ initials) (rest : List Char) :
    Plain (String.ofList (c :: rest)) := by
  have hapart : ∀ icon ∈ icons,
      ((icon.toList.take 1).all fun d => decide (foldChar d ∉ initials)) = true := by decide +kernel
  intro icon hicon
  rw [← Bool.not_eq_true, startsWith_iff, String.toList_ofList]
  intro hprefix
  obtain ⟨hne, -⟩ := icons_trimmed icon hicon
  obtain ⟨d, ds, hd⟩ := List.exists_cons_of_ne_nil hne
  have hfirst : d ∈ icon.toList.take 1 := by
    rw [hd]
    exact List.mem_cons_self
  have hmem := List.all_iff_forall_prop.mp (hapart icon hicon) d hfirst
  rw [hd] at hprefix
  rw [(List.cons_prefix_cons.mp hprefix).1] at hmem
  exact hmem h

/-- A label is one that ends in its colon, and blanks.  It starts with one of the letters. -/
theorem IsLabel.core {kind : Kind} {label : List Char} (h : IsLabel kind label) :
    ∃ core behind, label = core ++ behind ∧ AllBlank behind ∧ IsLabel kind core ∧ Trimmed core
      ∧ ∃ c rest, core = c :: rest ∧ foldChar c ∈ initials := by
  cases h with
  | @written word number before behind hword hnumber hbefore hbehind =>
      obtain ⟨c, rest, hcore, hc⟩ : ∃ c rest,
          word ++ (number ++ (before ++ [':'])) = c :: rest ∧ foldChar c ∈ initials := by
        obtain ⟨w, hw, hfold⟩ := hword
        have hinitial : ∃ d ds, w.toList = d :: ds ∧ d ∈ initials := by
          cases kind <;> simp only [Kind.words, List.mem_cons, List.not_mem_nil, or_false] at hw
          · rcases hw with rfl | rfl <;> exact ⟨_, _, rfl, by decide⟩
          · rcases hw with rfl | rfl <;> exact ⟨_, _, rfl, by decide⟩
          · subst hw
            exact ⟨_, _, rfl, by decide⟩
        obtain ⟨d, ds, hd, hmem⟩ := hinitial
        rw [hd] at hfold
        obtain ⟨c, rest, rfl, hc, -⟩ := List.map_eq_cons_iff.mp hfold
        exact ⟨c, _, rfl, by rw [hc]; exact hmem⟩
      refine ⟨word ++ (number ++ (before ++ [':'])), behind, ?_, hbehind,
        .written hword hnumber hbefore Text.allBlank_nil, ⟨?_, ?_⟩, c, rest, hcore, hc⟩
      · simp only [List.append_assoc, List.singleton_append]
      · intro d hd
        rw [hcore] at hd
        cases hd
        exact visible_of_initial hc
      · intro d hd
        rw [List.getLast?_append, List.getLast?_append, List.getLast?_append] at hd
        cases hd
        decide

/-! ## §6. Titles. -/

section Titles

variable {kind : Kind} {label : List Char} (hlabel : IsLabel kind label) {t : String}

include hlabel

/-- A title behind a label starts with the label up to its colon, and is trimmed behind it. -/
theorem strip_labelled (t : String) : ∃ core back, IsLabel kind core ∧ Trimmed core ∧ core ≠ []
    ∧ (String.ofList label ++ t).toList = core ++ back
    ∧ (strip (String.ofList label ++ t)).toList = core ++ stripEnd back
    ∧ stripChars back = stripChars t.toList
    ∧ Plain (strip (String.ofList label ++ t)) := by
  obtain ⟨core, behind, rfl, hbehind, hcore, htrimmed, c, cs, hhead, hc⟩ := hlabel.core
  have hne : core ≠ [] := by
    rw [hhead]
    exact List.cons_ne_nil _ _
  have htext : (String.ofList (core ++ behind) ++ t).toList = core ++ (behind ++ t.toList) := by
    rw [String.toList_append, String.toList_ofList, List.append_assoc]
  have hstrip : (strip (String.ofList (core ++ behind) ++ t)).toList
      = core ++ stripEnd (behind ++ t.toList) := by
    rw [Text.toList_strip, htext]
    exact Text.stripChars_append hne htrimmed _
  refine ⟨core, behind ++ t.toList, hcore, htrimmed, hne, htext, hstrip,
    Text.stripChars_blanks hbehind _, ?_⟩
  rw [← String.ofList_toList (s := strip (String.ofList (core ++ behind) ++ t)), hstrip, hhead]
  exact plain_of_initial hc _

/-- Of a title behind a label the label goes; a title without one stays as it is. -/
theorem without_labelled (ht : Unlabelled kind (strip t)) :
    without kind.after? (strip (String.ofList label ++ t)) = without kind.after? (strip t) := by
  obtain ⟨core, back, hcore, -, -, -, hstrip, hback, -⟩ := strip_labelled hlabel t
  have hleft : stripChars (stripStart (stripEnd back)) = stripChars t.toList := by
    rw [Text.stripStart_stripEnd, Text.stripChars_of_trimmed (Text.stripChars_trimmed back), hback]
  unfold without
  rw [hstrip, after?_label hcore, unlabelled_iff.mp ht, Option.getD_some, Option.getD_none,
    String.ofList_toList, Text.strip_strip]
  unfold strip
  rw [String.toList_ofList, hleft]

/-- An icon in front of a label goes, whatever blanks are between. -/
theorem withoutIcons_labelled {icon : String} (hicon : icon ∈ "" :: icons) {blanks : List Char}
    (hblanks : AllBlank blanks) (t : String) :
    withoutIcons (icon ++ String.ofList blanks ++ String.ofList label ++ t)
      = strip (String.ofList label ++ t) := by
  obtain ⟨core, back, -, htrimmed, hcore, htext, hstrip, -, hplain⟩ := strip_labelled hlabel t
  have hstart : (icon ++ String.ofList blanks ++ String.ofList label ++ t).toList
      = icon.toList ++ (blanks ++ (String.ofList label ++ t).toList) := by
    simp only [String.toList_append, String.toList_ofList, List.append_assoc]
  rcases List.mem_cons.mp hicon with rfl | hmem
  · -- With no icon there are only blanks in front, and they are trimmed.
    have hsame : strip ("" ++ String.ofList blanks ++ String.ofList label ++ t)
        = strip (String.ofList label ++ t) := by
      unfold strip
      rw [hstart]
      exact congrArg String.ofList (Text.stripChars_blanks hblanks _)
    rw [withoutIcons_bare (by rw [hsame]; exact hplain), hsame]
  · obtain ⟨hne, hends⟩ := icons_trimmed icon hmem
    have hfront : Trimmed (icon.toList ++ (blanks ++ core)) :=
      Text.trimmed_between hends hne htrimmed hcore blanks
    have hwhole : (strip (icon ++ String.ofList blanks ++ String.ofList label ++ t)).toList
        = icon.toList ++ (blanks ++ (strip (String.ofList label ++ t)).toList) := by
      rw [hstrip, Text.toList_strip, hstart, htext, ← List.append_assoc blanks, ← List.append_assoc,
        Text.stripChars_append (List.append_ne_nil_of_left_ne_nil hne _) hfront,
        List.append_assoc, List.append_assoc]
    refine withoutIcons_icon hmem hblanks hwhole ?_ hplain
    rw [Text.toList_strip]
    exact Text.stripChars_trimmed _

/-- An icon and a label in front of a title that has neither make no difference. -/
theorem title_labelled {icon : String} (hicon : icon ∈ "" :: icons) {blanks : List Char}
    (hblanks : AllBlank blanks) (hplain : Plain (strip t)) (ht : Unlabelled kind (strip t)) :
    without kind.after?
        (withoutIcons (icon ++ String.ofList blanks ++ String.ofList label ++ t))
      = without kind.after? (withoutIcons t) := by
  rw [withoutIcons_labelled hlabel hicon hblanks, withoutIcons_bare hplain]
  exact without_labelled hlabel ht

end Titles

end Syllabus.Label

namespace Syllabus.Template

open Label

/-- **A LABEL THAT AN AUTHOR PASTES IN MAKES NO DIFFERENCE.**

The title of a step may have a label of a step in front of it, with any number, and the title of an
exercise or a quiz a label of its kind, in front of which an icon and blanks may stand.  If the title
itself starts with no such label, and with no icon, the block is the same as without them, with the
same reports, whatever else the step, the exercise or the quiz is made of. -/
theorem labels_taken_once (t : String) :
    (Unlabelled .step (Text.strip t) → ∀ label : String, IsLabel .step label.toList →
      ∀ number description children,
        step number (label ++ t) description children = step number t description children)
    ∧ (Plain (Text.strip t) → ∀ icon ∈ "" :: icons, ∀ blanks : String, Text.AllBlank blanks.toList →
        (Unlabelled .exercise (Text.strip t) → ∀ label : String, IsLabel .exercise label.toList →
          ∀ instructions solution language,
            exercise (icon ++ blanks ++ label ++ t) instructions solution language
              = exercise t instructions solution language)
        ∧ (Unlabelled .quiz (Text.strip t) → ∀ label : String, IsLabel .quiz label.toList →
          ∀ options correct,
            quiz (icon ++ blanks ++ label ++ t) options correct = quiz t options correct)) := by
  refine ⟨?_, fun hplain icon hicon blanks hblanks => ⟨?_, ?_⟩⟩
  · intro ht label hlabel number description children
    have htitle := without_labelled hlabel ht
    rw [String.ofList_toList] at htitle
    unfold step
    rw [show Label.afterStep? = Kind.step.after? from rfl, htitle]
  · intro ht label hlabel instructions solution language
    have htitle := title_labelled hlabel hicon hblanks hplain ht
    rw [String.ofList_toList, String.ofList_toList] at htitle
    unfold exercise
    rw [show Label.afterExercise? = Kind.exercise.after? from rfl, htitle]
  · intro ht label hlabel options correct
    have htitle := title_labelled hlabel hicon hblanks hplain ht
    rw [String.ofList_toList, String.ofList_toList] at htitle
    unfold quiz
    rw [show Label.afterQuiz? = Kind.quiz.after? from rfl, htitle]

/-- Capitals, a long s, digits and blanks of other scripts, and an icon. -/
theorem labels_taken_once_foreign :
    step 3 ("ÉTAPE\u00a0٢ :\t" ++ " Install ") none [] = step 3 " Install " none []
    ∧ exercise ("✏️" ++ "\u3000" ++ "EXERCIſE: " ++ "Add") ["Read"] none .null
        = exercise "Add" ["Read"] none .null
    ∧ quiz ("" ++ " \n" ++ "Quız:" ++ "Which?") ["a", "b"] 1 = quiz "Which?" ["a", "b"] 1 := by
  refine ⟨?_, ?_, ?_⟩
  · exact (labels_taken_once " Install ").1 (unlabelled_iff.mpr (by decide +kernel)) _
      (isLabel_of_after? (by decide +kernel)) 3 none []
  · exact ((labels_taken_once "Add").2 (by unfold Plain; decide +kernel) "✏️" (by decide) "\u3000"
      (List.all_eq_true.mp (by decide +kernel))).1 (unlabelled_iff.mpr (by decide +kernel)) _
      (isLabel_of_after? (by decide +kernel)) ["Read"] none .null
  · exact ((labels_taken_once "Which?").2 (by unfold Plain; decide +kernel) "" (by decide) " \n"
      (List.all_eq_true.mp (by decide +kernel))).2 (unlabelled_iff.mpr (by decide +kernel)) _
      (isLabel_of_after? (by decide +kernel)) ["a", "b"] 1

end Syllabus.Template
