/-
  Syllabus.Proofs.Template.Quiz
  ─────────────────────────────
  **THE ANSWER THAT A QUIZ REVEALS IS ONE OF ITS OPTIONS.**

  An option is shown twice: behind its letter, and behind its letter in the
  sentence that is folded away.  Its markup is read both times.  A letter and
  its parenthesis belong to no mark, as long as the letters are letters, so
  both times the same marks are found (`Markup.shownText_behind`).

      optionEntry          the bullet of an option
      quiz_reveals         the block of a quiz, and what is recorded of it
      shownText_answer     what the answer shows
      quiz_reveals_option  it is what the bullet of the right option shows
-/
import Syllabus.Proofs.RichText.Prefixing
import Syllabus.Proofs.Template.Builders
import Syllabus.Proofs.Template.Overlooking

namespace Syllabus.Template

open Writing

/-! ## §1. Texts that show something. -/

/-- The runs of a text with markup that is not blank. -/
def textRuns (s : String) : List Run :=
  (Markup.pieces (Text.strip s).toList).map Markup.Piece.made

theorem text_yields {s : String} (h : Text.isBlank s = false) :
    Yields ((TextInput.text s).runsOrBlank true) (textRuns s) := by
  have hruns : Yields ((TextInput.text s).runs? true) (some (textRuns s)) := by
    show Yields (if (Text.strip s).isEmpty then pure none else do
      let runs ← Markup.runs (Text.strip s)
      pure (some runs)) _
    rw [Text.isEmpty_strip, h, if_neg Bool.false_ne_true]
    exact (Markup.runs_made (Text.strip s)).bind (yields_pure _)
  exact hruns.bind (yields_pure _)

theorem entry_yields {s : String} (h : Text.isBlank s = false) :
    Yields (Block.makeEntry .bullet (.text s) Color.default [] true)
      (.entry .bullet (textRuns s) Color.default []) :=
  (text_yields h).bind (yields_pure _)

variable {D : Diagnostic → Prop} {input : TextInput} {rs : List Run}

/-- A callout of a template, of which nothing is recorded. -/
theorem box_exact (h : Yields (input.runsOrBlank true) rs) {icon : String}
    (hicon : icon.isEmpty = false) {color : String} (hcolor : Block.colored color = color)
    (children : List Block) :
    Meets D (fun b => b = .callout rs icon color children) (box input icon color children) := by
  have hbox : Yields (Block.makeCallout input icon color children true)
      (.callout rs (if icon.isEmpty then Block.defaultIcon else icon) (Block.colored color)
        children) := h.bind (yields_pure _)
  rw [hicon, if_neg Bool.false_ne_true, hcolor] at hbox
  exact hbox.silent

/-- A toggle of a template, of which nothing is recorded. -/
theorem toggle_exact (h : Yields (input.runsOrBlank true) rs) (children : List Block) :
    Meets D (fun b => b = .toggle rs Color.default children)
      (unrecorded (Block.makeToggle input Color.default children true)) := by
  have htoggle : Yields (Block.makeToggle input Color.default children true)
      (.toggle rs Color.default children) := h.bind (yields_pure _)
  exact htoggle.silent

/-! ## §2. Options. -/

/-- The bullet of an option. -/
def optionEntry (index : Nat) (option : String) : Block :=
  .entry .bullet (textRuns (optionText index option)) Color.default []

/-- An option is never blank behind its letter. -/
theorem isBlank_optionText (index : Nat) (option : String) :
    Text.isBlank (optionText index option) = false := by
  have hmark : ')' ∈ (optionText index option).toList := by simp [optionText]
  exact Text.isBlank_of_visible hmark (by decide)

theorem optionBullets_yields (options : List String) :
    ∀ index, Yields (optionBullets index options)
      (options.mapIdx fun k option => optionEntry (index + k) option) := by
  induction options with
  | nil => intro index; exact yields_pure []
  | cons option options ih =>
      intro index
      rw [List.mapIdx_cons]
      refine (entry_yields (isBlank_optionText index option)).bind ?_
      -- `mapIdx` counts the options behind from zero, and the bullets from the next index on.
      have hrest := ih (index + 1)
      simp only [Nat.add_right_comm index 1] at hrest
      exact hrest.bind (yields_pure _)

/-! ## §3. The block of a quiz. -/

/-- It is recorded that an index is not the counted one exactly if it is out of range. -/
theorem clamped_indexNotes (correct : Int) (count : Nat) :
    (∃ d ∈ (indexNotes correct count).found, d.code = "quiz_index_clamped")
      ↔ ¬ (0 ≤ correct ∧ correct < count) := by
  unfold indexNotes
  by_cases hin : 0 ≤ correct ∧ correct < count
  · rw [if_pos hin]
    refine iff_of_false ?_ (not_not_intro hin)
    rintro ⟨d, hd, -⟩
    exact absurd hd List.not_mem_nil
  · rw [if_neg hin]
    exact iff_of_true ⟨_, List.mem_singleton_self _, rfl⟩ hin

/-- The bullets of a quiz. -/
def optionEntries (options : List String) : List Block :=
  (options.map Text.strip).mapIdx optionEntry

/-- A quiz that shows some options and, folded away, an answer. -/
def Reveals (bullets : List Block) (answer : List Run) (b : Block) : Prop :=
  ∃ title label, b = .callout title "🧠" "purple_background"
    (bullets ++ [.toggle label Color.default [.callout answer "✅" "green_background" []]])

/-- Once it is known which option is right, only dropped links of the options are recorded. -/
theorem options_reveal (options : List String) (title : List Run) {answer : String}
    (hanswer : Text.isBlank answer = false) :
    Meets Diagnostic.DropsLink (Reveals (optionEntries options) (textRuns answer)) (do
      let bullets ← optionBullets 0 (options.map Text.strip)
      let answer ← box (.text answer) "✅" "green_background" []
      let toggle ← unrecorded (Block.makeToggle (.text "Show answer") Color.default [answer] true)
      box (.runs title) "🧠" "purple_background" (bullets ++ [toggle])) := by
  have hbullets : Meets Diagnostic.DropsLink (fun bs => bs = optionEntries options)
      (optionBullets 0 (options.map Text.strip)) := by
    have hyields := optionBullets_yields (options.map Text.strip) 0
    simp only [Nat.zero_add] at hyields
    exact (optionBullets_meets _ 0).exact hyields
  refine hbullets.bind fun bullets hb => ?_
  refine (box_exact (text_yields hanswer) (by decide) (by decide) []).bind fun answer ha => ?_
  refine (toggle_exact (text_yields (by decide)) [answer]).bind fun toggle ht => ?_
  rw [hb, ht, ha]
  have htitle : Yields ((TextInput.runs title).runsOrBlank true) _ :=
    (yields_pure _).bind (yields_pure _)
  exact (box_exact htitle (by decide) (by decide) _).result fun b hbox => ⟨_, _, hbox⟩

theorem quiz_reveals (question : String) {options : List String} (correct : Int)
    (hcount : 2 ≤ options.length) : ∃ b n, Gives (quiz question options correct) b n
      ∧ Reveals (optionEntries options) (textRuns (answerText options correct)) b
      ∧ ((∃ d ∈ n.found, d.code = "quiz_index_clamped")
          ↔ ¬ (0 ≤ correct ∧ correct < options.length)) := by
  have hanswer : Text.isBlank (answerText options correct) = false :=
    Text.visible_append (isBlank_optionText _ _)
  obtain ⟨b, m, hrest, hlinks, hb⟩ := options_reveal options [Run.bold "Quiz: ",
    Run.plain (Label.without Label.afterQuiz? (Label.withoutIcons question))] hanswer
  refine ⟨b, indexNotes correct options.length ++ m, ?_, hb, ?_⟩
  · unfold quiz
    rw [if_neg (by omega)]
    exact (rightIndex_gives correct options.length).bind hrest
  · rw [← clamped_indexNotes]
    constructor
    · rintro ⟨d, hd, hcode⟩
      rcases List.mem_append.mp hd with hd | hd
      · exact ⟨d, hd, hcode⟩
      · -- What is recorded later has another code.
        have hlink := (hlinks d hd).2.2
        rw [hcode] at hlink
        exact absurd hlink (by decide)
    · rintro ⟨d, hd, hcode⟩
      exact ⟨d, List.mem_append_left _ hd, hcode⟩

/-! ## §4. What the answer shows. -/

/-- The letter of an option and the parenthesis behind it. -/
def letterMark (index : Nat) : List Char := [Char.ofNat ('A'.toNat + index), ')']

theorem toList_optionText (index : Nat) (option : String) :
    (optionText index option).toList = letterMark index ++ ' ' :: option.toList := by
  unfold optionText optionLetter letterMark
  rw [String.toList_append, String.toList_append, Char.toString, String.toList_singleton]
  rfl

/-- As long as there are letters, no mark is made of them, and they are visible. -/
theorem letterMark_unmarked {index : Nat} (h : index < 26) :
    Markup.IsUnmarked (letterMark index) ∧ Text.Trimmed (letterMark index) := by
  have hletter : ∀ k < 26, Char.ofNat ('A'.toNat + k) ∉ Markup.markers
      ∧ Text.isBlankChar (Char.ofNat ('A'.toNat + k)) = false := by decide
  obtain ⟨hfree, hvisible⟩ := hletter index h
  refine ⟨⟨List.cons_ne_nil _ _, ?_⟩, ?_, ?_⟩
  · intro c hc
    rcases List.mem_pair.mp hc with rfl | rfl
    · exact hfree
    · decide
  · intro c hc
    cases hc
    exact hvisible
  · intro c hc
    cases hc
    show Text.isBlankChar ')' = false
    decide

/-- What introduces the answer. -/
def answerIntro : String := "The correct answer is "

theorem answerIntro_unmarked : Markup.IsUnmarked answerIntro.toList :=
  Markup.isUnmarked_of_all (by decide) (by decide)

/-- An option shows the same behind the words that introduce the answer. -/
theorem shownText_answer {index : Nat} (hindex : index < 26) {option : String}
    (hlength : option.length ≤ 1900) :
    Run.shownText (textRuns (answerIntro ++ optionText index option))
      = answerIntro ++ Run.shownText (textRuns (optionText index option)) := by
  obtain ⟨hmark, htrimmed⟩ := letterMark_unmarked hindex
  have hintro : Text.Trimmed (answerIntro.toList ++ letterMark index) := by
    refine ⟨?_, ?_⟩
    · intro c hc
      cases hc
      decide
    · intro c hc
      rw [List.getLast?_append] at hc
      exact htrimmed.2 c hc
  -- Trimming leaves the letter and what is in front of it alone.
  have hoption : (Text.strip (optionText index option)).toList
      = letterMark index ++ Text.stripEnd (' ' :: option.toList) := by
    rw [Text.toList_strip, toList_optionText]
    exact Text.stripChars_append hmark.nonempty htrimmed _
  have hanswer : (Text.strip (answerIntro ++ optionText index option)).toList
      = answerIntro.toList ++ (letterMark index ++ Text.stripEnd (' ' :: option.toList)) := by
    rw [Text.toList_strip, String.toList_append, toList_optionText, ← List.append_assoc,
      ← List.append_assoc]
    exact Text.stripChars_append (List.append_ne_nil_of_right_ne_nil _ hmark.nonempty) hintro _
  have hroom : (answerIntro.toList
      ++ (letterMark index ++ Text.stripEnd (' ' :: option.toList))).length ≤ Run.maxChars := by
    have hend := Text.length_stripEnd_le (' ' :: option.toList)
    have hmarklength : (letterMark index).length = 2 := rfl
    have hintrolength : answerIntro.toList.length = 22 := by decide
    rw [List.length_cons, String.length_toList] at hend
    rw [List.length_append, List.length_append, hmarklength, hintrolength]
    unfold Run.maxChars
    omega
  unfold textRuns
  rw [hoption, hanswer, Markup.shownText_behind answerIntro_unmarked.free hmark
    ⟨')', by simp [letterMark], by decide⟩ hroom, String.ofList_toList]

theorem countedIndex_lt (correct : Int) {count : Nat} (h : 0 < count) :
    countedIndex correct count < count := by
  unfold countedIndex
  split <;> omega

/-- **THE ANSWER THAT A QUIZ REVEALS IS THE RIGHT OPTION.**

A quiz with two to twenty-six options of at most 1900 characters is a callout with a bullet for each
option, in their order, and a toggle.  The answer in the toggle shows what the bullet of the right
option shows, behind the words that introduce it; an index that is out of range stands for the first
option, and only that is recorded as such. -/
theorem quiz_reveals_option (question : String) {options : List String} (correct : Int)
    (hcount : 2 ≤ options.length) (hletters : options.length ≤ 26)
    (hlength : ∀ option ∈ options, option.length ≤ 1900) :
    ∃ title label answer right n,
      Gives (quiz question options correct)
        (.callout title "🧠" "purple_background" (optionEntries options ++
          [.toggle label Color.default [.callout answer "✅" "green_background" []]])) n
      ∧ (optionEntries options).length = options.length
      ∧ (optionEntries options)[countedIndex correct options.length]?
          = some (.entry .bullet right Color.default [])
      ∧ Run.shownText answer = "The correct answer is " ++ Run.shownText right
      ∧ ((∃ d ∈ n.found, d.code = "quiz_index_clamped")
          ↔ ¬ (0 ≤ correct ∧ correct < options.length)) := by
  obtain ⟨b, n, hgives, ⟨title, label, rfl⟩, hclamped⟩ := quiz_reveals question correct hcount
  -- The counted index is one of the options, so there is an option to reveal.
  have hindex := countedIndex_lt correct (Nat.lt_of_lt_of_le Nat.zero_lt_two hcount)
  obtain ⟨option, hright, hshort⟩ : ∃ option,
      (options.map Text.strip)[countedIndex correct options.length]? = some option
        ∧ option.length ≤ 1900 := by
    refine ⟨Text.strip options[countedIndex correct options.length], ?_, ?_⟩
    · rw [List.getElem?_map, List.getElem?_eq_getElem hindex]
      rfl
    · exact (Text.length_strip_le _).trans (hlength _ (List.getElem_mem hindex))
  have hanswer : answerText options correct
      = answerIntro ++ optionText (countedIndex correct options.length) option := by
    unfold answerText
    rw [List.getD_eq_getElem?_getD, hright]
    rfl
  refine ⟨title, label, _, textRuns (optionText (countedIndex correct options.length) option), n,
    hgives, ?_, ?_, ?_, hclamped⟩
  · rw [optionEntries, List.length_mapIdx, List.length_map]
  · rw [optionEntries, List.getElem?_mapIdx, hright]
    rfl
  · rw [hanswer]
    exact shownText_answer (Nat.lt_of_lt_of_le hindex hletters) hshort

/-- The first of two marked options is right, since there is no eighth. -/
theorem quiz_reveals_first :
    ∃ title label answer n,
      Gives (quiz "Which?" [" **4** * 2 ", "[here](x)"] 7)
        (.callout title "🧠" "purple_background" (optionEntries [" **4** * 2 ", "[here](x)"] ++
          [.toggle label Color.default [.callout answer "✅" "green_background" []]])) n
      ∧ Run.shownText answer = "The correct answer is A) 4 * 2"
      ∧ ∃ d ∈ n.found, d.code = "quiz_index_clamped" := by
  have hlength : ∀ option ∈ [" **4** * 2 ", "[here](x)"], option.length ≤ 1900 := by decide
  obtain ⟨title, label, answer, right, n, hgives, -, hright, hshown, hclamped⟩ :=
    quiz_reveals_option "Which?" 7 (by decide) (by decide) hlength
  refine ⟨title, label, answer, n, hgives, ?_, hclamped.mpr (by decide)⟩
  have hfirst : (optionEntries [" **4** * 2 ", "[here](x)"])[0]?
      = some (optionEntry 0 (Text.strip " **4** * 2 ")) := rfl
  cases hfirst.symm.trans hright
  rw [hshown]
  decide +kernel

end Syllabus.Template
