/-
  Syllabus.Proofs.Template.Notes
  ──────────────────────────────
  **WHEN A NOTE SHOWS ITS ICON TWICE.**

  A note takes off the icons in front of its text, in one pass over their
  list, and reads the markup of what is left.  So its text still starts with
  the icon of the note itself in two cases only: icons were pasted in that do
  not come in the order of the list, and this is the first of them that is
  out of order; or markup starts so early that it hid the icon.

      note_exact           the block of a note, of which nothing is recorded
      unmarked_of_starts   no markup starts within an icon
      startsWith_shownText what is shown in front, and what is written there
      note_icon_repeated   when the text of a note starts with its icon
-/
import Mathlib.Data.Bool.AllAny
import Syllabus.Proofs.Template.Icons
import Syllabus.Proofs.Template.Quiz

namespace Syllabus.Template

open Writing Label
open Text (startsWith)

/-! ## §1. The block of a note. -/

/-- The runs of a text with markup, or a blank one when there is nothing to show. -/
def wordingRuns (s : String) : List Run := if Text.isBlank s then [Run.blank] else textRuns s

theorem wording_yields (s : String) :
    Yields ((TextInput.text s).runsOrBlank true) (wordingRuns s) := by
  unfold wordingRuns
  cases hs : Text.isBlank s with
  | false => exact text_yields hs
  | true =>
      have hnone : (TextInput.text s).runs? true = pure none := by
        unfold TextInput.runs?
        dsimp only
        rw [Text.isEmpty_strip, hs, if_pos rfl]
      have hruns : Yields ((TextInput.text s).runs? true) none := by
        rw [hnone]
        exact yields_pure none
      exact hruns.bind (yields_pure _)

/-- A note is a callout of its icon and color, with what is left of its text. -/
theorem note_exact {D : Diagnostic → Prop} (content : String) (kind : NoteKind) :
    Meets D (fun b => b = .callout (wordingRuns (withoutIcons content)) (noteIcon kind)
      (noteColor kind) []) (note content kind) := by
  have hlook : (noteIcon kind).isEmpty = false
      ∧ Block.colored (noteColor kind) = noteColor kind := by
    cases kind <;> decide
  exact box_exact (wording_yields _) hlook.1 hlook.2 []

/-! ## §2. What its text starts with. -/

/-- The icon of every kind is one of those that are taken off. -/
theorem noteIcon_mem (kind : NoteKind) : noteIcon kind ∈ icons := by
  cases kind <;> decide

/-- An icon is hidden in markup at the start of a text: what stands in front of the first markup is
the start of the icon, and the label goes on with it. -/
def HiddenIn (cs : List Char) (icon : String) : Prop := ∃ f, (Markup.allFinds cs).head? = some f
  ∧ f.start < icon.length
  ∧ cs.take f.start <+: icon.toList
  ∧ (f.label <+: icon.toList.drop f.start ∨ icon.toList.drop f.start <+: f.label)

/-- Icons are visible all over, short, and made of nothing that opens a mark. -/
theorem icons_visible : ∀ icon ∈ icons, 0 < icon.length ∧ icon.length + Run.ellipsis.length ≤ Run.maxChars
    ∧ ∀ c ∈ icon.toList, Text.isBlankChar c = false ∧ c ∉ Markup.markers := by
  have hall : ∀ icon ∈ icons, 0 < icon.length ∧ icon.length + Run.ellipsis.length ≤ Run.maxChars
      ∧ (icon.toList.all fun c => decide (Text.isBlankChar c = false ∧ c ∉ Markup.markers)) = true := by
    decide +kernel
  intro icon hicon
  obtain ⟨hpos, hroom, hchars⟩ := hall icon hicon
  exact ⟨hpos, hroom, List.all_iff_forall_prop.mp hchars⟩

/-- No markup starts within an icon that stands in front of a text. -/
theorem unmarked_of_starts {cs : List Char} {icon : String} (hicon : icon ∈ icons)
    (h : icon.toList <+: cs) : ∀ f ∈ Markup.allFinds cs, icon.length ≤ f.start := by
  intro f hf
  by_contra hstart
  obtain ⟨rest, htext, -⟩ := (Markup.mem_finds_iff.mp (Markup.mem_allFinds.mp hf)).2.1.stands.text
  obtain ⟨behind, rfl⟩ := h
  have hwithin : f.start < icon.toList.length := by
    rw [String.length_toList]
    omega
  -- The character where the markup starts belongs to the icon, and it opens the mark.
  have hne : f.mark.opening ≠ [] := by cases f.mark <;> decide
  obtain ⟨c, opening, hopening⟩ := List.exists_cons_of_ne_nil hne
  have hfirst : icon.toList[f.start] = c := by
    have hhead := congrArg List.head? htext
    rw [List.head?_drop, List.getElem?_append_left hwithin, List.getElem?_eq_getElem hwithin,
      Markup.written_append, hopening] at hhead
    exact Option.some.inj hhead
  refine ((icons_visible icon hicon).2.2 _ (List.getElem_mem hwithin)).2 ?_
  rw [hfirst]
  refine Markup.opening_markers f.mark c ?_
  rw [hopening]
  exact List.mem_cons_self

/-- No part of an icon shows as a blank. -/
theorem not_prefix_blank {part others : List Char} {icon : String} (hicon : icon ∈ icons)
    (hpart : part ⊆ icon.toList) (hne : part ≠ []) : ¬ part <+: " ".toList ++ others := by
  intro h
  obtain ⟨c, rest, rfl⟩ := List.exists_cons_of_ne_nil hne
  have hblank : c = ' ' := (List.cons_prefix_cons.mp h).1
  have hvisible := ((icons_visible icon hicon).2.2 c (hpart List.mem_cons_self)).1
  rw [hblank] at hvisible
  exact absurd hvisible (by decide)

section Shown

variable {c : Char} (hc : Text.isBlankChar c = false) {cs : List Char} {icon : String}
  (hicon : icon ∈ icons)

include hc hicon

/-- An icon that is shown, though markup starts so early, is hidden in it. -/
theorem hidden_of_shown {f : Markup.Find} {fs : List Markup.Find}
    (hfinds : Markup.allFinds (c :: cs) = f :: fs) (hstart : f.start < icon.length)
    (h : icon.toList <+: (Run.shownText ((Markup.pieces (c :: cs)).map Markup.Piece.made)).toList) :
    (c :: cs).take f.start <+: icon.toList
      ∧ (f.label <+: icon.toList.drop f.start ∨ icon.toList.drop f.start <+: f.label) := by
  obtain ⟨-, hroom, -⟩ := icons_visible icon hicon
  obtain ⟨others, hshown⟩ := Markup.shownText_first hc hfinds
  have hmem : f ∈ Markup.allFinds (c :: cs) := by
    rw [hfinds]
    exact List.mem_cons_self
  have hoccurs := (Markup.mem_finds_iff.mp (Markup.mem_allFinds.mp hmem)).2.1
  have hgap : ((c :: cs).take f.start).length = f.start := by
    have hstop := hoccurs.stop_le
    unfold Markup.Find.stop at hstop
    exact List.length_take_of_le (by omega)
  have hshort : Run.clipped (String.ofList ((c :: cs).take f.start))
      = String.ofList ((c :: cs).take f.start) := by
    refine if_neg ?_
    rw [String.length_ofList, hgap]
    omega
  rw [hshown, hshort, String.toList_ofList] at h
  have hiconlength : icon.toList.length = icon.length := String.length_toList
  have hgapIcon : (c :: cs).take f.start <+: icon.toList :=
    List.prefix_of_prefix_length_le (List.prefix_append _ _) h (by omega)
  -- The rest of the icon is in front of what the label shows.
  obtain ⟨part, hpart⟩ := hgapIcon
  have hdrop : icon.toList.drop f.start = part := by
    rw [← hpart, List.drop_left' hgap]
  have hbehind : part <+: (Markup.Piece.marked f.mark f.label f.url).made.content.toList ++ others := by
    rw [← hpart] at h
    exact (List.prefix_append_right_inj _).mp h
  rw [hdrop]
  refine ⟨⟨part, hpart⟩, ?_⟩
  have hcontent : (Markup.Piece.marked f.mark f.label f.url).made.content
      = if Text.isBlank (String.ofList f.label) then " "
        else Run.clipped (String.ofList f.label) := by
    rw [Markup.Piece.made_marked]
    cases hblank : Text.isBlank (String.ofList f.label) with
    | true =>
        unfold Run.of
        rw [hblank, if_pos rfl, if_pos rfl]
        rfl
    | false => exact Markup.content_of_visible hblank _ _
  rw [hcontent] at hbehind
  split at hbehind
  · refine absurd hbehind (not_prefix_blank hicon ?_ ?_)
    · rw [← hdrop]
      exact List.drop_subset _ _
    · rw [← hdrop, Ne, List.drop_eq_nil_iff]
      omega
  · have hpartlength := congrArg List.length hdrop
    rw [List.length_drop] at hpartlength
    have hlabel := Markup.prefix_clipped (by omega) hbehind
    rwa [String.toList_ofList] at hlabel

/-- An icon that is shown in front is there, or it is hidden in markup. -/
theorem prefix_of_shown
    (h : icon.toList <+: (Run.shownText ((Markup.pieces (c :: cs)).map Markup.Piece.made)).toList) :
    icon.toList <+: c :: cs ∨ HiddenIn (c :: cs) icon := by
  obtain ⟨-, hroom, -⟩ := icons_visible icon hicon
  by_cases hearly : ∃ g ∈ Markup.allFinds (c :: cs), g.start < icon.length
  · obtain ⟨g, hg, hlt⟩ := hearly
    right
    cases hfinds : Markup.allFinds (c :: cs) with
    | nil =>
        rw [hfinds] at hg
        exact absurd hg List.not_mem_nil
    | cons f fs =>
        -- The finds are in the order of their starts, so the first of them is as early.
        have hsorted := Markup.allFinds_sorted (c :: cs)
        rw [hfinds] at hg hsorted
        have hstart : f.start < icon.length := by
          rcases List.mem_cons.mp hg with rfl | hrest
          · exact hlt
          · exact Nat.lt_of_le_of_lt ((List.pairwise_cons.mp hsorted).1 g hrest) hlt
        refine ⟨f, ?_, hstart, hidden_of_shown hc hicon hfinds hstart h⟩
        rw [hfinds, List.head?_cons]
  · have hlate : ∀ f ∈ Markup.allFinds (c :: cs), icon.length ≤ f.start := by
      intro f hf
      by_contra hlt
      exact hearly ⟨f, hf, by omega⟩
    left
    rw [List.prefix_iff_eq_take, String.length_toList] at h ⊢
    rw [← Markup.take_shownText hc hroom hlate]
    exact h

/-- An icon in front is shown there. -/
theorem shown_of_written (h : icon.toList <+: c :: cs) :
    icon.toList <+: (Run.shownText ((Markup.pieces (c :: cs)).map Markup.Piece.made)).toList := by
  have hlate := unmarked_of_starts hicon h
  rw [List.prefix_iff_eq_take, String.length_toList] at h ⊢
  rw [Markup.take_shownText hc (icons_visible icon hicon).2.1 hlate]
  exact h

end Shown

/-- A text that starts with an icon shows it in front.  One that shows an icon in front starts with
it, or hides it in markup. -/
theorem startsWith_shownText {s icon : String} (hs : Text.Trimmed s.toList) (hicon : icon ∈ icons) :
    (startsWith s icon = true → startsWith (Run.shownText (wordingRuns s)) icon = true)
    ∧ (startsWith (Run.shownText (wordingRuns s)) icon = true →
        startsWith s icon = true ∨ HiddenIn s.toList icon) := by
  simp only [startsWith_iff]
  unfold wordingRuns textRuns
  rw [Text.strip_of_trimmed hs]
  cases hcs : s.toList with
  | nil =>
      obtain ⟨hpos, -⟩ := icons_visible icon hicon
      have hne : icon.toList ≠ [] := by
        rw [← List.length_pos_iff, String.length_toList]
        exact hpos
      have hblank : Text.isBlank s = true := by
        unfold Text.isBlank
        rw [hcs]
        rfl
      rw [hblank, if_pos rfl]
      refine ⟨fun h => absurd (List.prefix_nil.mp h) hne, fun h => absurd h ?_⟩
      show ¬ icon.toList <+: " ".toList ++ []
      exact not_prefix_blank hicon (List.Subset.refl _) hne
  | cons c cs =>
      rw [hcs] at hs
      have hc : Text.isBlankChar c = false := hs.1 c rfl
      have hvisible : Text.isBlank s = false := by
        refine Text.isBlank_of_visible ?_ hc
        rw [hcs]
        exact List.mem_cons_self
      rw [hvisible, if_neg Bool.false_ne_true]
      exact ⟨shown_of_written hc hicon, prefix_of_shown hc hicon⟩

/-- **WHEN THE TEXT OF A NOTE STARTS WITH ITS ICON.**

A note is a callout with the icon of its kind.  Of its trimmed content, icons in the order of the
list and blanks are taken off in front; what is left ends the content.  The text that the note shows
starts with its icon if that is what is left in front, and then it was out of order; else only if it
is hidden in markup there. -/
theorem note_icon_repeated (content : String) (kind : NoteKind) : ∃ taken runs,
    Meets (fun _ => False)
        (fun b => b = .callout runs (noteIcon kind) (noteColor kind) []) (note content kind)
      ∧ Decorated taken (Text.strip content).toList (withoutIcons content).toList
      ∧ (withoutIcons content).toList <:+ (Text.strip content).toList
      ∧ taken.Sublist icons
      ∧ (startsWith (withoutIcons content) (noteIcon kind) = true →
          ¬ (taken ++ [noteIcon kind]).Sublist icons
            ∧ startsWith (Run.shownText runs) (noteIcon kind) = true)
      ∧ (startsWith (Run.shownText runs) (noteIcon kind) = true →
          startsWith (withoutIcons content) (noteIcon kind) = true
            ∨ HiddenIn (withoutIcons content).toList (noteIcon kind)) := by
  obtain ⟨taken, htaken, htrimmed, hsub, hnone⟩ := withoutIcons_decorated content
  obtain ⟨hshows, honly⟩ := startsWith_shownText htrimmed (noteIcon_mem kind)
  exact ⟨taken, wordingRuns (withoutIcons content), note_exact content kind, htaken, htaken.suffix,
    hsub, fun h => ⟨hnone _ h, hshows h⟩, honly⟩

/-- A second icon of the same kind stays, and so does one in bold: the text starts with it. -/
theorem note_icon_twice :
    Meets (fun _ => False) (fun b => ∃ runs,
        b = .callout runs "⚠️" "yellow_background" []
          ∧ Run.shownText runs = "⚠️ Careful") (note "⚠️⚠️ Careful" .warning)
    ∧ Meets (fun _ => False) (fun b => ∃ runs,
        b = .callout runs "⚠️" "yellow_background" []
          ∧ Run.shownText runs = "⚠️ Careful") (note "**⚠️** Careful" .warning) := by
  refine ⟨(note_exact _ _).result fun b hb => ⟨_, hb, ?_⟩,
    (note_exact _ _).result fun b hb => ⟨_, hb, ?_⟩⟩
  · decide +kernel
  · decide +kernel

end Syllabus.Template
