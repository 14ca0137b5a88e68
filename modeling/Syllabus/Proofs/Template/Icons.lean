/-
  Syllabus.Proofs.Template.Icons
  ──────────────────────────────
  **WHICH ICONS ARE TAKEN OFF A TEXT.**

  Icons are taken off in one pass over their list.  So those in front of a
  text go as long as they come in the order of the list, and the first one
  that does not stays, with everything behind it.

      Decorated               icons in front of a text, with blanks behind them
      withoutIcons_decorated  what one pass takes off, and what it leaves
      withoutIcons_ordered    all icons in front go if they come in order
-/
import Syllabus.Proofs.Text.Trimming
import Syllabus.Template.Label

namespace Syllabus.Label

open Text (AllBlank Trimmed strip stripStart stripChars startsWith)

/-! ## §1. Icons in front of a text. -/

/-- Some icons, each with blanks behind it, stand in front of the rest of a text. -/
inductive Decorated : List String → List Char → List Char → Prop where
  /-- No icon. -/
  | bare (rest : List Char) : Decorated [] rest rest
  /-- One more icon in front. -/
  | icon {more : List String} {blanks cs rest : List Char} (icon : String)
      (hblanks : AllBlank blanks) (h : Decorated more cs rest) :
      Decorated (icon :: more) (icon.toList ++ (blanks ++ cs)) rest

/-- No icon stands in front of a text. -/
def Plain (s : String) : Prop := ∀ icon ∈ icons, startsWith s icon = false

theorem startsWith_iff {s needle : String} :
    startsWith s needle = true ↔ needle.toList <+: s.toList := List.isPrefixOf_iff_prefix

/-- What is behind the icons ends the text. -/
theorem Decorated.suffix {taken : List String} {cs rest : List Char} (h : Decorated taken cs rest) :
    rest <:+ cs := by
  induction h with
  | bare rest => exact List.suffix_rfl
  | icon icon hblanks _ ih => exact (ih.trans (List.suffix_append _ _)).trans (List.suffix_append _ _)

theorem Decorated.eq_of_nil {cs rest : List Char} (h : Decorated [] cs rest) : cs = rest := by
  cases h
  rfl

/-- The first icon is at the start of the text. -/
theorem Decorated.first {icon : String} {more : List String} {cs rest : List Char}
    (h : Decorated (icon :: more) cs rest) : icon.toList <+: cs := by
  cases h
  exact List.prefix_append _ _

/-! ## §2. One icon. -/

/-- An icon at the start goes, with the blanks behind it. -/
theorem withoutIcon_starts {s icon : String} (hs : Trimmed s.toList) (h : startsWith s icon = true) :
    ∃ blanks, AllBlank blanks ∧ s.toList = icon.toList ++ (blanks ++ (withoutIcon s icon).toList)
      ∧ Trimmed (withoutIcon s icon).toList := by
  obtain ⟨behind, hbehind⟩ := startsWith_iff.mp h
  have hleft : (withoutIcon s icon).toList = stripChars behind := by
    unfold withoutIcon
    rw [if_pos h, Text.toList_strip]
    unfold Text.dropChars
    rw [String.toList_ofList, ← hbehind, ← String.length_toList, List.drop_left]
  obtain ⟨blanks, hsplit, hblanks⟩ := Text.append_stripStart behind
  -- The text ends in a visible character, so nothing is trimmed at the end.
  have hend : stripChars behind = stripStart behind := by
    refine Text.stripChars_of_trimmed_end fun c hc => hs.2 c ?_
    rw [← hbehind, List.getLast?_append, hsplit, List.getLast?_append, hc]
    rfl
  refine ⟨blanks, hblanks, ?_, ?_⟩
  · rw [hleft, hend, ← hsplit, hbehind]
  · rw [hleft]
    exact Text.stripChars_trimmed behind

theorem withoutIcon_other {s icon : String} (h : startsWith s icon = false) :
    withoutIcon s icon = s := by
  unfold withoutIcon
  rw [h, if_neg Bool.false_ne_true]

/-! ## §3. One pass. -/

/-- **One pass takes off the icons that come in its order.**

What it leaves of a trimmed text starts with no icon that would still come after those taken off. -/
theorem foldl_withoutIcon (order : List String) :
    ∀ s : String, Trimmed s.toList → ∃ taken,
      Decorated taken s.toList (order.foldl withoutIcon s).toList
        ∧ Trimmed (order.foldl withoutIcon s).toList
        ∧ taken.Sublist order
        ∧ ∀ icon, startsWith (order.foldl withoutIcon s) icon = true →
            ¬ (taken ++ [icon]).Sublist order := by
  induction order with
  | nil =>
      intro s hs
      refine ⟨[], .bare _, hs, List.Sublist.slnil, fun icon _ hsub => ?_⟩
      have hlength := hsub.length_le
      rw [List.length_append, List.length_singleton] at hlength
      exact Nat.not_succ_le_zero _ hlength
  | cons first order ih =>
      intro s hs
      rw [List.foldl_cons]
      cases hfirst : startsWith s first with
      | true =>
          obtain ⟨blanks, hblanks, heq, hleft⟩ := withoutIcon_starts hs hfirst
          obtain ⟨taken, hdecorated, htrimmed, hsub, hnone⟩ := ih _ hleft
          refine ⟨first :: taken, ?_, htrimmed, List.cons_sublist_cons.mpr hsub, ?_⟩
          · rw [heq]
            exact .icon first hblanks hdecorated
          · intro icon hicon hlonger
            exact hnone icon hicon (List.cons_sublist_cons.mp hlonger)
      | false =>
          rw [withoutIcon_other hfirst]
          obtain ⟨taken, hdecorated, htrimmed, hsub, hnone⟩ := ih s hs
          refine ⟨taken, hdecorated, htrimmed, hsub.cons first, ?_⟩
          intro icon hicon hlonger
          -- The icon that was passed over would have to be the first one of the text.
          rcases List.sublist_cons_iff.mp hlonger with hrest | ⟨more, heq, -⟩
          · exact hnone icon hicon hrest
          · refine Bool.false_ne_true (hfirst.symm.trans (startsWith_iff.mpr ?_))
            cases taken with
            | nil =>
                cases heq
                rw [hdecorated.eq_of_nil]
                exact startsWith_iff.mp hicon
            | cons taken more =>
                cases heq
                exact hdecorated.first

/-- What one pass takes off a text is in front of what it leaves: icons in the order of the list,
and blanks. -/
theorem withoutIcons_decorated (s : String) : ∃ taken,
    Decorated taken (strip s).toList (withoutIcons s).toList
      ∧ Trimmed (withoutIcons s).toList
      ∧ taken.Sublist icons
      ∧ ∀ icon, startsWith (withoutIcons s) icon = true → ¬ (taken ++ [icon]).Sublist icons := by
  refine foldl_withoutIcon icons (strip s) ?_
  rw [Text.toList_strip]
  exact Text.stripChars_trimmed s.toList

/-! ## §4. Icons in order. -/

/-- No icon is the start of another one, and each starts and ends visibly. -/
theorem icons_apart : ∀ icon ∈ icons, ∀ other ∈ icons,
    icon.toList <+: other.toList → icon = other := by decide

theorem icons_trimmed : ∀ icon ∈ icons, icon.toList ≠ [] ∧ Trimmed icon.toList := by
  have hends : ∀ icon ∈ icons, icon.toList ≠ [] ∧ stripChars icon.toList = icon.toList := by decide
  intro icon hicon
  obtain ⟨hne, htrimmed⟩ := hends icon hicon
  refine ⟨hne, ?_⟩
  rw [← htrimmed]
  exact Text.stripChars_trimmed _

theorem icon_unique {icon other : String} {cs : List Char} (hicon : icon ∈ icons)
    (hother : other ∈ icons) (h : icon.toList <+: cs) (h' : other.toList <+: cs) : icon = other := by
  rcases List.prefix_or_prefix_of_prefix h h' with hshort | hlong
  · exact icons_apart icon hicon other hother hshort
  · exact (icons_apart other hother icon hicon hlong).symm

/-- A text behind icons starts visibly, if what is behind the last icon does. -/
theorem Decorated.visible {lead : List String} {cs rest : List Char} (h : Decorated lead cs rest)
    (hlead : lead ⊆ icons) (hrest : Trimmed rest) : stripStart cs = cs := by
  cases h with
  | bare => exact Text.stripStart_of_head hrest.1
  | icon icon hblanks h =>
      obtain ⟨hne, hends⟩ := icons_trimmed icon (hlead List.mem_cons_self)
      obtain ⟨c, tail, htail⟩ := List.exists_cons_of_ne_nil hne
      rw [htail] at hends ⊢
      exact Text.stripStart_of_head fun d hd => hends.1 d hd

/-- Whoever takes off icons until none of those in front is left leaves the same: if there is an
end to the icons, and taking off did not stop before it. -/
theorem Decorated.eq_rest {lead : List String} {cs tail : List Char} (h : Decorated lead cs tail)
    (hlead : lead ⊆ icons) (htail : Trimmed tail) (hplain : ∀ icon ∈ icons, ¬ icon.toList <+: tail) :
    ∀ {taken left}, Decorated taken cs left → taken ⊆ icons → Trimmed left →
      (∀ icon more, icon.toList <+: left → lead ≠ taken ++ icon :: more) → left = tail := by
  induction h with
  | bare tail =>
      intro taken left htaken hsub hleft hstop
      cases taken with
      | nil => exact htaken.eq_of_nil.symm
      | cons icon more => exact absurd htaken.first (hplain icon (hsub List.mem_cons_self))
  | @icon others blanks cs tail icon hblanks hothers ih =>
      intro taken left htaken hsub hleft hstop
      cases taken with
      | nil =>
          refine absurd rfl (hstop icon others ?_)
          rw [← htaken.eq_of_nil]
          exact List.prefix_append _ _
      | cons first more =>
          have hfirst : first = icon := icon_unique (hsub List.mem_cons_self)
            (hlead List.mem_cons_self) htaken.first (List.prefix_append _ _)
          subst hfirst
          obtain ⟨blanks', cs', hblanks', hcs, hmore⟩ : ∃ blanks' cs', AllBlank blanks'
              ∧ first.toList ++ (blanks ++ cs) = first.toList ++ (blanks' ++ cs')
              ∧ Decorated more cs' left := by
            generalize first.toList ++ (blanks ++ cs) = whole at htaken
            cases htaken with
            | icon _ hblanks' hmore => exact ⟨_, _, hblanks', rfl, hmore⟩
          have hothersSub : others ⊆ icons := fun _ hi => hlead (List.mem_cons_of_mem _ hi)
          have hmoreSub : more ⊆ icons := fun _ hi => hsub (List.mem_cons_of_mem _ hi)
          -- Behind the first icon both go on at the same visible character.
          have hsame : cs' = cs := by
            rw [← hmore.visible hmoreSub hleft, ← hothers.visible hothersSub htail,
              ← Text.stripStart_append hblanks' cs', ← List.append_cancel_left hcs,
              Text.stripStart_append hblanks]
          rw [hsame] at hmore
          refine ih hothersSub htail hplain hmore hmoreSub hleft fun next after hnext heq => ?_
          exact hstop next after hnext (congrArg (first :: ·) heq)

/-- **Icons that come in the order of the list, each at most once, are taken off.** -/
theorem withoutIcons_ordered {s text : String} {lead : List String}
    (h : Decorated lead (strip s).toList text.toList) (hlead : lead.Sublist icons)
    (htext : Trimmed text.toList) (hplain : Plain text) : withoutIcons s = text := by
  obtain ⟨taken, htaken, hleft, hsub, hnone⟩ := withoutIcons_decorated s
  have hnoicon : ∀ icon ∈ icons, ¬ icon.toList <+: text.toList := by
    intro icon hicon hprefix
    have hstarts := hplain icon hicon
    rw [startsWith_iff.mpr hprefix] at hstarts
    cases hstarts
  refine String.toList_inj.mp (h.eq_rest hlead.subset htext hnoicon htaken hsub.subset hleft ?_)
  rintro icon more hicon rfl
  refine hnone icon (startsWith_iff.mpr hicon) (List.Sublist.trans ?_ hlead)
  exact List.Sublist.append_left (List.singleton_sublist.mpr List.mem_cons_self) taken

/-- A text with no icon in front is only trimmed. -/
theorem withoutIcons_bare {s : String} (h : Plain (strip s)) : withoutIcons s = strip s := by
  refine withoutIcons_ordered (.bare _) (List.nil_sublist _) ?_ h
  rw [Text.toList_strip]
  exact Text.stripChars_trimmed s.toList

/-- An icon in front of a text that has none goes. -/
theorem withoutIcons_icon {icon : String} (hicon : icon ∈ icons) {s text : String}
    {blanks : List Char} (hblanks : AllBlank blanks)
    (hs : (strip s).toList = icon.toList ++ (blanks ++ text.toList))
    (htext : Trimmed text.toList) (hplain : Plain text) : withoutIcons s = text := by
  have hlead : Decorated [icon] (strip s).toList text.toList := by
    rw [hs]
    exact .icon icon hblanks (.bare _)
  exact withoutIcons_ordered hlead (List.singleton_sublist.mpr hicon) htext hplain

end Syllabus.Label
