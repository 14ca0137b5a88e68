/-
  Syllabus.Proofs.Url.Slashes
  ───────────────────────────
  **A WEB ADDRESS WITHOUT THE SLASHES AT ITS END.**

  A base address is kept without the slashes at its end.  It stays a web
  address, except in one case: the slashes stood right behind the authority,
  and the authority ended in blanks.  Then the blanks are at the end of the
  text, and are trimmed with it; and what is left of the authority may be
  nothing, or may be refused.

      getLast?_withoutSlashes   the slashes are gone
      Opens                     the scheme, the authority and the rest of a text
      readable_withoutSlashes   what is read without the slashes
      isWeb_withoutSlashes_iff  when that is a web address
-/
import Syllabus.Proofs.Url.Opening
import Syllabus.Url.Base

namespace Syllabus.Url

open Text (stripStart stripEnd stripChars)

/-! ## §1. Slashes at the end. -/

theorem withoutSlashes_append (s : String) : ∃ slashes,
    s.toList = (Base.withoutSlashes s).toList ++ slashes ∧ ∀ c ∈ slashes, c = '/' := by
  refine ⟨(s.toList.reverse.takeWhile (· = '/')).reverse, ?_, ?_⟩
  · unfold Base.withoutSlashes
    rw [String.toList_ofList, ← List.reverse_append, List.takeWhile_append_dropWhile,
      List.reverse_reverse]
  · intro c hc
    have hslash := List.mem_takeWhile_imp (List.mem_reverse.mp hc)
    simpa using hslash

/-- No slash is left at the end. -/
theorem getLast?_withoutSlashes (s : String) :
    (Base.withoutSlashes s).toList.getLast? ≠ some '/' := by
  intro hlast
  unfold Base.withoutSlashes at hlast
  rw [String.toList_ofList, List.getLast?_reverse] at hlast
  have hnot := List.head?_dropWhile_not (fun c => decide (c = '/')) s.toList.reverse
  rw [hlast] at hnot
  simp at hnot

/-! ## §2. How a web address is cut up. -/

/-- A text is a scheme of the web, two slashes, an authority and the rest. -/
structure Opens (cs raw authority rest : List Char) : Prop where
  /-- The parts in their order. -/
  text : cs = raw ++ ':' :: '/' :: '/' :: (authority ++ rest)
  /-- The scheme, in letters of either case. -/
  scheme : raw.map Char.toLower ∈ webSchemes
  /-- No character of the authority ends it. -/
  inside : ∀ c ∈ authority, endsAuthority c = false
  /-- The first one behind it does. -/
  behind : ∀ c, rest.head? = some c → endsAuthority c = true

/-- The letters of a scheme of the web, in either case. -/
theorem alpha_of_toLower {c : Char} (h : c.toLower ∈ ['h', 't', 'p', 's']) : c.isAlpha = true := by
  rcases toLower_cases c with hsame | ⟨⟨hfirst, hlast⟩, _⟩
  · rw [hsame] at h
    have hall : ∀ d ∈ ['h', 't', 'p', 's'], d.isAlpha = true := List.all_eq_true.mp (by decide)
    exact hall c h
  · unfold Char.isAlpha Char.isUpper
    rw [Bool.or_eq_true]
    left
    simp only [decide_eq_true_eq, ge_iff_le, UInt32.le_iff_toNat_le]
    exact ⟨hfirst, hlast⟩

theorem Opens.takeScheme_eq {cs raw authority rest : List Char} (h : Opens cs raw authority rest) :
    takeScheme cs = (raw.map Char.toLower, '/' :: '/' :: (authority ++ rest)) := by
  have hletters : ∀ scheme ∈ webSchemes, scheme ⊆ ['h', 't', 'p', 's'] := by decide
  have halpha : ∀ c ∈ raw, c.isAlpha = true := fun c hc =>
    alpha_of_toLower (hletters _ h.scheme (List.mem_map_of_mem hc))
  have hcolon : ':' ∉ raw := fun hmem => absurd (halpha ':' hmem) (by decide)
  have hne : raw ≠ [] := by
    rintro rfl
    exact absurd h.scheme (by decide)
  obtain ⟨c, scheme, rfl⟩ := List.exists_cons_of_ne_nil hne
  have hvalid : (c.isAlpha && scheme.all isSchemeChar) = true := by
    rw [Bool.and_eq_true, List.all_eq_true]
    refine ⟨halpha c List.mem_cons_self, fun d hd => ?_⟩
    unfold isSchemeChar Char.isAlphanum
    rw [halpha d (List.mem_cons_of_mem c hd)]
    rfl
  unfold takeScheme
  rw [h.text, cutAt_append hcolon]
  dsimp only
  rw [if_pos hvalid]

theorem Opens.takeAuthority_eq {cs raw authority rest : List Char}
    (h : Opens cs raw authority rest) :
    takeAuthority ('/' :: '/' :: (authority ++ rest)) = authority := by
  have hinside : ∀ c ∈ authority, (!endsAuthority c) = true := by
    intro c hc
    rw [h.inside c hc]
    rfl
  show (authority ++ rest).takeWhile _ = authority
  rw [List.takeWhile_append_of_pos hinside]
  cases hrest : rest with
  | nil => rw [List.takeWhile_nil, List.append_nil]
  | cons c rest =>
      have hc : ¬ (!endsAuthority c) = true := by
        rw [h.behind c (by rw [hrest]; rfl)]
        exact Bool.false_ne_true
      rw [List.takeWhile_cons_of_neg (p := fun c => !endsAuthority c) hc, List.append_nil]

/-- What is cut up so is a web address, unless the authority is empty or refused. -/
theorem Opens.isWeb_iff {url : String} {raw authority rest : List Char}
    (h : Opens (readable url) raw authority rest) :
    isWeb url = true ↔ authority ≠ [] ∧ authorityFault? authority = none := by
  have hread : takeScheme (cleaned (Text.strip url).toList)
      = (raw.map Char.toLower, '/' :: '/' :: (authority ++ rest)) := h.takeScheme_eq
  have hknown : webSchemes.contains (raw.map Char.toLower) = true := List.contains_iff_mem.mpr h.scheme
  unfold isWeb split
  rw [hread]
  dsimp only
  rw [h.takeAuthority_eq]
  cases authorityFault? authority with
  | some fault => simp
  | none =>
      show (webSchemes.contains (raw.map Char.toLower) && !authority.isEmpty) = true ↔ _
      rw [hknown, Bool.true_and]
      simp

/-- A web address can be cut up so. -/
theorem opens_of_isWeb {url : String} (h : isWeb url = true) :
    ∃ raw authority rest, Opens (readable url) raw authority rest := by
  obtain ⟨raw, rest, hread, hscheme⟩ := readable_of_isWeb h
  refine ⟨raw, rest.takeWhile fun c => !endsAuthority c, rest.dropWhile fun c => !endsAuthority c, ?_,
    hscheme, fun c hc => ?_, fun c hc => ?_⟩
  · rw [List.takeWhile_append_dropWhile]
    exact hread
  · have hinside := List.mem_takeWhile_imp hc
    simpa using hinside
  · have hnot := List.head?_dropWhile_not (fun c => !endsAuthority c) rest
    rw [hc] at hnot
    simpa using hnot

/-! ## §3. Without the slashes. -/

/-- What is read of an address up to the slashes at its end, blanks in front of these included. -/
def beforeSlashes (url : String) : List Char := cleaned (stripStart (Base.withoutSlashes url).toList)

theorem dropWhile_slashes {p : Char → Bool} (hp : p '/' = false) {slashes : List Char}
    (h : ∀ c ∈ slashes, c = '/') (cs : List Char) :
    (cs ++ slashes).dropWhile p = cs.dropWhile p ++ slashes := by
  have hkept : slashes.dropWhile p = slashes := by
    cases slashes with
    | nil => rfl
    | cons c rest =>
        rw [List.dropWhile_cons_of_neg]
        rw [h c List.mem_cons_self, hp]
        exact Bool.false_ne_true
  rw [List.dropWhile_append, hkept]
  split
  · rename_i hempty
    rw [List.isEmpty_iff.mp hempty, List.nil_append]
  · rfl

/-- Of an address that ends in slashes, these are read behind what is in front of them. -/
theorem readable_slashes {url : String} {slashes : List Char}
    (hurl : url.toList = (Base.withoutSlashes url).toList ++ slashes) (hne : slashes ≠ [])
    (h : ∀ c ∈ slashes, c = '/') : readable url = beforeSlashes url ++ slashes := by
  have hstart : stripStart url.toList = stripStart (Base.withoutSlashes url).toList ++ slashes := by
    rw [hurl]
    exact dropWhile_slashes (by decide) h _
  -- A slash is visible, so with one at its end the text is trimmed in front only.
  have hend : stripChars url.toList = stripStart url.toList := by
    refine Text.stripChars_of_trimmed_end fun c hc => ?_
    rw [hstart, List.getLast?_append, List.getLast?_eq_some_getLast hne] at hc
    cases hc
    rw [h _ (List.getLast_mem hne)]
    decide
  have hfilter : (slashes.filter fun c => c != '\t' && c != '\n' && c != '\r') = slashes := by
    refine List.filter_eq_self.mpr fun c hc => ?_
    rw [h c hc]
    decide
  unfold readable beforeSlashes cleaned
  rw [Text.toList_strip, hend, hstart, dropWhile_slashes (by decide) h, List.filter_append, hfilter]

/-- Without its slashes an address is read up to the blanks in front of them. -/
theorem readable_withoutSlashes (url : String) :
    readable (Base.withoutSlashes url) = stripEnd (beforeSlashes url) := by
  have hdropped : ∀ c : Char, (c != '\t' && c != '\n' && c != '\r') = false →
      Text.isBlankChar c = true := by
    intro c hc
    simp only [Bool.and_eq_false_iff, bne_eq_false_iff_eq] at hc
    rcases hc with (rfl | rfl) | rfl <;> decide
  unfold readable beforeSlashes cleaned
  rw [Text.toList_strip]
  -- The blanks at the end go first here; what is dropped elsewhere does not see whether they did.
  show ((stripEnd (stripStart _)).dropWhile _).filter _ = _
  rw [Text.dropWhile_stripEnd, Text.filter_stripEnd hdropped]

/-- An address that ends in slashes right behind its authority, of which nothing that can be used is
left without the blanks at its end. -/
def Hollow (url : String) : Prop := url.toList.getLast? = some '/'
  ∧ ∃ raw authority, Opens (beforeSlashes url) raw authority []
    ∧ (stripEnd authority = [] ∨ authorityFault? (stripEnd authority) ≠ none)

/-- Where only an authority is in front of the slashes, it ends without blanks when they go. -/
theorem Opens.trimmed {cs raw authority : List Char} (h : Opens cs raw authority []) :
    Opens (stripEnd cs) raw (stripEnd authority) [] where
  text := by
    rw [h.text, List.append_nil, List.append_nil]
    have hbehind := Text.stripEnd_behind (c := '/') (by decide) (raw ++ [':', '/']) authority
    simpa using hbehind
  scheme := h.scheme
  inside := by
    obtain ⟨blanks, hsplit, -⟩ := Text.stripEnd_append authority
    intro c hc
    refine h.inside c ?_
    rw [hsplit]
    exact List.mem_append_left _ hc
  behind := fun _ hc => nomatch hc

/-- Where more is, the authority stays. -/
theorem Opens.kept {cs raw authority rest : List Char} (h : Opens cs raw authority rest)
    (hne : rest ≠ []) : Opens (stripEnd cs) raw authority (stripEnd rest) := by
  obtain ⟨c, rest, rfl⟩ := List.exists_cons_of_ne_nil hne
  -- What ends an authority is visible, and the blanks at the end of the text are behind it.
  have hends := h.behind c rfl
  have hvisible : Text.isBlankChar c = false := by
    have hone : c = '/' ∨ c = '?' ∨ c = '#' := by
      simpa [endsAuthority, or_assoc] using hends
    rcases hone with rfl | rfl | rfl <;> decide
  have hrest : stripEnd (c :: rest) = c :: stripEnd rest := Text.stripEnd_behind hvisible [] rest
  refine ⟨?_, h.scheme, h.inside, ?_⟩
  · have hbehind := Text.stripEnd_behind hvisible (raw ++ ':' :: '/' :: '/' :: authority) rest
    rw [h.text, hrest]
    simpa using hbehind
  · intro d hd
    rw [hrest] at hd
    cases hd
    exact hends

/-- The slashes at the end of a web address are behind its authority. -/
theorem Opens.before {cs slashes raw authority rest : List Char}
    (h : Opens (cs ++ slashes) raw authority rest) (hslashes : ∀ c ∈ slashes, c = '/')
    (hne : authority ≠ []) : ∃ more, Opens cs raw authority more := by
  have hopen : cs ++ slashes = (raw ++ ':' :: '/' :: '/' :: authority) ++ rest := by
    rw [h.text]
    simp
  rcases List.append_eq_append_iff.mp hopen with ⟨more, hfront, hmore⟩ | ⟨more, hcs, hrest⟩
  · -- No slash reaches into the authority: it would end in one.
    cases more.eq_nil_or_concat with
    | inl hnil =>
        rw [hnil, List.append_nil] at hfront
        exact ⟨[], by rw [← hfront, List.append_nil], h.scheme, h.inside, fun _ hc => nomatch hc⟩
    | inr hconcat =>
        obtain ⟨before, c, rfl⟩ := hconcat
        have hslash : c = '/' := by
          refine hslashes c ?_
          rw [hmore]
          simp
        obtain ⟨front, d, rfl⟩ := (authority.eq_nil_or_concat).resolve_left hne
        have hsame : d = c := by
          have hlast := congrArg List.getLast? hfront
          simpa [List.getLast?_append, List.getLast?_cons] using hlast
        have hinside := h.inside d (by simp)
        rw [hsame, hslash] at hinside
        exact absurd hinside (by decide)
  · refine ⟨more, ?_, h.scheme, h.inside, ?_⟩
    · rw [hcs]
      simp
    · intro c hc
      refine h.behind c ?_
      rw [hrest]
      cases more with
      | nil => cases hc
      | cons d more => exact hc

/-- **A web address stays one without the slashes at its end, unless it is hollow.** -/
theorem isWeb_withoutSlashes_iff {url : String} (h : isWeb url = true) :
    isWeb (Base.withoutSlashes url) = true ↔ ¬ Hollow url := by
  obtain ⟨slashes, hurl, hslashes⟩ := withoutSlashes_append url
  constructor
  · -- What is left of a hollow address is read as its scheme and its trimmed authority.
    rintro hweb ⟨-, raw, authority, hopens, hleft⟩
    have htrimmed := hopens.trimmed
    rw [← readable_withoutSlashes] at htrimmed
    obtain ⟨hne, hfault⟩ := htrimmed.isWeb_iff.mp hweb
    exact hleft.elim hne (fun hrefused => hrefused hfault)
  · intro hsolid
    by_cases hnone : slashes = []
    · rw [hnone, List.append_nil] at hurl
      have hsame : Base.withoutSlashes url = url := (String.toList_inj.mp hurl).symm
      rw [hsame]
      exact h
    · have hlast : url.toList.getLast? = some '/' := by
        rw [hurl, List.getLast?_append, List.getLast?_eq_some_getLast hnone,
          hslashes _ (List.getLast_mem hnone)]
        rfl
      obtain ⟨raw, authority, rest, hopens⟩ := opens_of_isWeb h
      obtain ⟨hne, hfault⟩ := hopens.isWeb_iff.mp h
      rw [readable_slashes hurl hnone hslashes] at hopens
      obtain ⟨more, hbefore⟩ := hopens.before hslashes hne
      by_cases hmore : more = []
      · -- The slashes are right behind the authority.
        subst hmore
        have htrimmed := hbefore.trimmed
        rw [← readable_withoutSlashes] at htrimmed
        refine htrimmed.isWeb_iff.mpr ⟨fun hnil => ?_, ?_⟩
        · exact hsolid ⟨hlast, raw, authority, hbefore, .inl hnil⟩
        · by_contra hrefused
          exact hsolid ⟨hlast, raw, authority, hbefore, .inr hrefused⟩
      · have hkept := hbefore.kept hmore
        rw [← readable_withoutSlashes] at hkept
        exact hkept.isWeb_iff.mpr ⟨hne, hfault⟩

example : isWeb "http:// /" = true ∧ isWeb (Base.withoutSlashes "http:// /") = false := by decide

end Syllabus.Url
