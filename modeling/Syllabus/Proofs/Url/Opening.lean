/-
  Syllabus.Proofs.Url.Opening
  ───────────────────────────
  **HOW A WEB ADDRESS OPENS, AND HOW IT IS WRITTEN.**

  A text counts as a web address for what is left of it without blanks around
  it, without control characters in front and without tabs and line ends.
  That opens with a scheme of the web and two slashes.  The text as it is
  written need not: it does so exactly if nothing is dropped from it up to
  its second slash.

      Url.opensWeb          a text opens with `http://` or `https://`
      Url.upToSlash         a text up to one of its slashes
      opensWeb_of_isWeb     what is read of a web address opens so
      opensWeb_iff_bare     when the address as it is written does, too
-/
import Syllabus.Proofs.Text.Trimming

namespace Syllabus.Url

/-! ## §1. Openings. -/

/-- Whether a text opens with a scheme of the web, a colon and two slashes, in letters of either
case. -/
def opensWeb (cs : List Char) : Bool :=
  webSchemes.any fun scheme => (scheme ++ [':', '/', '/']).isPrefixOf (cs.map Char.toLower)

/-- What of a text is read as a URL. -/
def readable (url : String) : List Char := cleaned (Text.strip url).toList

/-- A text up to its slash of some number, with that slash; all of it if it has fewer. -/
def upToSlash : Nat → List Char → List Char
  | 0, _ => []
  | _ + 1, [] => []
  | n + 1, c :: rest => c :: upToSlash (if c = '/' then n else n + 1) rest

/-- Whether a character is a blank or a control character, as they are dropped around a URL. -/
def isDroppable (c : Char) : Bool := Text.isBlankChar c || decide (c.toNat ≤ 0x20)

/-- Nothing that could be dropped stands in a text up to its second slash. -/
def Bare (url : String) : Prop := ∀ c ∈ upToSlash 2 url.toList, isDroppable c = false

theorem cutAt_eq_some {sep : Char} {cs before after : List Char}
    (h : Text.cutAt sep cs = some (before, after)) : cs = before ++ sep :: after := by
  unfold Text.cutAt at h
  cases hdrop : cs.dropWhile (· != sep) with
  | nil =>
      rw [hdrop] at h
      cases h
  | cons c rest =>
      rw [hdrop] at h
      cases h
      have hsep : c = sep := by
        have hnot := List.head?_dropWhile_not (· != sep) cs
        rw [hdrop] at hnot
        simpa using hnot
      have happend := List.takeWhile_append_dropWhile (p := (· != sep)) (l := cs)
      rw [hdrop, hsep] at happend
      exact happend.symm

theorem cutAt_append {sep : Char} {before : List Char} (h : sep ∉ before) (after : List Char) :
    Text.cutAt sep (before ++ sep :: after) = some (before, after) := by
  have hkept : ∀ c ∈ before, (c != sep) = true := by
    intro c hc
    rw [bne_iff_ne]
    rintro rfl
    exact h hc
  have hsep : ¬ (sep != sep) = true := by simp
  unfold Text.cutAt
  rw [List.dropWhile_append_of_pos hkept, List.takeWhile_append_of_pos hkept,
    List.dropWhile_cons_of_neg (p := (· != sep)) hsep,
    List.takeWhile_cons_of_neg (p := (· != sep)) hsep, List.append_nil]

/-- A scheme that is found stands in front, in letters of either case. -/
theorem scheme_of_takeScheme {cs scheme rest : List Char} (h : takeScheme cs = (scheme, rest))
    (hne : scheme ≠ []) : ∃ raw, cs = raw ++ ':' :: rest ∧ raw.map Char.toLower = scheme := by
  unfold takeScheme at h
  split at h
  · rename_i c raw after hcut
    split at h
    · cases h
      exact ⟨c :: raw, cutAt_eq_some hcut, rfl⟩
    · cases h
      exact absurd rfl hne
  · cases h
    exact absurd rfl hne

/-- An authority that is found stands behind two slashes. -/
theorem slashes_of_takeAuthority {cs : List Char} (h : takeAuthority cs ≠ []) :
    ∃ rest, cs = '/' :: '/' :: rest := by
  unfold takeAuthority at h
  split at h
  · exact ⟨_, rfl⟩
  · exact absurd rfl h

/-- What is read of a web address is a scheme of the web, a colon, two slashes, and more. -/
theorem readable_of_isWeb {url : String} (h : isWeb url = true) : ∃ raw rest,
    readable url = raw ++ ':' :: '/' :: '/' :: rest ∧ raw.map Char.toLower ∈ webSchemes := by
  cases hscheme : takeScheme (readable url) with
  | mk scheme rest =>
      have hread : takeScheme (cleaned (Text.strip url).toList) = (scheme, rest) := hscheme
      unfold isWeb at h
      cases hfault : authorityFault? (takeAuthority rest) with
      | some fault =>
          have hsplit : split (Text.strip url) = .error fault := by
            simp only [split, hread, hfault]
          rw [hsplit] at h
          cases h
      | none =>
          have hsplit : split (Text.strip url) = .ok ⟨scheme, takeAuthority rest⟩ := by
            simp only [split, hread, hfault]
          rw [hsplit] at h
          obtain ⟨hknown, hauthority⟩ := (Bool.and_eq_true _ _).mp h
          have hmem : scheme ∈ webSchemes := List.contains_iff_mem.mp hknown
          have hne : scheme ≠ [] := by
            rintro rfl
            exact absurd hmem (by decide)
          obtain ⟨raw, hraw, rfl⟩ := scheme_of_takeScheme hscheme hne
          obtain ⟨after, rfl⟩ := slashes_of_takeAuthority (show takeAuthority rest ≠ [] by simpa using hauthority)
          exact ⟨raw, after, hraw, hmem⟩

/-- What is read of a web address opens with a scheme of the web. -/
theorem opensWeb_of_isWeb {url : String} (h : isWeb url = true) : opensWeb (readable url) = true := by
  obtain ⟨raw, rest, hread, hscheme⟩ := readable_of_isWeb h
  refine List.any_eq_true.mpr ⟨_, hscheme, List.isPrefixOf_iff_prefix.mpr ⟨rest.map Char.toLower, ?_⟩⟩
  rw [hread]
  simp

/-! ## §2. A text up to its second slash. -/

theorem prefix_upToSlash (n : Nat) (cs : List Char) : upToSlash n cs <+: cs := by
  induction cs generalizing n with
  | nil => cases n <;> exact List.prefix_rfl
  | cons c rest ih =>
      cases n with
      | zero => exact List.nil_prefix
      | succ n => exact (List.prefix_cons_inj c).mpr (ih _)

theorem toLower_cases (c : Char) :
    c.toLower = c ∨ (65 ≤ c.toNat ∧ c.toNat ≤ 90) ∧ c.toLower.toNat = c.toNat + 32 := by
  unfold Char.toLower
  split
  · rename_i h
    have hfirst : 65 ≤ c.toNat := UInt32.le_iff_toNat_le.mp h.1
    have hlast : c.toNat ≤ 90 := UInt32.le_iff_toNat_le.mp h.2
    refine .inr ⟨⟨hfirst, hlast⟩, ?_⟩
    show (c.val + _).toNat = c.toNat + 32
    rw [UInt32.toNat_add]
    show (c.toNat + 32) % 2 ^ 32 = c.toNat + 32
    omega
  · exact .inl rfl

theorem toLower_eq_slash_iff (c : Char) : c.toLower = '/' ↔ c = '/' := by
  constructor
  · intro h
    rcases toLower_cases c with hsame | ⟨⟨hfirst, _⟩, hlower⟩
    · rw [← hsame, h]
    · rw [h] at hlower
      have hslash : '/'.toNat = 47 := rfl
      omega
  · rintro rfl
    rfl

theorem upToSlash_map_toLower (n : Nat) (cs : List Char) :
    upToSlash n (cs.map Char.toLower) = (upToSlash n cs).map Char.toLower := by
  induction cs generalizing n with
  | nil => cases n <;> rfl
  | cons c rest ih =>
      cases n with
      | zero => rfl
      | succ n =>
          show c.toLower :: upToSlash (if c.toLower = '/' then n else n + 1) (rest.map Char.toLower)
            = c.toLower :: (upToSlash (if c = '/' then n else n + 1) rest).map Char.toLower
          rw [ih, if_congr (toLower_eq_slash_iff c) rfl rfl]

/-- How a text opens is decided by what it is up to its second slash. -/
theorem opensWeb_iff_upToSlash (cs : List Char) :
    opensWeb cs = true
      ↔ ∃ scheme ∈ webSchemes, (upToSlash 2 cs).map Char.toLower = scheme ++ [':', '/', '/'] := by
  have hschemes : ∀ scheme ∈ webSchemes, ∀ rest,
      upToSlash 2 ((scheme ++ [':', '/', '/']) ++ rest) = scheme ++ [':', '/', '/'] := by
    intro scheme hscheme rest
    simp only [webSchemes, List.mem_cons, List.not_mem_nil, or_false] at hscheme
    rcases hscheme with rfl | rfl <;> simp [upToSlash]
  rw [opensWeb, List.any_eq_true]
  refine exists_congr fun scheme => and_congr_right fun hscheme => ?_
  rw [List.isPrefixOf_iff_prefix]
  constructor
  · rintro ⟨rest, hrest⟩
    rw [← upToSlash_map_toLower, ← hrest, hschemes scheme hscheme]
  · intro h
    rw [← h]
    exact (prefix_upToSlash 2 cs).map Char.toLower

/-! ## §3. What is dropped. -/

/-- A character that keeps its place when a URL is read keeps a text as it is up to a slash. -/
theorem upToSlash_filter {p : Char → Bool} {n : Nat} {cs : List Char}
    (h : ∀ c ∈ upToSlash n cs, p c = true) : upToSlash n (cs.filter p) = upToSlash n cs := by
  induction cs generalizing n with
  | nil => rfl
  | cons c rest ih =>
      cases n with
      | zero => cases (c :: rest).filter p <;> rfl
      | succ n =>
          rw [List.filter_cons_of_pos (h c List.mem_cons_self)]
          show c :: upToSlash _ (rest.filter p) = c :: upToSlash _ rest
          rw [ih fun d hd => h d (List.mem_cons_of_mem c hd)]

theorem upToSlash_dropWhile {p : Char → Bool} {n : Nat} {cs : List Char}
    (h : ∀ c ∈ upToSlash (n + 1) cs, p c = false) :
    upToSlash (n + 1) (cs.dropWhile p) = upToSlash (n + 1) cs := by
  cases cs with
  | nil => rfl
  | cons c rest =>
      rw [List.dropWhile_cons_of_neg]
      rw [h c List.mem_cons_self]
      exact Bool.false_ne_true

theorem upToSlash_append {p : Char → Bool} {n : Nat} {cs tail : List Char}
    (htail : ∀ c ∈ tail, p c = true) (h : ∀ c ∈ upToSlash n (cs ++ tail), p c = false) :
    upToSlash n (cs ++ tail) = upToSlash n cs := by
  induction cs generalizing n with
  | nil =>
      cases n with
      | zero => cases tail <;> rfl
      | succ n =>
          cases tail with
          | nil => rfl
          | cons c rest =>
              have hfalse := h c List.mem_cons_self
              rw [htail c List.mem_cons_self] at hfalse
              cases hfalse
  | cons c rest ih =>
      cases n with
      | zero => rfl
      | succ n =>
          show c :: upToSlash _ (rest ++ tail) = c :: upToSlash _ rest
          rw [ih fun d hd => h d (List.mem_cons_of_mem c hd)]

theorem isBlankChar_of_not_droppable {c : Char} (h : isDroppable c = false) :
    Text.isBlankChar c = false := (Bool.or_eq_false_iff.mp h).1

theorem control_of_not_droppable {c : Char} (h : isDroppable c = false) :
    decide (c.toNat ≤ 0x20) = false := (Bool.or_eq_false_iff.mp h).2

/-- Of a bare text the part that matters is read as it stands. -/
theorem Bare.upToSlash_readable {url : String} (h : Bare url) :
    upToSlash 2 (readable url) = upToSlash 2 url.toList := by
  -- Blanks in front, blanks at the end, control characters in front, tabs and line ends: in turn.
  have hstart : upToSlash 2 (Text.stripStart url.toList) = upToSlash 2 url.toList :=
    upToSlash_dropWhile fun c hc => isBlankChar_of_not_droppable (h c hc)
  obtain ⟨blanks, hblanks, hall⟩ := Text.stripEnd_append (Text.stripStart url.toList)
  have hstrip : upToSlash 2 (Text.stripChars url.toList) = upToSlash 2 url.toList := by
    rw [← hstart]
    conv => rhs; rw [hblanks]
    refine (upToSlash_append hall fun c hc => ?_).symm
    rw [show Text.stripChars url.toList ++ blanks = Text.stripStart url.toList from hblanks.symm,
      hstart] at hc
    exact isBlankChar_of_not_droppable (h c hc)
  have hfront : upToSlash 2 ((Text.stripChars url.toList).dropWhile fun c => decide (c.toNat ≤ 0x20))
      = upToSlash 2 url.toList := by
    rw [← hstrip]
    refine upToSlash_dropWhile fun c hc => ?_
    rw [hstrip] at hc
    exact control_of_not_droppable (h c hc)
  unfold readable cleaned
  rw [Text.toList_strip, ← hfront]
  refine upToSlash_filter fun c hc => ?_
  rw [hfront] at hc
  have hcontrol := control_of_not_droppable (h c hc)
  have hne : ∀ d : Char, isDroppable d = true → c ≠ d := by
    rintro d hd rfl
    rw [h c hc] at hd
    cases hd
  simp [hne '\t' (by decide), hne '\n' (by decide), hne '\r' (by decide)]

/-- What is a letter, a colon or a slash in small letters is not dropped. -/
theorem not_droppable_of_toLower {c : Char}
    (h : c.toLower ∈ ['h', 't', 'p', 's', ':', '/']) : isDroppable c = false := by
  rcases toLower_cases c with hsame | ⟨⟨hfirst, hlast⟩, _⟩
  · rw [hsame] at h
    have hall : ['h', 't', 'p', 's', ':', '/'].all (fun d => !isDroppable d) = true := by decide
    simpa using List.all_eq_true.mp hall c h
  · simp only [isDroppable, Text.isBlankChar, Text.inRanges, Text.blankRanges, List.any_cons,
      List.any_nil, Bool.or_eq_false_iff, Bool.and_eq_false_iff, decide_eq_false_iff_not, and_true]
    omega

/-- **How a web address is written.**

The text of a web address, as it is written, opens with a scheme of the web exactly if no blank and
no control character stands in it up to its second slash. -/
theorem opensWeb_iff_bare {url : String} (h : isWeb url = true) :
    opensWeb url.toList = true ↔ Bare url := by
  constructor
  · intro hopens
    obtain ⟨scheme, hscheme, hhead⟩ := (opensWeb_iff_upToSlash _).mp hopens
    intro c hc
    have hlower : c.toLower ∈ scheme ++ [':', '/', '/'] := by
      rw [← hhead]
      exact List.mem_map_of_mem hc
    have hletters : webSchemes.all (fun scheme => (scheme ++ [':', '/', '/']).all fun d =>
        ['h', 't', 'p', 's', ':', '/'].contains d) = true := by decide
    have hletter := List.all_eq_true.mp (List.all_eq_true.mp hletters scheme hscheme) _ hlower
    exact not_droppable_of_toLower (List.contains_iff_mem.mp hletter)
  · intro hbare
    obtain ⟨scheme, hscheme, hhead⟩ := (opensWeb_iff_upToSlash _).mp (opensWeb_of_isWeb h)
    rw [hbare.upToSlash_readable] at hhead
    exact (opensWeb_iff_upToSlash _).mpr ⟨scheme, hscheme, hhead⟩

end Syllabus.Url
