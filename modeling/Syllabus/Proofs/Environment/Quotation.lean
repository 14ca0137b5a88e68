/-
  Syllabus.Proofs.Environment.Quotation
  ─────────────────────────────────────
  **A VALUE IN QUOTES IS READ AS IT IS.**

  What a line is searched for, in turn, is blanks at its ends, a comment, the
  word in front of an assignment, the equals sign, and quotes or a comment
  around the value.  In a line with a plain key and a value in quotes none of
  these is found in the wrong place, whatever the value is: the key stands in
  front of the first equals sign, and the outer quotes are the first and the
  last character behind it.  So what is written down like that is loaded again.

      Entry               a key, a value, and the quote around the value
      assignment?_line    the line of an entry assigns the value to the key
      load_written        a file of such lines sets these variables
-/
import Mathlib.Data.List.Nodup
import Syllabus.Proofs.Environment.Precedence
import Syllabus.Proofs.Text.Utf8

namespace Syllabus

namespace EnvironmentFile

/-! ## §1. Entries. -/

/-- A key, a value, and the quote around the value. -/
structure Entry where
  /-- The key. -/
  key : String
  /-- The value. -/
  value : String
  /-- The quote. -/
  quote : Char
  deriving DecidableEq, Repr

/-- The line of an entry. -/
def Entry.line (a : Entry) : String :=
  a.key ++ "=" ++ String.singleton a.quote ++ a.value ++ String.singleton a.quote

/-- An entry that can be written on a line. -/
structure Entry.Writable (a : Entry) : Prop where
  /-- There is a key. -/
  someKey : a.key ≠ ""
  /-- It has no blank, no equals sign and no null character. -/
  plainKey : ∀ c ∈ a.key.toList, Text.isBlankChar c = false ∧ c ≠ '=' ∧ c ≠ '\x00'
  /-- It does not start like a comment. -/
  noComment : a.key.toList.head? ≠ some '#'
  /-- No line end is in the value. -/
  oneLine : Text.OneLine a.value
  /-- The value has no null character. -/
  plainValue : '\x00' ∉ a.value.toList
  /-- The quote is a double or a single one. -/
  someQuote : a.quote = '\x22' ∨ a.quote = '\x27'

variable {a : Entry}

theorem Entry.toList_line (a : Entry) :
    a.line.toList = a.key.toList ++ '=' :: (a.quote :: (a.value.toList ++ [a.quote])) := by
  simp [Entry.line]

theorem Entry.Writable.visibleQuote (h : a.Writable) : Text.isBlankChar a.quote = false := by
  rcases h.someQuote with hquote | hquote <;> rw [hquote] <;> decide

/-- A value in quotes has visible ends. -/
theorem Entry.Writable.quoted_trimmed (h : a.Writable) :
    Text.Trimmed (a.quote :: (a.value.toList ++ [a.quote])) := by
  refine ⟨?_, ?_⟩
  · rintro c ⟨⟩
    exact h.visibleQuote
  · intro c hc
    rw [← List.cons_append, List.getLast?_concat] at hc
    cases hc
    exact h.visibleQuote

theorem Entry.Writable.key_trimmed (h : a.Writable) : Text.Trimmed a.key.toList :=
  ⟨fun c hc => (h.plainKey c (List.mem_of_head? hc)).1,
    fun c hc => (h.plainKey c (List.mem_of_getLast? hc)).1⟩

theorem Entry.Writable.key_ne_nil (h : a.Writable) : a.key.toList ≠ [] := by
  rw [Ne, String.toList_eq_nil_iff]
  exact h.someKey

/-- No blank stands around the line. -/
theorem Entry.Writable.line_trimmed (h : a.Writable) : Text.Trimmed a.line.toList := by
  rw [a.toList_line]
  have hrest : a.key.toList ++ '=' :: (a.quote :: (a.value.toList ++ [a.quote]))
      = a.key.toList ++ (['='] ++ (a.quote :: (a.value.toList ++ [a.quote]))) := rfl
  rw [hrest]
  exact Text.trimmed_between h.key_trimmed h.key_ne_nil h.quoted_trimmed (List.cons_ne_nil _ _) _

/-! ## §2. Reading the line. -/

/-- The word in front of an assignment ends in a blank, and no key has one. -/
theorem Entry.Writable.withoutExport_line (h : a.Writable) :
    withoutExport a.line.toList = a.line.toList := by
  unfold withoutExport
  rw [if_neg]
  rw [List.isPrefixOf_iff_prefix]
  rintro ⟨rest, hrest⟩
  -- Up to the equals sign the line is the key, and the word would stand in front of it.
  have hkey : a.line.toList.takeWhile (· != '=') = a.key.toList := by
    rw [a.toList_line, List.takeWhile_append_of_pos fun c hc => bne_iff_ne.mpr (h.plainKey c hc).2.1,
      List.takeWhile_cons_of_neg (by simp), List.append_nil]
  have hword : ∀ c ∈ exportMark, (c != '=') = true := List.all_eq_true.mp (by decide)
  rw [← hrest, List.takeWhile_append_of_pos hword] at hkey
  have hblank : ' ' ∈ a.key.toList := by
    rw [← hkey]
    exact List.mem_append_left _ (by decide)
  exact absurd (h.plainKey ' ' hblank).1 (by decide)

theorem valueOf_quoted {quote : Char} (hquote : quote = '\x22' ∨ quote = '\x27') (cs : List Char) :
    valueOf (quote :: (cs ++ [quote])) = cs := by
  have hquoted : isQuoted (quote :: (cs ++ [quote])) = true := by
    unfold isQuoted
    rw [← List.cons_append, List.getLast?_concat]
    rcases hquote with rfl | rfl <;> simp
  unfold valueOf
  rw [if_pos hquoted, List.tail_cons, List.dropLast_concat]

/-- **The line of an entry assigns the value to the key.** -/
theorem Entry.Writable.assignment?_line (h : a.Writable) :
    assignment? a.line = some (a.key, a.value) := by
  have hnoComment : a.line.toList.head? ≠ some '#' := by
    obtain ⟨c, rest, hkey⟩ := List.exists_cons_of_ne_nil h.key_ne_nil
    have hfirst := h.noComment
    rw [hkey] at hfirst
    rw [a.toList_line, hkey]
    exact hfirst
  have hcut : Text.cutAt '=' a.line.toList
      = some (a.key.toList, a.quote :: (a.value.toList ++ [a.quote])) := by
    rw [a.toList_line]
    exact Url.cutAt_append (fun hmem => (h.plainKey '=' hmem).2.1 rfl) _
  unfold assignment?
  dsimp only
  rw [Text.stripChars_of_trimmed h.line_trimmed, if_neg hnoComment, h.withoutExport_line, hcut]
  dsimp only
  rw [Text.stripChars_of_trimmed h.key_trimmed, Text.stripChars_of_trimmed h.quoted_trimmed,
    valueOf_quoted h.someQuote, String.ofList_toList, String.ofList_toList, if_neg]
  rw [List.isEmpty_iff]
  exact h.key_ne_nil

/-! ## §3. Loading the file. -/

variable {entries : List Entry} {text : String}

theorem assignments_written (hwritable : ∀ a ∈ entries, a.Writable)
    (htext : Text.Written (entries.map Entry.line) text) :
    assignments text = entries.map fun a => (a.key, a.value) := by
  unfold assignments
  rw [Text.lines_of_written htext]
  clear htext
  induction entries with
  | nil => rfl
  | cons a rest ih =>
      rw [List.forall_mem_cons] at hwritable
      rw [List.map_cons, List.filterMap_cons_some hwritable.1.assignment?_line, ih hwritable.2]
      rfl

theorem noNull_written (hwritable : ∀ a ∈ entries, a.Writable) :
    NoNull (entries.map fun a => (a.key, a.value)) := by
  intro pair hpair
  obtain ⟨a, ha, rfl⟩ := List.mem_map.mp hpair
  have h := hwritable a ha
  unfold hasNull
  rw [Bool.eq_false_iff, Bool.eq_false_iff, Ne, Ne, List.contains_iff_mem, List.contains_iff_mem]
  exact ⟨fun hnull => (h.plainKey _ hnull).2.2 rfl, h.plainValue⟩

theorem eraseDups_of_nodup {names : List String} (h : names.Nodup) : names.eraseDups = names := by
  induction names with
  | nil => rfl
  | cons first rest ih =>
      rw [List.nodup_cons] at h
      rw [List.eraseDups_cons, List.filter_eq_self.mpr, ih h.2]
      intro name hname
      rw [Bool.not_eq_true', beq_eq_false_iff_ne]
      rintro rfl
      exact h.1 hname

/-- **WHAT IS WRITTEN IN QUOTES IS LOADED.**

Let the lines of a text be those of entries with keys of their own, none of which the environment has.
Then loading the text sets each key to its value and reports the keys in order, and every other
variable is as it was. -/
theorem load_written {e : Environment} (hwritable : ∀ a ∈ entries, a.Writable)
    (hdistinct : (entries.map Entry.key).Nodup) (hnew : ∀ a ∈ entries, e.get? a.key = none)
    (htext : Text.Written (entries.map Entry.line) text) (override : Bool) :
    ∃ l, load override e (some (Text.encode text)) = .ok l
      ∧ l.keys = entries.map Entry.key
      ∧ (∀ a ∈ entries, l.environment.get? a.key = some a.value)
      ∧ ∀ name, name ∉ entries.map Entry.key → l.environment.get? name = e.get? name := by
  have hload := load_text (Text.decode_encode text) override e
  rw [assignments_written hwritable htext] at hload
  have hkeys : (entries.map fun a => (a.key, a.value)).map Prod.fst = entries.map Entry.key := by
    rw [List.map_map]
    rfl
  have hmem : ∀ a ∈ entries, (a.key, a.value) ∈ entries.map fun a => (a.key, a.value) :=
    fun a ha => List.mem_map_of_mem ha
  cases override with
  | false =>
      obtain ⟨l, hl, hkeeping⟩ := carryOut_keeping e (noNull_written hwritable)
      have hall : l.keys = entries.map Entry.key := by
        rw [hkeeping.keys, hkeys, List.filter_eq_self.mpr, eraseDups_of_nodup hdistinct]
        intro name hname
        obtain ⟨a, ha, rfl⟩ := List.mem_map.mp hname
        rw [hnew a ha]
        rfl
      refine ⟨l, hload.trans hl, hall, fun a ha => ?_, fun name hname => ?_⟩
      · rw [hkeeping.values, hnew a ha, Environment.get?_of_mem (hkeys ▸ hdistinct) (hmem a ha)]
        rfl
      · exact hkeeping.frame (hall ▸ hname)
  | true =>
      obtain ⟨l, hl, hoverriding⟩ := carryOut_overriding e (noNull_written hwritable)
      have hall : l.keys = entries.map Entry.key := hoverriding.keys.trans hkeys
      refine ⟨l, hload.trans hl, hall, fun a ha => ?_, fun name hname => ?_⟩
      · have hreverse : ((entries.map fun a => (a.key, a.value)).reverse.map Prod.fst).Nodup := by
          rw [List.map_reverse, hkeys, List.nodup_reverse]
          exact hdistinct
        rw [hoverriding.values, Environment.get?_of_mem hreverse (List.mem_reverse.mpr (hmem a ha))]
        rfl
      · exact hoverriding.frame (hall ▸ hname)

/-- Values with a comment, an equals sign and quotes in them, and the word for a key. -/
def trickyEntries : List Entry :=
  [⟨"A", " #=\x22", '\x22'⟩, ⟨"export", "'x' # y", '\x27'⟩]

/-- The entries below each other, with different line breaks. -/
def trickyText : String := "A=\x22 #=\x22\x22\nexport=''x' # y'\r\n"

theorem load_written_tricky :
    (∀ a ∈ trickyEntries, a.Writable) ∧ (trickyEntries.map Entry.key).Nodup
    ∧ (∀ a ∈ trickyEntries, Environment.get? a.key [("B", "old")] = none)
    ∧ Text.Written (trickyEntries.map Entry.line) trickyText
    ∧ ∃ l, load false [("B", "old")] (some (Text.encode trickyText)) = .ok l
      ∧ l.keys = ["A", "export"]
      ∧ (∀ a ∈ trickyEntries, l.environment.get? a.key = some a.value)
      ∧ ∀ name, name ∉ trickyEntries.map Entry.key →
        l.environment.get? name = Environment.get? name [("B", "old")] := by
  have hwritable : ∀ a ∈ trickyEntries, a.Writable := by
    have hplain : ∀ c ∈ ['A', 'e', 'x', 'p', 'o', 'r', 't'],
        Text.isBlankChar c = false ∧ c ≠ '=' ∧ c ≠ '\x00' := by
      simp only [List.forall_mem_cons, List.not_mem_nil, false_implies, implies_true, and_true]
      decide
    intro a ha
    simp only [trickyEntries, List.mem_cons, List.not_mem_nil, or_false] at ha
    rcases ha with rfl | rfl
    · refine ⟨by decide, fun c hc => hplain c ?_, by decide, by decide, by decide, by decide⟩
      exact List.mem_of_mem_take (i := 1) hc
    · refine ⟨by decide, fun c hc => hplain c ?_, by decide, by decide, by decide, by decide⟩
      exact List.mem_cons_of_mem _ hc
  have hdistinct : (trickyEntries.map Entry.key).Nodup := by decide
  have hnew : ∀ a ∈ trickyEntries, Environment.get? a.key [("B", "old")] = none := by decide
  have hlines : trickyEntries.map Entry.line = ["A=\x22 #=\x22\x22", "export=''x' # y'"] := by decide
  have hsplit : trickyText = "A=\x22 #=\x22\x22" ++ String.ofList ['\n']
      ++ ("export=''x' # y'" ++ String.ofList ['\r', '\n'] ++ "") := by decide
  have htext : Text.Written (trickyEntries.map Entry.line) trickyText := by
    rw [hlines, hsplit]
    exact .next (by decide) (.single (by decide) (by decide)) (.next (by decide) .pair .none)
  exact ⟨hwritable, hdistinct, hnew, htext, load_written hwritable hdistinct hnew htext false⟩

end EnvironmentFile

end Syllabus
