/-
  Syllabus.Proofs.Environment.Precedence
  ──────────────────────────────────────
  **WHICH LINE OF A FILE COUNTS.**

  A variable that the environment has keeps its value when a file is loaded,
  unless it is to be overridden.  A variable that it has not gets the value of
  the first line that assigns it, since that line sets it for the lines below;
  so nothing is left to do for a second time.  With overriding, the last line
  counts.

      FirstIn, LastIn    the first and the last line that assigns a variable
      load_precedence    what loading a file comes to
-/
import Syllabus.Proofs.Environment.Assignments
import Syllabus.Proofs.Text.Lines
import Syllabus.Proofs.Text.Trimming
import Syllabus.Proofs.Url.Opening

namespace Syllabus.EnvironmentFile

/-! ## §1. What is assigned stands in the line. -/

variable {line name value : String}

theorem beforeComment?_sublist {cs kept : List Char} (h : beforeComment? cs = some kept) :
    kept.Sublist cs := by
  fun_induction beforeComment? cs generalizing kept with
  | case1 => cases h
  | case2 rest =>
      cases h
      exact List.nil_sublist _
  | case3 c rest _ ih =>
      obtain ⟨kept, hkept, rfl⟩ := Option.map_eq_some_iff.mp h
      exact (ih hkept).cons_cons c

theorem valueOf_sublist (cs : List Char) : (valueOf cs).Sublist cs := by
  unfold valueOf
  split
  · exact (List.dropLast_sublist _).trans (List.tail_sublist _)
  · split
    · rename_i kept hkept
      exact (Text.stripEnd_sublist kept).trans (beforeComment?_sublist hkept)
    · exact List.Sublist.refl _

theorem withoutExport_sublist (cs : List Char) : (withoutExport cs).Sublist cs := by
  unfold withoutExport
  split
  · exact (List.dropWhile_sublist _).trans (List.drop_sublist _ _)
  · exact List.Sublist.refl _

/-- The variable and its value stand in the line, character by character. -/
theorem assignment?_sublist (h : assignment? line = some (name, value)) :
    name.toList.Sublist line.toList ∧ value.toList.Sublist line.toList := by
  unfold assignment? at h
  dsimp only at h
  split at h
  · cases h
  split at h
  · rename_i key text hcut
    split at h
    · cases h
    cases h
    have hline : (key ++ '=' :: text).Sublist line.toList := by
      rw [← Url.cutAt_eq_some hcut]
      exact (withoutExport_sublist _).trans (Text.stripChars_sublist _)
    rw [String.toList_ofList, String.toList_ofList]
    constructor
    · exact (Text.stripChars_sublist key).trans ((List.sublist_append_left _ _).trans hline)
    · have htext : text.Sublist (key ++ '=' :: text) :=
        (List.sublist_cons_self _ _).trans (List.sublist_append_right _ _)
      exact (valueOf_sublist _).trans ((Text.stripChars_sublist text).trans (htext.trans hline))
  · cases h

/-- A text without null characters assigns none. -/
theorem noNull_assignments {text : String} (h : '\x00' ∉ text.toList) :
    NoNull (assignments text) := by
  rintro ⟨name, value⟩ hmem
  obtain ⟨line, hline, hassigns⟩ := List.mem_filterMap.mp hmem
  obtain ⟨hname, hvalue⟩ := assignment?_sublist hassigns
  have hfree : ∀ {s : String}, s.toList.Sublist line.toList → hasNull s = false := by
    intro s hs
    unfold hasNull
    rw [Bool.eq_false_iff, Ne, List.contains_iff_mem]
    exact fun hnull => h (Text.mem_of_mem_lines hline (hs.subset hnull))
  exact ⟨hfree hname, hfree hvalue⟩

/-! ## §2. The first and the last line. -/

/-- The first of some lines that assigns a variable, and the value that it assigns. -/
def FirstIn (lines : List String) (name value : String) : Prop :=
  ∃ before line after, lines = before ++ line :: after ∧ assignment? line = some (name, value)
    ∧ ∀ other ∈ before, ∀ v, assignment? other ≠ some (name, v)

/-- The last of some lines that assigns a variable, and the value that it assigns. -/
def LastIn (lines : List String) (name value : String) : Prop :=
  ∃ before line after, lines = before ++ line :: after ∧ assignment? line = some (name, value)
    ∧ ∀ other ∈ after, ∀ v, assignment? other ≠ some (name, v)

theorem firstIn_of_get? {lines : List String}
    (h : Environment.get? name (lines.filterMap assignment?) = some value) :
    FirstIn lines name value := by
  induction lines with
  | nil => cases h
  | cons line rest ih =>
      -- The line is passed over, unless it assigns the variable.
      have hskip (hother : ∀ v, assignment? line ≠ some (name, v)) (hrest : FirstIn rest name value) :
          FirstIn (line :: rest) name value := by
        obtain ⟨before, first, after, hsplit, hassigns, hbefore⟩ := hrest
        refine ⟨line :: before, first, after, by rw [hsplit]; rfl, hassigns, ?_⟩
        exact List.forall_mem_cons.mpr ⟨hother, hbefore⟩
      cases hline : assignment? line with
      | none =>
          rw [List.filterMap_cons_none hline] at h
          exact hskip (fun v hv => by cases hline.symm.trans hv) (ih h)
      | some found =>
          rw [List.filterMap_cons_some hline, Environment.get?_cons] at h
          by_cases hname : found.1 = name
          · rw [if_pos hname] at h
            refine ⟨[], line, rest, rfl, ?_, fun _ hother => by cases hother⟩
            rw [hline, ← hname, ← Option.some.inj h]
          · rw [if_neg hname] at h
            refine hskip (fun v hv => hname ?_) (ih h)
            cases hline.symm.trans hv
            rfl

theorem lastIn_of_get? {lines : List String}
    (h : Environment.get? name (lines.filterMap assignment?).reverse = some value) :
    LastIn lines name value := by
  rw [← List.filterMap_reverse] at h
  obtain ⟨before, line, after, hsplit, hassigns, hbefore⟩ := firstIn_of_get? h
  refine ⟨after.reverse, line, before.reverse, ?_, hassigns, ?_⟩
  · rw [← List.reverse_reverse lines, hsplit]
    simp
  · intro other hother
    exact hbefore other (List.mem_reverse.mp hother)

/-! ## §3. Loading a file. -/

/-- A line of a text assigns a variable. -/
def IsAssigned (text name : String) : Prop :=
  ∃ line ∈ Text.lines text, ∃ value, assignment? line = some (name, value)

theorem isAssigned_iff {text : String} :
    IsAssigned text name ↔ name ∈ (assignments text).map Prod.fst := by
  unfold IsAssigned assignments
  simp only [List.mem_map, List.mem_filterMap, Prod.exists, exists_and_right, exists_eq_right]
  exact ⟨fun ⟨line, hline, v, hv⟩ => ⟨v, line, hline, hv⟩,
    fun ⟨v, line, hline, hv⟩ => ⟨line, hline, v, hv⟩⟩

/-- What loading a file comes to if nothing is overridden. -/
structure Keeps (text : String) (e : Environment) (l : Loaded) : Prop where
  /-- What was set keeps its value. -/
  kept : ∀ name, e.get? name ≠ none → l.environment.get? name = e.get? name
  /-- No variable is reported twice. -/
  once : l.keys.Nodup
  /-- The variables reported are those that are assigned and were not set. -/
  reported : ∀ name, name ∈ l.keys ↔ IsAssigned text name ∧ e.get? name = none
  /-- Each has the value of the first line that assigns it. -/
  first : ∀ name ∈ l.keys, ∃ value, FirstIn (Text.lines text) name value
    ∧ l.environment.get? name = some value

/-- What loading a file comes to if variables are overridden. -/
structure Overrides (text : String) (l : Loaded) : Prop where
  /-- The variables reported are those that are assigned. -/
  reported : ∀ name, name ∈ l.keys ↔ IsAssigned text name
  /-- Each has the value of the last line that assigns it. -/
  last : ∀ name, IsAssigned text name → ∃ value, LastIn (Text.lines text) name value
    ∧ l.environment.get? name = some value

variable {text : String} {e : Environment} {l : Loaded}

theorem nodup_eraseDups (names : List String) : names.eraseDups.Nodup := by
  induction hlength : names.length using Nat.strong_induction_on generalizing names with
  | _ n ih =>
      cases names with
      | nil => exact List.nodup_nil
      | cons first rest =>
          rw [List.eraseDups_cons, List.nodup_cons]
          refine ⟨?_, ih _ ?_ _ rfl⟩
          · rw [List.mem_eraseDups, List.mem_filter]
            simp
          · have hshort := List.length_filter_le (fun name => !name == first) rest
            rw [← hlength, List.length_cons]
            omega

theorem keeps_of_keeping (h : Keeping e (assignments text) l) : Keeps text e l := by
  have hreported : ∀ name, name ∈ l.keys ↔ IsAssigned text name ∧ e.get? name = none := by
    intro name
    rw [h.mem_keys_iff, isAssigned_iff]
  refine ⟨fun name hset => ?_, ?_, hreported, fun name hname => ?_⟩
  · obtain ⟨old, hold⟩ := Option.ne_none_iff_exists'.mp hset
    rw [h.values, hold]
    rfl
  · rw [h.keys]
    exact nodup_eraseDups _
  · obtain ⟨hassigned, habsent⟩ := (hreported name).mp hname
    obtain ⟨value, hvalue⟩ := Environment.exists_of_mem_keys (isAssigned_iff.mp hassigned)
    refine ⟨value, firstIn_of_get? hvalue, ?_⟩
    rw [h.values, habsent, hvalue]
    rfl

theorem overrides_of_overriding (h : Overriding e (assignments text) l) : Overrides text l := by
  refine ⟨fun name => ?_, fun name hassigned => ?_⟩
  · rw [h.keys, isAssigned_iff]
  · have hgiven : name ∈ (assignments text).reverse.map Prod.fst := by
      rw [List.map_reverse, List.mem_reverse]
      exact isAssigned_iff.mp hassigned
    obtain ⟨value, hvalue⟩ := Environment.exists_of_mem_keys hgiven
    refine ⟨value, lastIn_of_get? hvalue, ?_⟩
    rw [h.values, hvalue]
    rfl

/-- A file that is a text is loaded by its assignments. -/
theorem load_text {bytes : List UInt8} (hdecode : Text.decode bytes = .ok text) (override : Bool)
    (e : Environment) : load override e (some bytes) = carryOut override e (assignments text) := by
  unfold load
  dsimp only
  rw [hdecode]
  rfl

/-- **Which line of a file counts.**

A file that is a text without null characters is loaded, and only the variables that are reported are
changed.  If nothing is overridden, what was set keeps its value, and each variable that is reported
has that of the first line that assigns it; loading the file again reports nothing and changes
nothing.  Otherwise each variable that is assigned has the value of the last line that assigns it. -/
theorem load_precedence {bytes : List UInt8} (hdecode : Text.decode bytes = .ok text)
    (hnull : '\x00' ∉ text.toList) (override : Bool) (e : Environment) :
    ∃ l, load override e (some bytes) = .ok l
      ∧ (∀ name, name ∉ l.keys → l.environment.get? name = e.get? name)
      ∧ (override = false → Keeps text e l
        ∧ load false l.environment (some bytes) = .ok ⟨[], l.environment⟩)
      ∧ (override = true → Overrides text l) := by
  have hfree := noNull_assignments hnull
  cases override with
  | false =>
      obtain ⟨l, hl, hkeeping⟩ := carryOut_keeping e hfree
      refine ⟨l, (load_text hdecode _ _).trans hl, fun _ => hkeeping.frame, fun _ => ?_, nofun⟩
      exact ⟨keeps_of_keeping hkeeping, (load_text hdecode _ _).trans hkeeping.again⟩
  | true =>
      obtain ⟨l, hl, hoverriding⟩ := carryOut_overriding e hfree
      refine ⟨l, (load_text hdecode _ _).trans hl, fun _ => hoverriding.frame, nofun, fun _ => ?_⟩
      exact overrides_of_overriding hoverriding

/-- A variable is assigned twice, and one that was set is assigned too. -/
theorem load_precedence_twice :
    Text.decode (Text.encode "A=1\nA=2\nB=3") = .ok "A=1\nA=2\nB=3"
    ∧ '\x00' ∉ "A=1\nA=2\nB=3".toList
    ∧ load false [("B", "old")] (some (Text.encode "A=1\nA=2\nB=3"))
      = .ok ⟨["A"], [("B", "old"), ("A", "1")]⟩
    ∧ Keeps "A=1\nA=2\nB=3" [("B", "old")] ⟨["A"], [("B", "old"), ("A", "1")]⟩
    ∧ load true [("B", "old")] (some (Text.encode "A=1\nA=2\nB=3"))
      = .ok ⟨["A", "A", "B"], [("B", "3"), ("A", "2")]⟩
    ∧ Overrides "A=1\nA=2\nB=3" ⟨["A", "A", "B"], [("B", "3"), ("A", "2")]⟩ := by
  have hdecode : Text.decode (Text.encode "A=1\nA=2\nB=3") = .ok "A=1\nA=2\nB=3" := by decide
  have hnull : '\x00' ∉ "A=1\nA=2\nB=3".toList := by decide
  have hkept : load false [("B", "old")] (some (Text.encode "A=1\nA=2\nB=3"))
      = .ok ⟨["A"], [("B", "old"), ("A", "1")]⟩ := by decide
  have hoverridden : load true [("B", "old")] (some (Text.encode "A=1\nA=2\nB=3"))
      = .ok ⟨["A", "A", "B"], [("B", "3"), ("A", "2")]⟩ := by decide
  refine ⟨hdecode, hnull, hkept, ?_, hoverridden, ?_⟩
  · obtain ⟨l, hl, -, hkeeps, -⟩ := load_precedence hdecode hnull false [("B", "old")]
    cases hkept.symm.trans hl
    exact (hkeeps rfl).1
  · obtain ⟨l, hl, -, -, hoverrides⟩ := load_precedence hdecode hnull true [("B", "old")]
    cases hoverridden.symm.trans hl
    exact hoverrides rfl

end Syllabus.EnvironmentFile
