/-
  Syllabus.Proofs.Environment.Settings
  ────────────────────────────────────
  **WHAT HOLDS OF SETTINGS THAT ARE LOADED.**

  Settings are loaded from an environment, or a fault is raised.  What is
  loaded is in its range: a batch, the log files, the origins, the address and
  the token.  The timeout is compared with zero, and "not a number" is not at
  most zero; so it is positive unless the environment spells that word.

      ofEnvironment_ok_iff   the settings of an environment, each by its variable
      Loads.sound            they are in their ranges
      Loads.timeout_iff      when the timeout is positive
      loads_or_fails         for every environment
-/
import Syllabus.Environment.Settings
import Syllabus.Proofs.Conversion.Reals
import Syllabus.Proofs.Url.Slashes

namespace Syllabus

/-- A computation that goes on behind another one succeeds if both do. -/
theorem bind_ok_iff {ε α β : Type} {x : Except ε α} {f : α → Except ε β} {b : β} :
    x >>= f = .ok b ↔ ∃ a, x = .ok a ∧ f a = .ok b := by
  cases x with
  | error err =>
      refine ⟨fun h => (by cases h), ?_⟩
      rintro ⟨a, ha, -⟩
      cases ha
  | ok a =>
      refine ⟨fun h => ⟨a, rfl, h⟩, ?_⟩
      rintro ⟨a', ha, h⟩
      cases ha
      exact h

namespace Environment

/-- What is listed is trimmed and visible. -/
theorem visible_of_mem_listed {s o : String} (h : o ∈ listed s) :
    Text.Trimmed o.toList ∧ Text.isBlank o = false := by
  obtain ⟨hmem, hsome⟩ := List.mem_filter.mp h
  obtain ⟨cs, -, rfl⟩ := List.mem_map.mp hmem
  rw [Bool.not_eq_true'] at hsome
  refine ⟨?_, ?_⟩
  · rw [Text.toList_strip]
    exact Text.stripChars_trimmed _
  · rw [← Text.isEmpty_strip, Text.strip_strip]
    exact hsome

end Environment

namespace Settings

variable {e : Environment} {s : Settings}

/-! ## §1. What is loaded. -/

/-- The origins that a variable allows: a list of them, or the one of local work if it is absent or
empty. -/
inductive Allows : Option String → List String → Prop where
  /-- There is no list. -/
  | unlisted {raw : Option String} (h : raw.getD "" = "") : Allows raw ["http://localhost:3000"]
  /-- There is a list. -/
  | listed {text : String} (hne : text ≠ "") (hsome : Environment.listed text ≠ [])
      (hplain : "*" ∉ Environment.listed text) : Allows (some text) (Environment.listed text)

/-- Settings are those of an environment. -/
structure Loads (e : Environment) (s : Settings) : Prop where
  /-- The environment has a name. -/
  environment : s.environment = Text.lower (e.getD "COURSEKIT_ENV" "development")
  /-- Two variables ask for details. -/
  debug : s.debug = (e.flag "COURSEKIT_DEBUG" false || e.flag "DEBUG" false)
  /-- The timeout is a real number. -/
  timeout : Text.readReal? (e.getD "COURSEKIT_NOTION_TIMEOUT_SECONDS" "30") = some s.notionTimeout
  /-- It is not zero or less. -/
  timeoutFits : s.notionTimeout.isNonPositive = false
  /-- The size of a batch is a whole number. -/
  batchSize : Text.readInt (e.getD "COURSEKIT_APPEND_BATCH_SIZE" (toString Notion.maxBatchSize))
    = .ok s.appendBatchSize
  /-- A batch has a block at least, and no more than a request may bring. -/
  batchFits : 1 ≤ s.appendBatchSize ∧ s.appendBatchSize ≤ Notion.maxBatchSize
  /-- The size of a log file is a whole number. -/
  logSize : Text.readInt (e.getD "COURSEKIT_LOG_MAX_BYTES" "5242880") = .ok s.logMaxBytes
  /-- A log file may hold something. -/
  logFits : 0 < s.logMaxBytes
  /-- The number of old log files is a whole number. -/
  backups : Text.readInt (e.getD "COURSEKIT_LOG_BACKUP_COUNT" "10") = .ok s.logBackupCount
  /-- It is not below zero. -/
  backupsFit : 0 ≤ s.logBackupCount
  /-- The origins are listed. -/
  origins : Allows (e.get? "COURSEKIT_ALLOWED_ORIGINS") s.allowedOrigins
  /-- The token is trimmed. -/
  token : s.notionToken = trimmed? (e.get? "NOTION_TOKEN")
  /-- The address is kept without the slashes at its end. -/
  address : s.notionBaseUrl
    = Url.Base.withoutSlashes (e.getD "COURSEKIT_NOTION_BASE_URL" Notion.defaultBaseUrl)
  /-- The version of the interface. -/
  version : s.notionVersion = e.getD "COURSEKIT_NOTION_VERSION" Notion.interfaceVersion
  /-- A variable asks for the faults of those who ask. -/
  clientFaults : s.logClientFaults = e.flag "COURSEKIT_LOG_HTTP_4XX" false

theorem require_ok_iff {condition : Bool} {requirement : Requirement} {u : Unit} :
    require condition requirement = .ok u ↔ condition = true := by
  cases condition <;> simp [require]

theorem realNumber_ok_iff {name absent : String} {x : Binary64} :
    realNumber e name absent = .ok x ↔ Text.readReal? (e.getD name absent) = some x := by
  unfold realNumber
  cases Text.readReal? (e.getD name absent) <;> simp

theorem wholeNumber_ok_iff {name absent : String} {n : Int} :
    wholeNumber e name absent = .ok n ↔ Text.readInt (e.getD name absent) = .ok n := by
  unfold wholeNumber
  cases Text.readInt (e.getD name absent) <;> simp [Except.mapError]

theorem origins_unlisted {raw : Option String} (h : raw.getD "" = "") :
    origins raw = .ok ["http://localhost:3000"] := by
  cases raw with
  | none => rfl
  | some text =>
      have hempty : text = "" := h
      rw [hempty]
      rfl

theorem origins_listed_iff {text : String} (hne : text ≠ "") {os : List String} :
    origins (some text) = .ok os
      ↔ os = Environment.listed text ∧ Environment.listed text ≠ []
        ∧ "*" ∉ Environment.listed text := by
  have hkept : (some text).filter (fun s => !s.isEmpty) = some text := by
    have hsome : text.isEmpty = false := by
      rw [Bool.eq_false_iff, Ne, String.isEmpty_iff]
      exact hne
    rw [Option.filter_some, hsome]
    rfl
  unfold origins
  rw [hkept]
  show (do
    require (!(Environment.listed text).isEmpty) .someOrigin
    require (!(Environment.listed text).contains "*") .plainOrigins
    pure (Environment.listed text)) = .ok os ↔ _
  simp only [bind_ok_iff, require_ok_iff, Bool.not_eq_true', List.isEmpty_eq_false_iff]
  constructor
  · rintro ⟨_, hsome, _, hplain, hos⟩
    cases hos
    exact ⟨rfl, hsome, by simpa using hplain⟩
  · rintro ⟨rfl, hsome, hplain⟩
    exact ⟨(), hsome, (), by simpa using hplain, rfl⟩

theorem origins_ok_iff {raw : Option String} {os : List String} :
    origins raw = .ok os ↔ Allows raw os := by
  by_cases hempty : raw.getD "" = ""
  · rw [origins_unlisted hempty]
    constructor
    · intro h
      cases h
      exact .unlisted hempty
    · intro h
      cases h with
      | unlisted _ => rfl
      | listed hne _ _ => exact absurd hempty hne
  · obtain ⟨text, rfl⟩ : ∃ text, raw = some text := by
      cases raw with
      | none => exact absurd rfl hempty
      | some text => exact ⟨text, rfl⟩
    have hne : text ≠ "" := hempty
    rw [origins_listed_iff hne]
    constructor
    · rintro ⟨rfl, hsome, hplain⟩
      exact .listed hempty hsome hplain
    · intro h
      cases h with
      | unlisted h => exact absurd h hempty
      | listed _ hsome hplain => exact ⟨rfl, hsome, hplain⟩

/-- **The settings of an environment.** -/
theorem ofEnvironment_ok_iff : ofEnvironment e = .ok s ↔ Loads e s := by
  unfold ofEnvironment
  simp only [bind_ok_iff, realNumber_ok_iff, wholeNumber_ok_iff, require_ok_iff, origins_ok_iff,
    Bool.and_eq_true, Bool.not_eq_true', decide_eq_true_eq]
  constructor
  · -- What was read is in the order of the variables, each number with what was required of it.
    rintro ⟨timeout, htimeout, _, hpositive, size, hsize, _, hbatch, bytes, hbytes, _, hlog, count,
      hcount, _, hold, os, hos, hs⟩
    cases hs
    exact ⟨rfl, rfl, htimeout, hpositive, hsize, hbatch, hbytes, hlog, hcount, hold, hos, rfl, rfl,
      rfl, rfl⟩
  · intro h
    refine ⟨_, h.timeout, (), h.timeoutFits, _, h.batchSize, (), h.batchFits, _, h.logSize, (), h.logFits,
      _, h.backups, (), h.backupsFit, _, h.origins, ?_⟩
    rw [← h.environment, ← h.debug, ← h.token, ← h.address, ← h.version, ← h.clientFaults]
    rfl

/-! ## §2. What holds of it. -/

/-- Settings are in their ranges, but for the timeout. -/
structure Sound (s : Settings) : Prop where
  /-- A batch has one block at least, and a hundred at most. -/
  batchSize : 1 ≤ s.appendBatchSize ∧ s.appendBatchSize ≤ 100
  /-- A log file may hold something. -/
  logSize : 0 < s.logMaxBytes
  /-- The number of old log files is not below zero. -/
  backups : 0 ≤ s.logBackupCount
  /-- There is an origin. -/
  someOrigin : s.allowedOrigins ≠ []
  /-- Each is trimmed and visible, and none stands for all. -/
  origins : ∀ o ∈ s.allowedOrigins, Text.Trimmed o.toList ∧ Text.isBlank o = false ∧ o ≠ "*"
  /-- The address does not end in a slash. -/
  address : s.notionBaseUrl.toList.getLast? ≠ some '/'
  /-- The token, if there is one, is trimmed and not empty. -/
  token : ∀ t, s.notionToken = some t → Text.Trimmed t.toList ∧ t ≠ ""

theorem Allows.sound {raw : Option String} {os : List String} (h : Allows raw os) :
    os ≠ [] ∧ ∀ o ∈ os, Text.Trimmed o.toList ∧ Text.isBlank o = false ∧ o ≠ "*" := by
  cases h with
  | unlisted _ =>
      refine ⟨List.cons_ne_nil _ _, ?_⟩
      intro o ho
      rw [List.mem_singleton.mp ho]
      have htrimmed : Text.stripChars "http://localhost:3000".toList
          = "http://localhost:3000".toList := by decide
      refine ⟨?_, by decide, by decide⟩
      rw [← htrimmed]
      exact Text.stripChars_trimmed _
  | @listed text _ hsome hplain =>
      refine ⟨hsome, fun o ho => ?_⟩
      obtain ⟨htrimmed, hvisible⟩ := Environment.visible_of_mem_listed ho
      refine ⟨htrimmed, hvisible, ?_⟩
      rintro rfl
      exact hplain ho

theorem trimmed?_some {raw : Option String} {t : String} (h : trimmed? raw = some t) :
    ∃ text, raw = some text ∧ t = Text.strip text ∧ t ≠ "" := by
  unfold trimmed? at h
  obtain ⟨hmap, hsome⟩ := Option.filter_eq_some_iff.mp h
  obtain ⟨text, hraw, rfl⟩ := Option.map_eq_some_iff.mp hmap
  refine ⟨text, hraw, rfl, ?_⟩
  intro hempty
  rw [hempty] at hsome
  exact absurd hsome (by decide)

/-- Settings of an environment are in their ranges. -/
theorem Loads.sound (h : Loads e s) : s.Sound where
  batchSize := h.batchFits
  logSize := h.logFits
  backups := h.backupsFit
  someOrigin := h.origins.sound.1
  origins := h.origins.sound.2
  address := by
    rw [h.address]
    exact Url.getLast?_withoutSlashes _
  token := by
    intro t ht
    obtain ⟨text, -, rfl, hne⟩ := trimmed?_some (h.token.symm.trans ht)
    refine ⟨?_, hne⟩
    rw [Text.toList_strip]
    exact Text.stripChars_trimmed _

/-- Not being at most zero is the same as being above zero, except for "not a number". -/
theorem isPositive_iff {x : Binary64} (h : x.isNonPositive = false) :
    x.isPositive = true ↔ x ≠ .nan := by
  cases x with
  | nan => simp [Binary64.isPositive]
  | infinite negative => simp_all [Binary64.isPositive, Binary64.isNonPositive]
  | finite negative m exponent => simp_all [Binary64.isPositive, Binary64.isNonPositive]

/-- The timeout is positive unless the environment spells "not a number". -/
theorem Loads.timeout_iff (h : Loads e s) : s.notionTimeout.isPositive = true
    ↔ ¬ Text.SpellsNaN (e.getD "COURSEKIT_NOTION_TIMEOUT_SECONDS" "30") := by
  rw [isPositive_iff h.timeoutFits, ← Text.readReal?_nan, h.timeout, Option.some_inj]

/-- **Settings are loaded or refused.**

An environment has settings exactly if each of its variables can be read and is in its range, and
else a fault is raised.  All that is promised of settings holds; the timeout is positive exactly if
its variable does not spell "not a number". -/
theorem loads_or_fails (e : Environment) :
    (∃ fault, ofEnvironment e = .error fault ∧ ∀ s, ¬ Loads e s)
    ∨ ∃ s, ofEnvironment e = .ok s ∧ Loads e s ∧ s.Sound
        ∧ (s.notionTimeout.isPositive = true
          ↔ ¬ Text.SpellsNaN (e.getD "COURSEKIT_NOTION_TIMEOUT_SECONDS" "30")) := by
  cases hload : ofEnvironment e with
  | error fault =>
      left
      refine ⟨fault, rfl, fun s hs => ?_⟩
      rw [ofEnvironment_ok_iff.mpr hs] at hload
      cases hload
  | ok s =>
      right
      have hs : Loads e s := ofEnvironment_ok_iff.mp hload
      exact ⟨s, rfl, hs, hs.sound, hs.timeout_iff⟩

/-- The word is not refused, and the timeout is not positive. -/
theorem nan_loads : ∃ s, ofEnvironment [("COURSEKIT_NOTION_TIMEOUT_SECONDS", "nan")] = .ok s
    ∧ s.notionTimeout.isPositive = false := by
  refine ⟨_, rfl, ?_⟩
  decide

end Settings

end Syllabus
