/-
  Syllabus.Proofs.Environment.Agreement
  ─────────────────────────────────────
  **WHAT THE CONTRACT PROMISES OF THE SETTINGS.**

  The contract is checked before the settings are loaded, by rules of its own
  for the same variables.  The two agree on the token.  A blank value they
  treat differently: the contract passes it over, as if the variable were
  absent; the settings take a blank list of origins to be without origins, and
  a blank address as it is.  And an address may be a web address only because
  of the slash behind its blank authority, which the settings take off.

      violations_nil_iff_keeps  what the contract asks of an environment
      token_accepted            the token of the settings is one as it stands
      allows_iff                when there are origins
      isWeb_address_iff         when the address of the settings is a web address
      contract_agrees           what holds of the settings behind a kept contract
-/
import Syllabus.Proofs.Environment.Enforcement
import Syllabus.Proofs.Environment.Settings

namespace Syllabus

/-! ## §1. A contract that is kept. -/

namespace Contract

variable {e : Environment}

/-- Nothing is found exactly if every address can be read and no rule is broken. -/
theorem violations_nil_iff : violations e = .ok []
    ↔ (∀ fault, ¬ Unreadable e fault) ∧ ∀ rule ∈ rules, ∀ reason, ¬ Breach e rule reason := by
  rcases violations_cases e with
    ⟨fault, hunreadable, hviolations⟩ | ⟨hreadable, breaches, hlists, hviolations⟩
  · rw [hviolations]
    exact ⟨nofun, fun h => absurd hunreadable (h.1 fault)⟩
  · rw [hviolations, Except.ok.injEq, List.map_eq_nil_iff]
    constructor
    · rintro rfl
      exact ⟨hreadable, fun rule hmem reason hbreach =>
        List.not_mem_nil ((hlists.complete rule reason).mpr ⟨hmem, hbreach⟩)⟩
    · rintro ⟨-, hkept⟩
      rw [List.eq_nil_iff_forall_not_mem]
      rintro ⟨rule, reason⟩ hmem
      obtain ⟨hrule, hbreach⟩ := (hlists.complete rule reason).mp hmem
      exact hkept rule hrule reason hbreach

/-- A rule is kept if a value that has to be there is visible, and a visible value has no flaw. -/
theorem kept_iff (rule : Rule) : (∀ reason, ¬ Breach e rule reason)
    ↔ (Text.isBlank (e.getD rule.name "") = true → rule.required = false)
      ∧ (Text.isBlank (e.getD rule.name "") = false →
        ∀ reason, ¬ Flaw rule.name (e.getD rule.name "") reason) := by
  constructor
  · intro hkept
    refine ⟨fun hblank => ?_, fun hvisible reason hflaw => hkept reason (.flawed hvisible hflaw)⟩
    rw [Bool.eq_false_iff]
    exact fun hrequired => hkept _ (.missing hblank hrequired)
  · rintro ⟨hblank, hvisible⟩ reason (⟨h, hrequired⟩ | ⟨h, hflaw⟩)
    · rw [hblank h] at hrequired
      cases hrequired
    · exact hvisible h reason hflaw

/-! ## §2. What each rule asks for. -/

theorem flawless_token (value : String) : (∀ reason, ¬ Flaw "NOTION_TOKEN" value reason)
    ↔ Notion.isMarked (Text.strip value) = true := by
  simp [flaw_iff]

theorem flawless_name (value : String) : (∀ reason, ¬ Flaw "COURSEKIT_ENV" value reason)
    ↔ Text.lower (Text.strip value) ∈ environmentNames := by
  simp [flaw_iff]

theorem flawless_origins (value : String) :
    (∀ reason, ¬ Flaw "COURSEKIT_ALLOWED_ORIGINS" value reason)
      ↔ Environment.listed value ≠ [] ∧ "*" ∉ Environment.listed value := by
  constructor
  · intro hkept
    exact ⟨fun hnone => hkept _ (.noOrigin hnone), fun hall => hkept _ (.allOrigins hall)⟩
  · rintro ⟨hsome, hplain⟩ reason hflaw
    simp [flaw_iff, hsome, hplain] at hflaw

theorem flawless_address (value : String) :
    (∀ reason, ¬ Flaw "COURSEKIT_NOTION_BASE_URL" value reason) ↔ Url.isWeb value = true := by
  simp [flaw_iff]

/-- What the contract asks of an environment: a token, and of each other variable that is not blank
that it makes sense. -/
structure Keeps (e : Environment) : Prop where
  /-- There is a token. -/
  someToken : Text.isBlank (e.getD "NOTION_TOKEN" "") = false
  /-- It has a mark. -/
  token : Notion.isMarked (Text.strip (e.getD "NOTION_TOKEN" "")) = true
  /-- The name of the environment is known. -/
  name : Text.isBlank (e.getD "COURSEKIT_ENV" "") = false →
    Text.lower (Text.strip (e.getD "COURSEKIT_ENV" "")) ∈ environmentNames
  /-- There are origins, and none stands for all. -/
  origins : Text.isBlank (e.getD "COURSEKIT_ALLOWED_ORIGINS" "") = false →
    Environment.listed (e.getD "COURSEKIT_ALLOWED_ORIGINS" "") ≠ []
      ∧ "*" ∉ Environment.listed (e.getD "COURSEKIT_ALLOWED_ORIGINS" "")
  /-- The address is one of the web. -/
  address : Text.isBlank (e.getD "COURSEKIT_NOTION_BASE_URL" "") = false →
    Url.isWeb (e.getD "COURSEKIT_NOTION_BASE_URL" "") = true

/-- **The contract finds nothing exactly if it is kept.** -/
theorem violations_nil_iff_keeps : violations e = .ok [] ↔ Keeps e := by
  rw [violations_nil_iff]
  simp only [rules, List.forall_mem_cons, List.not_mem_nil, false_implies, implies_true, and_true,
    kept_iff, flawless_token, flawless_name, flawless_origins, flawless_address, true_and]
  constructor
  · rintro ⟨-, ⟨hsome, htoken⟩, hname, horigins, haddress⟩
    have hvisible : Text.isBlank (e.getD "NOTION_TOKEN" "") = false := by
      rw [Bool.eq_false_iff]
      intro hblank
      exact absurd (hsome hblank) (by decide)
    exact ⟨hvisible, htoken hvisible, hname, horigins, haddress⟩
  · intro h
    refine ⟨?_, ⟨fun hblank => ?_, fun _ => h.token⟩, h.name, h.origins, h.address⟩
    · -- An address that cannot be read is none of the web.
      rintro fault ⟨hvisible, hsplit⟩
      have hweb := h.address hvisible
      unfold Url.isWeb at hweb
      rw [hsplit] at hweb
      cases hweb
    · rw [h.someToken] at hblank
      cases hblank

end Contract

/-! ## §3. The settings behind it. -/

namespace Settings

variable {e : Environment} {s : Settings}

/-- The variables that hold numbers. -/
def numericNames : List String :=
  ["COURSEKIT_NOTION_TIMEOUT_SECONDS", "COURSEKIT_APPEND_BATCH_SIZE", "COURSEKIT_LOG_MAX_BYTES",
    "COURSEKIT_LOG_BACKUP_COUNT"]

/-- The list of origins is set and not empty, but blank. -/
def BlankOrigins (e : Environment) : Prop :=
  ∃ text, e.get? "COURSEKIT_ALLOWED_ORIGINS" = some text ∧ text ≠ "" ∧ Text.isBlank text = true

/-- The address is set, and either blank or hollow. -/
def BadAddress (e : Environment) : Prop :=
  ∃ text, e.get? "COURSEKIT_NOTION_BASE_URL" = some text ∧ (Text.isBlank text = true ∨ Url.Hollow text)

theorem getD_of_some {name text : String} (h : e.get? name = some text) (other : String) :
    e.getD name other = text := by
  unfold Environment.getD
  rw [h]
  rfl

theorem getD_of_none {name : String} (h : e.get? name = none) (other : String) :
    e.getD name other = other := by
  unfold Environment.getD
  rw [h]
  rfl

/-- The token of the settings is one as it stands. -/
theorem token_accepted (h : Contract.Keeps e) :
    ∃ t, trimmed? (e.get? "NOTION_TOKEN") = some t ∧ Notion.token t = .ok t := by
  have hvisible := h.someToken
  have hmarked := h.token
  cases hget : e.get? "NOTION_TOKEN" with
  | none =>
      rw [getD_of_none hget] at hvisible
      exact absurd hvisible (by decide)
  | some text =>
      rw [getD_of_some hget] at hvisible hmarked
      have hsome : (Text.strip text).isEmpty = false := (Text.isEmpty_strip text).trans hvisible
      have hleft : Text.isBlank (Text.strip text) = false := by
        rw [← Text.isEmpty_strip, Text.strip_strip]
        exact hsome
      refine ⟨Text.strip text, ?_, ?_⟩
      · unfold trimmed?
        rw [Option.map_some, Option.filter_some, hsome]
        rfl
      · unfold Notion.token
        rw [hleft, Text.strip_strip, hmarked, if_neg Bool.false_ne_true, if_pos rfl]

theorem splitOn_absent {sep : Char} {cs : List Char} (h : sep ∉ cs) : Text.splitOn sep cs = [cs] := by
  induction cs with
  | nil => rfl
  | cons c cs ih =>
      rw [List.mem_cons, not_or] at h
      unfold Text.splitOn
      rw [if_neg (Ne.symm h.1), ih h.2]

/-- A blank list has nothing in it. -/
theorem listed_blank {text : String} (h : Text.isBlank text = true) :
    Environment.listed text = [] := by
  have hcomma : ',' ∉ text.toList := by
    intro hmem
    exact absurd ((Text.isBlank_iff text).mp h _ hmem) (by decide)
  have hempty : (Text.strip text).isEmpty = true := (Text.isEmpty_strip text).trans h
  unfold Environment.listed
  rw [splitOn_absent hcomma, List.map_singleton, String.ofList_toList,
    List.filter_cons_of_neg (by rw [hempty]; exact Bool.false_ne_true), List.filter_nil]

/-- Behind a contract that is kept, only a blank list of origins is refused. -/
theorem allows_iff (h : Contract.Keeps e) :
    (∃ os, Allows (e.get? "COURSEKIT_ALLOWED_ORIGINS") os) ↔ ¬ BlankOrigins e := by
  constructor
  · -- In a blank list there is no origin, though the contract has passed it over.
    rintro ⟨os, hos⟩ ⟨text, hget, hne, hblank⟩
    rw [hget] at hos
    cases hos with
    | unlisted hempty => exact hne hempty
    | listed _ hsome _ => exact hsome (listed_blank hblank)
  · intro hnot
    cases hget : e.get? "COURSEKIT_ALLOWED_ORIGINS" with
    | none => exact ⟨_, .unlisted rfl⟩
    | some text =>
        by_cases hempty : text = ""
        · exact ⟨_, .unlisted hempty⟩
        · have hvisible : Text.isBlank text = false := by
            rw [Bool.eq_false_iff]
            intro hblank
            exact hnot ⟨text, hget, hempty, hblank⟩
          have horigins := h.origins
          rw [getD_of_some hget] at horigins
          obtain ⟨hsome, hplain⟩ := horigins hvisible
          exact ⟨_, .listed hempty hsome hplain⟩

/-- A blank text is no web address. -/
theorem isWeb_blank {text : String} (h : Text.isBlank text = true) : Url.isWeb text = false := by
  have hempty : Text.strip text = "" := by
    rw [← String.isEmpty_iff, Text.isEmpty_strip]
    exact h
  rw [← Url.isWeb_strip, hempty]
  decide

/-- Behind a contract that is kept, the address of the settings is one of the web, unless that in the
environment is bad. -/
theorem isWeb_address_iff (h : Contract.Keeps e) :
    Url.isWeb (Url.Base.withoutSlashes (e.getD "COURSEKIT_NOTION_BASE_URL" Notion.defaultBaseUrl)) = true
      ↔ ¬ BadAddress e := by
  cases hget : e.get? "COURSEKIT_NOTION_BASE_URL" with
  | none =>
      rw [getD_of_none hget]
      refine iff_of_true (by decide) ?_
      rintro ⟨text, hsome, -⟩
      rw [hget] at hsome
      cases hsome
  | some text =>
      rw [getD_of_some hget]
      have hbad : BadAddress e ↔ Text.isBlank text = true ∨ Url.Hollow text := by
        unfold BadAddress
        rw [hget]
        simp
      rw [hbad]
      by_cases hblank : Text.isBlank text = true
      · -- No slash is in it, and nothing is taken off; it is blank all the same.
        obtain ⟨slashes, hsplit, -⟩ := Url.withoutSlashes_append text
        have hstill : Text.isBlank (Url.Base.withoutSlashes text) = true := by
          rw [Text.isBlank_iff] at hblank ⊢
          intro c hc
          refine hblank c ?_
          rw [hsplit]
          exact List.mem_append_left _ hc
        rw [isWeb_blank hstill]
        exact iff_of_false Bool.false_ne_true (fun hnot => hnot (.inl hblank))
      · have hweb := h.address
        rw [getD_of_some hget] at hweb
        rw [Url.isWeb_withoutSlashes_iff (hweb (Bool.eq_false_iff.mpr hblank)), not_or]
        exact ⟨fun hsolid => ⟨hblank, hsolid⟩, fun hboth => hboth.2⟩

/-- Without numbers of their own, settings are loaded if there are origins. -/
theorem loads_of_allows (hnumbers : ∀ name ∈ numericNames, e.get? name = none) {os : List String}
    (hos : Allows (e.get? "COURSEKIT_ALLOWED_ORIGINS") os) : ∃ s, Loads e s := by
  simp only [numericNames, List.forall_mem_cons, List.not_mem_nil, false_implies, implies_true,
    and_true] at hnumbers
  obtain ⟨htimeout, hbatch, hlog, hbackups⟩ := hnumbers
  -- Each number has the value that stands for an absent variable, and that is in its range.
  have hreal : ∃ x, Text.readReal? "30" = some x ∧ x.isNonPositive = false := ⟨_, rfl, by decide⟩
  have hsize : Text.readInt (toString Notion.maxBatchSize) = .ok 100 ∧ 1 ≤ (100 : Int)
      ∧ (100 : Int) ≤ Notion.maxBatchSize := by decide
  have hbytes : Text.readInt "5242880" = .ok 5242880 ∧ (0 : Int) < 5242880 := by decide
  have hcount : Text.readInt "10" = .ok 10 ∧ (0 : Int) ≤ 10 := by decide
  obtain ⟨x, hx, hpositive⟩ := hreal
  rw [← getD_of_none htimeout "30"] at hx
  rw [← getD_of_none hbatch (toString Notion.maxBatchSize)] at hsize
  rw [← getD_of_none hlog "5242880"] at hbytes
  rw [← getD_of_none hbackups "10"] at hcount
  exact ⟨⟨_, _, os, _, _, _, x, 100, 5242880, 10, _⟩, rfl, rfl, hx, hpositive, hsize.1, hsize.2,
    hbytes.1, hbytes.2, hcount.1, hcount.2, hos, rfl, rfl, rfl, rfl⟩

/-- **WHAT THE CONTRACT PROMISES OF THE SETTINGS.**

Let an environment set no numbers and keep the contract.  Then the settings are refused if the list
of origins is blank but not empty, and are loaded else.  Of those that are loaded the token is one
as it stands, there are origins and none stands for all; and the address is one of the web, unless
it was blank or hollow. -/
theorem contract_agrees (hnumbers : ∀ name ∈ numericNames, e.get? name = none)
    (hcontract : Contract.violations e = .ok []) :
    (BlankOrigins e ∧ ∃ fault, ofEnvironment e = .error fault)
    ∨ ¬ BlankOrigins e ∧ ∃ s, ofEnvironment e = .ok s
        ∧ (∃ t, s.notionToken = some t ∧ Notion.token t = .ok t)
        ∧ (s.allowedOrigins ≠ [] ∧ "*" ∉ s.allowedOrigins)
        ∧ (Url.isWeb s.notionBaseUrl = true ↔ ¬ BadAddress e) := by
  have hkeeps := Contract.violations_nil_iff_keeps.mp hcontract
  by_cases hblank : BlankOrigins e
  · -- Settings that are loaded would have origins.
    left
    refine ⟨hblank, ?_⟩
    cases hload : ofEnvironment e with
    | error fault => exact ⟨fault, rfl⟩
    | ok s =>
        have horigins := (ofEnvironment_ok_iff.mp hload).origins
        exact absurd hblank ((allows_iff hkeeps).mp ⟨_, horigins⟩)
  · right
    obtain ⟨os, hos⟩ := (allows_iff hkeeps).mpr hblank
    obtain ⟨s, hs⟩ := loads_of_allows hnumbers hos
    refine ⟨hblank, s, ofEnvironment_ok_iff.mpr hs, ?_, ⟨hs.sound.someOrigin, ?_⟩, ?_⟩
    · rw [hs.token]
      exact token_accepted hkeeps
    · intro hall
      exact (hs.sound.origins "*" hall).2.2 rfl
    · rw [hs.address]
      exact isWeb_address_iff hkeeps

/-- A padded token is enough, and everything else has a value of its own. -/
theorem contract_agrees_padded :
    (∀ name ∈ numericNames, Environment.get? name [("NOTION_TOKEN", " ntn_x ")] = none)
    ∧ Contract.violations [("NOTION_TOKEN", " ntn_x ")] = .ok []
    ∧ ∃ s, ofEnvironment [("NOTION_TOKEN", " ntn_x ")] = .ok s
        ∧ (∃ t, s.notionToken = some t ∧ Notion.token t = .ok t)
        ∧ Url.isWeb s.notionBaseUrl = true := by
  have hnumbers : ∀ name ∈ numericNames,
      Environment.get? name [("NOTION_TOKEN", " ntn_x ")] = none := by decide
  have hcontract : Contract.violations [("NOTION_TOKEN", " ntn_x ")] = .ok [] := by decide
  refine ⟨hnumbers, hcontract, ?_⟩
  rcases contract_agrees hnumbers hcontract with ⟨⟨text, hget, -⟩, -⟩ | ⟨-, s, hload, htoken, -, haddress⟩
  · exact absurd hget (by simp [Environment.get?])
  · refine ⟨s, hload, htoken, haddress.mpr ?_⟩
    rintro ⟨text, hget, -⟩
    exact absurd hget (by simp [Environment.get?])

/-- An empty address passes the contract and is none, and so does one that is hollow; a blank list of
origins passes it and is refused. -/
theorem blanks_disagree :
    (Contract.violations [("NOTION_TOKEN", "ntn_x"), ("COURSEKIT_NOTION_BASE_URL", "")] = .ok []
      ∧ ∃ s, ofEnvironment [("NOTION_TOKEN", "ntn_x"), ("COURSEKIT_NOTION_BASE_URL", "")] = .ok s
        ∧ Url.isWeb s.notionBaseUrl = false)
    ∧ (Contract.violations [("NOTION_TOKEN", "ntn_x"), ("COURSEKIT_NOTION_BASE_URL", "http:// /")]
        = .ok []
      ∧ ∃ s, ofEnvironment
          [("NOTION_TOKEN", "ntn_x"), ("COURSEKIT_NOTION_BASE_URL", "http:// /")] = .ok s
        ∧ Url.isWeb s.notionBaseUrl = false)
    ∧ Contract.violations [("NOTION_TOKEN", "ntn_x"), ("COURSEKIT_ALLOWED_ORIGINS", " ")] = .ok []
      ∧ ofEnvironment [("NOTION_TOKEN", "ntn_x"), ("COURSEKIT_ALLOWED_ORIGINS", " ")]
        = .error (.unmet .someOrigin) := by
  refine ⟨⟨by decide, _, rfl, by decide⟩, ⟨by decide, _, rfl, by decide⟩, by decide, rfl⟩

end Settings

end Syllabus
