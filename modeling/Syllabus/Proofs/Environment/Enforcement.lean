/-
  Syllabus.Proofs.Environment.Enforcement
  ───────────────────────────────────────
  **WHAT THE STARTUP CHECK COMES TO.**

  An environment breaks a rule when a variable that has to be there is
  missing, or when a visible value is not what the rule asks for.  Each breach
  has one reason, and is one line of the report, in the order of the rules.
  The check refuses the environment exactly if there is a breach and the rules
  are enforced.

  One value escapes all this: an address that cannot even be read.  Its rule
  does not count it as a breach but ends in a fault, and with it the check,
  whether the rules are enforced or not.

      Breach           what an environment does against a rule, and the reason given
      Lists            all breaches, in the order of the rules
      Unreadable       an address that cannot be read, and its fault
      check_decides    what the check comes to, for every environment
-/
import Mathlib.Data.List.ReduceOption
import Syllabus.Environment.Contract
import Syllabus.Proofs.Text.Lines

namespace Syllabus.Contract

/-! ## §1. Breaches. -/

/-- What is wrong with a visible value of a variable, and the words for it. -/
inductive Flaw : (name value reason : String) → Prop where
  /-- A token without a mark. -/
  | unmarked {value : String} (h : Notion.isMarked (Text.strip value) = false) :
      Flaw "NOTION_TOKEN" value "must start with 'ntn_' or 'secret_'."
  /-- A name that is not known. -/
  | unknownName {value : String} (h : Text.lower (Text.strip value) ∉ environmentNames) :
      Flaw "COURSEKIT_ENV" value
        "must be one of: development, stage, production, test (or aliases)."
  /-- A list of origins without any. -/
  | noOrigin {value : String} (h : Environment.listed value = []) :
      Flaw "COURSEKIT_ALLOWED_ORIGINS" value "must include at least one origin."
  /-- A list of origins in which one stands for all. -/
  | allOrigins {value : String} (h : "*" ∈ Environment.listed value) :
      Flaw "COURSEKIT_ALLOWED_ORIGINS" value "must not include wildcard origins."
  /-- An address that is not one of the web. -/
  | noAddress {value : String} (h : Url.isWeb value = false) :
      Flaw "COURSEKIT_NOTION_BASE_URL" value "must be an absolute http(s) URL."

/-- What an environment does against a rule, and the reason that is given. -/
inductive Breach (e : Environment) (rule : Rule) : (reason : String) → Prop where
  /-- A variable has to be there, and has no visible value. -/
  | missing (hblank : Text.isBlank (e.getD rule.name "") = true) (hrequired : rule.required = true) :
      Breach e rule "required variable is missing."
  /-- A visible value has a flaw. -/
  | flawed {reason : String} (hvisible : Text.isBlank (e.getD rule.name "") = false)
      (hflaw : Flaw rule.name (e.getD rule.name "") reason) : Breach e rule reason

/-- The line of a report that a breach is. -/
def line (breach : Rule × String) : String := breach.1.name ++ ": " ++ breach.2

/-- All breaches of some rules, in the order of the rules. -/
structure Lists (e : Environment) (rs : List Rule) (breaches : List (Rule × String)) : Prop where
  /-- The order is that of the rules. -/
  ordered : (breaches.map Prod.fst).Sublist rs
  /-- Every breach is listed, and nothing else. -/
  complete : ∀ rule reason, (rule, reason) ∈ breaches ↔ rule ∈ rs ∧ Breach e rule reason

/-- The address is visible and cannot be read. -/
def Unreadable (e : Environment) (fault : Url.Fault) : Prop :=
  Text.isBlank (e.getD "COURSEKIT_NOTION_BASE_URL" "") = false
    ∧ Url.split (Text.strip (e.getD "COURSEKIT_NOTION_BASE_URL" "")) = .error fault

/-! ## §2. What a rule finds. -/

/-- The flaws of a value, told apart by the variable. -/
theorem flaw_iff {name value reason : String} : Flaw name value reason
    ↔ (name = "NOTION_TOKEN" ∧ Notion.isMarked (Text.strip value) = false
        ∧ "must start with 'ntn_' or 'secret_'." = reason)
      ∨ (name = "COURSEKIT_ENV" ∧ Text.lower (Text.strip value) ∉ environmentNames
        ∧ "must be one of: development, stage, production, test (or aliases)." = reason)
      ∨ (name = "COURSEKIT_ALLOWED_ORIGINS" ∧ Environment.listed value = []
        ∧ "must include at least one origin." = reason)
      ∨ (name = "COURSEKIT_ALLOWED_ORIGINS" ∧ "*" ∈ Environment.listed value
        ∧ "must not include wildcard origins." = reason)
      ∨ (name = "COURSEKIT_NOTION_BASE_URL" ∧ Url.isWeb value = false
        ∧ "must be an absolute http(s) URL." = reason) := by
  constructor
  · intro h
    cases h with
    | unmarked h => exact .inl ⟨rfl, h, rfl⟩
    | unknownName h => exact .inr (.inl ⟨rfl, h, rfl⟩)
    | noOrigin h => exact .inr (.inr (.inl ⟨rfl, h, rfl⟩))
    | allOrigins h => exact .inr (.inr (.inr (.inl ⟨rfl, h, rfl⟩)))
    | noAddress h => exact .inr (.inr (.inr (.inr ⟨rfl, h, rfl⟩)))
  · rintro (⟨rfl, h, rfl⟩ | ⟨rfl, h, rfl⟩ | ⟨rfl, h, rfl⟩ | ⟨rfl, h, rfl⟩ | ⟨rfl, h, rfl⟩)
    · exact .unmarked h
    · exact .unknownName h
    · exact .noOrigin h
    · exact .allOrigins h
    · exact .noAddress h

theorem tokenRule_finds {value reason : String} {found : Option String}
    (h : tokenRule value = .ok found) : Flaw "NOTION_TOKEN" value reason ↔ found = some reason := by
  unfold tokenRule at h
  rw [flaw_iff]
  cases hmarked : Notion.isMarked (Text.strip value) with
  | true =>
      rw [hmarked, if_pos rfl] at h
      cases h
      simp
  | false =>
      rw [hmarked, if_neg Bool.false_ne_true] at h
      cases h
      simp

theorem environmentRule_finds {value reason : String} {found : Option String}
    (h : environmentRule value = .ok found) :
    Flaw "COURSEKIT_ENV" value reason ↔ found = some reason := by
  unfold environmentRule at h
  rw [flaw_iff]
  by_cases hknown : Text.lower (Text.strip value) ∈ environmentNames
  · rw [if_pos (List.contains_iff_mem.mpr hknown)] at h
    cases h
    simp [hknown]
  · rw [if_neg (mt List.contains_iff_mem.mp hknown)] at h
    cases h
    simp [hknown]

theorem originsRule_finds {value reason : String} {found : Option String}
    (h : originsRule value = .ok found) :
    Flaw "COURSEKIT_ALLOWED_ORIGINS" value reason ↔ found = some reason := by
  unfold originsRule at h
  dsimp only at h
  rw [flaw_iff]
  by_cases hnone : Environment.listed value = []
  · rw [hnone, List.isEmpty_nil, if_pos rfl] at h
    cases h
    simp [hnone]
  · rw [List.isEmpty_eq_false_iff.mpr hnone, if_neg Bool.false_ne_true] at h
    by_cases hall : "*" ∈ Environment.listed value
    · rw [if_pos (List.contains_iff_mem.mpr hall)] at h
      cases h
      simp [hnone, hall]
    · rw [if_neg (mt List.contains_iff_mem.mp hall)] at h
      cases h
      simp [hnone, hall]

theorem addressRule_finds {value reason : String} {found : Option String}
    (h : addressRule value = .ok found) :
    Flaw "COURSEKIT_NOTION_BASE_URL" value reason ↔ found = some reason := by
  unfold addressRule at h
  rw [flaw_iff]
  unfold Url.isWeb
  cases hsplit : Url.split (Text.strip value) with
  | error fault =>
      rw [hsplit] at h
      cases h
  | ok parts =>
      rw [hsplit] at h
      cases h
      cases hweb : parts.isWeb <;> simp [hweb]

/-- A rule that ends in no fault finds the flaws of a value. -/
def Rule.Finds (rule : Rule) : Prop :=
  ∀ value found, rule.check value = .ok found →
    ∀ reason, Flaw rule.name value reason ↔ found = some reason

theorem finds_of_mem {rule : Rule} (h : rule ∈ rules) : rule.Finds := by
  simp only [rules, List.mem_cons, List.not_mem_nil, or_false] at h
  intro value found hcheck reason
  rcases h with rfl | rfl | rfl | rfl <;> dsimp only at hcheck ⊢
  · exact tokenRule_finds hcheck
  · exact environmentRule_finds hcheck
  · exact originsRule_finds hcheck
  · exact addressRule_finds hcheck

/-- Only an address can end in a fault. -/
theorem fault_of_mem {rule : Rule} (h : rule ∈ rules) {value : String} {fault : Url.Fault}
    (hcheck : rule.check value = .error fault) :
    rule.name = "COURSEKIT_NOTION_BASE_URL" ∧ Url.split (Text.strip value) = .error fault := by
  simp only [rules, List.mem_cons, List.not_mem_nil, or_false] at h
  rcases h with rfl | rfl | rfl | rfl
  · cases hcheck
  · cases hcheck
  · cases hcheck
  · refine ⟨rfl, ?_⟩
    dsimp only [addressRule] at hcheck
    cases hsplit : Url.split (Text.strip value) with
    | error found =>
        rw [hsplit] at hcheck
        cases hcheck
        rfl
    | ok parts =>
        rw [hsplit] at hcheck
        cases hcheck

variable {e : Environment}

/-- A rule finds the one breach of it, or finds nothing because there is none, unless the value ends
in a fault. -/
theorem violation?_cases {rule : Rule} (hfinds : rule.Finds) :
    (∃ fault, rule.violation? e = .error fault
      ∧ Text.isBlank (e.getD rule.name "") = false ∧ rule.check (e.getD rule.name "") = .error fault)
    ∨ (rule.violation? e = .ok none ∧ ∀ reason, ¬ Breach e rule reason)
    ∨ ∃ reason, rule.violation? e = .ok (some (line (rule, reason)))
        ∧ ∀ other, Breach e rule other ↔ other = reason := by
  unfold Rule.violation?
  dsimp only
  by_cases hblank : Text.isBlank (e.getD rule.name "") = true
  · rw [if_pos hblank]
    by_cases hrequired : rule.required = true
    · refine .inr (.inr ⟨_, by rw [if_pos hrequired]; rfl, fun other => ⟨?_, ?_⟩⟩)
      · rintro (_ | ⟨hvisible, -⟩)
        · rfl
        · rw [hblank] at hvisible
          cases hvisible
      · rintro rfl
        exact .missing hblank hrequired
    · refine .inr (.inl ⟨by rw [if_neg hrequired]; rfl, ?_⟩)
      rintro _ (⟨-, h⟩ | ⟨hvisible, -⟩)
      · exact hrequired h
      · rw [hblank] at hvisible
        cases hvisible
  · rw [if_neg hblank]
    rw [Bool.not_eq_true] at hblank
    cases hcheck : rule.check (e.getD rule.name "") with
    | error fault => exact .inl ⟨fault, rfl, hblank, rfl⟩
    | ok found =>
        have hflaw : ∀ reason, Breach e rule reason ↔ found = some reason := by
          intro reason
          rw [← hfinds _ found hcheck reason]
          refine ⟨?_, .flawed hblank⟩
          rintro (⟨h, -⟩ | ⟨-, h⟩)
          · rw [hblank] at h
            cases h
          · exact h
        right
        cases found with
        | none => exact .inl ⟨rfl, fun reason h => by cases (hflaw reason).mp h⟩
        | some reason =>
            exact .inr ⟨reason, rfl, fun other =>
              (hflaw other).trans (Option.some_inj.trans eq_comm)⟩

/-! ## §3. All rules. -/

theorem lists_nil : Lists e [] [] :=
  ⟨List.Sublist.refl [], fun _ _ => by simp⟩

theorem Lists.skip {rule : Rule} {rs : List Rule} {breaches : List (Rule × String)}
    (h : Lists e rs breaches) (hkept : ∀ reason, ¬ Breach e rule reason) :
    Lists e (rule :: rs) breaches := by
  refine ⟨h.ordered.cons rule, fun other reason => ?_⟩
  rw [h.complete, List.mem_cons]
  constructor
  · rintro ⟨hmem, hbreach⟩
    exact ⟨.inr hmem, hbreach⟩
  · rintro ⟨rfl | hmem, hbreach⟩
    · exact absurd hbreach (hkept reason)
    · exact ⟨hmem, hbreach⟩

theorem Lists.cons {rule : Rule} {rs : List Rule} {breaches : List (Rule × String)}
    {reason : String} (h : Lists e rs breaches) (hbreach : ∀ other, Breach e rule other ↔ other = reason) :
    Lists e (rule :: rs) ((rule, reason) :: breaches) := by
  refine ⟨h.ordered.cons_cons rule, fun other found => ?_⟩
  rw [List.mem_cons, List.mem_cons, h.complete, Prod.mk.injEq]
  constructor
  · rintro (⟨rfl, rfl⟩ | ⟨hmem, hfound⟩)
    · exact ⟨.inl rfl, (hbreach _).mpr rfl⟩
    · exact ⟨.inr hmem, hfound⟩
  · rintro ⟨rfl | hmem, hfound⟩
    · exact .inl ⟨rfl, (hbreach _).mp hfound⟩
    · exact .inr ⟨hmem, hfound⟩

/-- Rules without a fault find all breaches, each as a line. -/
theorem mapM_lists {rs : List Rule} (hfinds : ∀ rule ∈ rs, rule.Finds)
    (hreadable : ∀ rule ∈ rs, ∀ fault, rule.violation? e ≠ .error fault) :
    ∃ found breaches, (rs.mapM fun rule => rule.violation? e) = .ok found
      ∧ found.reduceOption = breaches.map line ∧ Lists e rs breaches := by
  induction rs with
  | nil => exact ⟨[], [], rfl, rfl, lists_nil⟩
  | cons rule rs ih =>
      rw [List.forall_mem_cons] at hfinds hreadable
      obtain ⟨found, breaches, hfound, hlines, hlists⟩ := ih hfinds.2 hreadable.2
      rcases @violation?_cases e rule hfinds.1 with
        ⟨fault, hfault, -⟩ | ⟨hnone, hkept⟩ | ⟨reason, hsome, hbreach⟩
      · exact absurd hfault (hreadable.1 fault)
      · refine ⟨none :: found, breaches, ?_, hlines, hlists.skip hkept⟩
        rw [List.mapM_cons, hnone, hfound]
        rfl
      · refine ⟨some (line (rule, reason)) :: found, (rule, reason) :: breaches, ?_, ?_,
          hlists.cons hbreach⟩
        · rw [List.mapM_cons, hsome, hfound]
          rfl
        · rw [List.reduceOption_cons_of_some, hlines, List.map_cons]

/-- A fault at one place is that of the whole list if there is no other. -/
theorem mapM_fault {ε α β : Type} {f : α → Except ε β} {l : List α} {fault : ε}
    (honly : ∀ a ∈ l, ∀ other, f a = .error other → other = fault)
    (hsome : ∃ a ∈ l, f a = .error fault) : l.mapM f = .error fault := by
  induction l with
  | nil =>
      obtain ⟨a, ha, -⟩ := hsome
      cases ha
  | cons a l ih =>
      rw [List.forall_mem_cons] at honly
      rw [List.mapM_cons]
      cases hfirst : f a with
      | error other =>
          rw [honly.1 other hfirst]
          rfl
      | ok b =>
          obtain ⟨c, hc, hfault⟩ := hsome
          rcases List.mem_cons.mp hc with rfl | hc
          · rw [hfirst] at hfault
            cases hfault
          · show (l.mapM f >>= fun bs => pure (b :: bs)) = _
            rw [ih honly.2 ⟨c, hc, hfault⟩]
            rfl

/-- The rules end in a fault exactly if the address cannot be read, and find all breaches else. -/
theorem violations_cases (e : Environment) :
    (∃ fault, Unreadable e fault ∧ violations e = .error fault)
    ∨ (∀ fault, ¬ Unreadable e fault)
      ∧ ∃ breaches, Lists e rules breaches ∧ violations e = .ok (breaches.map line) := by
  have hfault : ∀ rule ∈ rules, ∀ fault, rule.violation? e = .error fault → Unreadable e fault := by
    intro rule hmem fault hviolation
    rcases @violation?_cases e rule (finds_of_mem hmem) with
      ⟨other, hother, hvisible, hcheck⟩ | ⟨hok, -⟩ | ⟨_, hok, -⟩
    · rw [hviolation] at hother
      cases hother
      obtain ⟨hname, hsplit⟩ := fault_of_mem hmem hcheck
      rw [hname] at hvisible hsplit
      exact ⟨hvisible, hsplit⟩
    · rw [hviolation] at hok
      cases hok
    · rw [hviolation] at hok
      cases hok
  by_cases hreadable : ∃ fault, Unreadable e fault
  · obtain ⟨fault, hunreadable⟩ := hreadable
    refine .inl ⟨fault, hunreadable, ?_⟩
    have hviolation :
        (⟨"COURSEKIT_NOTION_BASE_URL", false, false, addressRule⟩ : Rule).violation? e
          = .error fault := by
      unfold Rule.violation?
      dsimp only [addressRule]
      rw [hunreadable.1, hunreadable.2, if_neg Bool.false_ne_true]
      rfl
    unfold violations
    have honly : ∀ rule ∈ rules, ∀ other, rule.violation? e = .error other → other = fault := by
      intro rule hmem other hother
      have hsplit := (hfault rule hmem other hother).2
      rw [hunreadable.2] at hsplit
      cases hsplit
      rfl
    rw [mapM_fault honly ⟨_, by simp [rules], hviolation⟩]
    rfl
  · rw [not_exists] at hreadable
    obtain ⟨found, breaches, hfound, hlines, hlists⟩ := @mapM_lists e rules
      (fun _ hmem => finds_of_mem hmem)
      (fun rule hmem fault hviolation => hreadable fault (hfault rule hmem fault hviolation))
    refine .inr ⟨hreadable, breaches, hlists, ?_⟩
    unfold violations
    rw [hfound]
    show Except.ok found.reduceOption = _
    rw [hlines]

/-! ## §4. The report. -/

/-- The first line of a report. -/
def headline : String := "ENV_CHECK status=failed violations:"

theorem written_items (first : String) (rest : List String)
    (h : ∀ s ∈ first :: rest, Text.OneLine ("- " ++ s)) :
    Text.Written (("- " ++ first) :: rest.map fun s => "- " ++ s)
      ("- " ++ "\n- ".intercalate (first :: rest)) := by
  induction rest generalizing first with
  | nil =>
      rw [String.intercalate_singleton]
      exact .last (h first List.mem_cons_self) (by simp)
  | cons second rest ih =>
      rw [List.forall_mem_cons] at h
      have hnext : "- " ++ "\n- ".intercalate (first :: second :: rest)
          = ("- " ++ first) ++ String.ofList ['\n']
            ++ ("- " ++ "\n- ".intercalate (second :: rest)) := by
        rw [String.intercalate_cons_cons, ← String.toList_inj]
        simp
      rw [hnext]
      exact .next h.1 (.single (by decide) (by decide)) (ih second h.2)

/-- A report has its head line and a line for each breach. -/
theorem lines_report {found : List String} (hne : found ≠ [])
    (h : ∀ s ∈ found, Text.OneLine ("- " ++ s)) :
    Text.lines (report found) = headline :: found.map fun s => "- " ++ s := by
  obtain ⟨first, rest, rfl⟩ := List.exists_cons_of_ne_nil hne
  have hreport : report (first :: rest)
      = headline ++ String.ofList ['\n'] ++ ("- " ++ "\n- ".intercalate (first :: rest)) := by
    unfold report
    rw [← String.toList_inj]
    simp [headline]
  rw [hreport]
  exact Text.lines_of_written
    (.next (by decide) (.single (by decide) (by decide)) (written_items first rest h))

theorem oneLine_name {rule : Rule} (h : rule ∈ rules) : Text.OneLine rule.name := by
  simp only [rules, List.mem_cons, List.not_mem_nil, or_false] at h
  rcases h with rfl | rfl | rfl | rfl <;> decide

theorem oneLine_reason {rule : Rule} {reason : String} (h : Breach e rule reason) :
    Text.OneLine reason := by
  cases h with
  | missing => decide
  | flawed _ hflaw =>
      rcases flaw_iff.mp hflaw with
        ⟨-, -, rfl⟩ | ⟨-, -, rfl⟩ | ⟨-, -, rfl⟩ | ⟨-, -, rfl⟩ | ⟨-, -, rfl⟩ <;> decide

/-- No line of a report breaks. -/
theorem oneLine_breach {rule : Rule} (hmem : rule ∈ rules) {reason : String}
    (h : Breach e rule reason) : Text.OneLine ("- " ++ line (rule, reason)) :=
  .append (by decide) (.append (.append (oneLine_name hmem) (by decide)) (oneLine_reason h))

/-- The lines of the report are the breaches. -/
theorem Lists.lines_report {breaches : List (Rule × String)} (h : Lists e rules breaches)
    (hne : breaches ≠ []) :
    Text.lines (report (breaches.map line)) = headline :: breaches.map fun b => "- " ++ line b := by
  have hlines : ∀ s ∈ breaches.map line, Text.OneLine ("- " ++ s) := by
    intro s hs
    obtain ⟨⟨rule, reason⟩, hb, rfl⟩ := List.mem_map.mp hs
    obtain ⟨hmem, hbreach⟩ := (h.complete rule reason).mp hb
    exact oneLine_breach hmem hbreach
  rw [Contract.lines_report (by simpa using hne) hlines, List.map_map]
  rfl

/-! ## §5. The check. -/

theorem check_fault {fault : Url.Fault} (h : violations e = .error fault) :
    (check e).1 = .error (.unreadable fault) := by
  unfold check
  rw [h]

theorem check_kept (h : violations e = .ok []) : (check e).1 = .ok () := by
  unfold check
  rw [h]

theorem check_broken {found : List String} (h : violations e = .ok found) (hne : found ≠ []) :
    (check e).1 = if isEnforced e then .error (.violated found) else .ok () := by
  obtain ⟨first, rest, rfl⟩ := List.exists_cons_of_ne_nil hne
  unfold check
  rw [h]
  dsimp only
  split <;> rfl

/-- **What the check comes to.**

If the address cannot be read, the check ends in that fault, whatever else holds of the environment.
Otherwise there is a list of all breaches, in the order of the rules.  The environment is refused
exactly if there is one and the rules are enforced, and what is said then has a line for each. -/
theorem check_decides (e : Environment) :
    (∃ fault, Unreadable e fault ∧ (check e).1 = .error (.unreadable fault))
    ∨ (∀ fault, ¬ Unreadable e fault) ∧ ∃ breaches, Lists e rules breaches
        ∧ ((isEnforced e = true ∧ breaches ≠ []
            ∧ (check e).1 = .error (.violated (breaches.map line))
            ∧ Text.lines (Refusal.violated (breaches.map line)).message
              = headline :: breaches.map fun breach => "- " ++ line breach)
          ∨ (isEnforced e = true → breaches = []) ∧ (check e).1 = .ok ()) := by
  rcases violations_cases e with
    ⟨fault, hunreadable, hviolations⟩ | ⟨hreadable, breaches, hlists, hviolations⟩
  · exact .inl ⟨fault, hunreadable, check_fault hviolations⟩
  refine .inr ⟨hreadable, breaches, hlists, ?_⟩
  by_cases hnone : breaches = []
  · subst hnone
    exact .inr ⟨fun _ => rfl, check_kept hviolations⟩
  have hcheck := check_broken hviolations (by simpa using hnone)
  cases henforced : isEnforced e with
  | true =>
      rw [henforced, if_pos rfl] at hcheck
      exact .inl ⟨rfl, hnone, hcheck, hlists.lines_report hnone⟩
  | false =>
      rw [henforced, if_neg Bool.false_ne_true] at hcheck
      exact .inr ⟨fun h => absurd h Bool.false_ne_true, hcheck⟩

/-- An open bracket makes an address that cannot be read.  It breaks its rule, and is no refusal for
that reason; and it ends the check even where the rules are not enforced. -/
theorem unreadable_address_escapes :
    (Breach [("NOTION_TOKEN", "ntn_x"), ("COURSEKIT_NOTION_BASE_URL", "http://[")]
        ⟨"COURSEKIT_NOTION_BASE_URL", false, false, addressRule⟩ "must be an absolute http(s) URL."
      ∧ (check [("NOTION_TOKEN", "ntn_x"), ("COURSEKIT_NOTION_BASE_URL", "http://[")]).1
        = .error (.unreadable .unbalancedBrackets))
    ∧ isEnforced [("NOTION_TOKEN", "ntn_x"), ("COURSEKIT_NOTION_BASE_URL", "http://["),
        ("COURSEKIT_ENV_CONTRACT_ENFORCE", "0")] = false
      ∧ (check [("NOTION_TOKEN", "ntn_x"), ("COURSEKIT_NOTION_BASE_URL", "http://["),
        ("COURSEKIT_ENV_CONTRACT_ENFORCE", "0")]).1 = .error (.unreadable .unbalancedBrackets) := by
  refine ⟨⟨.flawed (by decide) (.noAddress (by decide)), by decide⟩, by decide, by decide⟩

end Syllabus.Contract
