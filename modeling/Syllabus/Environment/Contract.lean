/-
  Syllabus.Environment.Contract
  ─────────────────────────────
  **WHAT THE SERVICE NEEDS BEFORE IT STARTS.**

  A few variables have rules.  Only the token has to be there; the others are
  looked at when they are not blank.  The check lists what violates the rules,
  in the order of the variables, and refuses to start if anything does, unless
  the rules are not enforced.  The value of a secret is never logged.
-/
import Syllabus.Environment.Basic
import Syllabus.Log
import Syllabus.Notion.Token
import Syllabus.Url.Basic

namespace Syllabus.Contract

/-! ## §1. Rules. -/

/-- What is wrong with a value, or the fault that its reading ends in. -/
abbrev Finding := Except Url.Fault (Option String)

/-- A token starts with a mark. -/
def tokenRule (value : String) : Finding :=
  .ok (if Notion.isMarked (Text.strip value) then none
    else some "must start with 'ntn_' or 'secret_'.")

/-- The names that the service may run as. -/
def environmentNames : List String :=
  ["dev", "development", "stage", "staging", "prod", "production", "test", "testing"]

/-- The name of the environment is one of those known. -/
def environmentRule (value : String) : Finding :=
  .ok (if environmentNames.contains (Text.lower (Text.strip value)) then none
    else some "must be one of: development, stage, production, test (or aliases).")

/-- There is an origin, and none stands for all. -/
def originsRule (value : String) : Finding :=
  let found := Environment.listed value
  .ok (if found.isEmpty then some "must include at least one origin."
    else if found.contains "*" then some "must not include wildcard origins."
    else none)

/-- An address is absolute. -/
def addressRule (value : String) : Finding :=
  (Url.split (Text.strip value)).map fun parts =>
    if parts.isWeb then none else some "must be an absolute http(s) URL."

/-- A variable with a rule. -/
structure Rule where
  /-- The variable. -/
  name : String
  /-- Whether it has to be there. -/
  required : Bool
  /-- Whether its value must not be shown. -/
  secret : Bool
  /-- What its value has to be. -/
  check : String → Finding

/-- The rules, in the order in which they are looked at. -/
def rules : List Rule :=
  [⟨"NOTION_TOKEN", true, true, tokenRule⟩,
    ⟨"COURSEKIT_ENV", false, false, environmentRule⟩,
    ⟨"COURSEKIT_ALLOWED_ORIGINS", false, false, originsRule⟩,
    ⟨"COURSEKIT_NOTION_BASE_URL", false, false, addressRule⟩]

/-- The variables that have to be there. -/
def requiredNames : List String := (rules.filter (·.required)).map Rule.name

/-- What an environment does against a rule. -/
def Rule.violation? (rule : Rule) (e : Environment) : Finding :=
  let value := e.getD rule.name ""
  let named : Option String → Option String := Option.map fun s => rule.name ++ ": " ++ s
  if Text.isBlank value then
    .ok (named (if rule.required then some "required variable is missing." else none))
  else (rule.check value).map named

/-- What an environment does against the rules. -/
def violations (e : Environment) : Except Url.Fault (List String) := do
  let found ← rules.mapM fun rule => rule.violation? e
  pure found.reduceOption

/-! ## §2. The check. -/

/-- Why the service does not start. -/
inductive Refusal where
  /-- The rules are violated. -/
  | violated (violations : List String)
  /-- A value could not be read. -/
  | unreadable (fault : Url.Fault)
  deriving DecidableEq, Repr

/-- The report of violations. -/
def report (violations : List String) : String :=
  "ENV_CHECK status=failed violations:\n- " ++ "\n- ".intercalate violations

/-- A refusal in words. -/
def Refusal.message : Refusal → String
  | .violated violations => report violations
  | .unreadable fault => fault.message

/-- How the value of a variable is logged. -/
def Rule.shownValue (rule : Rule) (value : String) : String :=
  if rule.secret then (if value.isEmpty then "<missing>" else "<redacted>")
  else if value.isEmpty then "<default>"
  else value

/-- What the check logs of a variable. -/
def Rule.remark (rule : Rule) (e : Environment) : Level × String :=
  (.info, "ENV_CHECK key=" ++ rule.name ++ " value=" ++ rule.shownValue (e.getD rule.name ""))

/-- Whether the rules are enforced. -/
def isEnforced (e : Environment) : Bool := e.flag "COURSEKIT_ENV_CONTRACT_ENFORCE" true

/-- Checks an environment: whether the service may start, and what is logged. -/
def check (e : Environment) : Except Refusal Unit × List (Level × String) :=
  let seen := rules.map fun rule => rule.remark e
  match violations e with
  | .error fault => (.error (.unreadable fault), seen)
  | .ok [] => (.ok (), seen ++ [(.info, s!"ENV_CHECK status=ok checked={rules.length}")])
  | .ok found =>
      if isEnforced e then (.error (.violated found), seen ++ [(.error, report found)])
      else
        (.ok (), seen
          ++ [(.warning, "ENV_CHECK enforcement disabled by COURSEKIT_ENV_CONTRACT_ENFORCE=0"),
            (.warning, report found)])

end Syllabus.Contract
