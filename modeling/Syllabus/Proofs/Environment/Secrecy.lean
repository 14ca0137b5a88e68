/-
  Syllabus.Proofs.Environment.Secrecy
  ───────────────────────────────────
  **WHAT THE STARTUP CHECK TELLS OF A SECRET.**

  Of the value of a variable the check uses what it logs of it, whether it is
  blank, and what its rule finds.  Two environments between which none of the
  three makes a difference are checked alike, to the last line of the log.
  The value of a secret is not logged; so of a token that is there, the check
  tells whether it has a mark, and nothing else.

      Rule.Alike             a rule does not tell two values apart
      check_of_alike         then the check does not either
      token_not_disclosed    tokens with the same verdict are not told apart
-/
import Syllabus.Environment.Contract

namespace Syllabus.Contract

/-! ## §1. Values that a rule does not tell apart. -/

/-- A rule does not tell two values apart. -/
structure Rule.Alike (rule : Rule) (v w : String) : Prop where
  /-- They are logged in the same way. -/
  shown : rule.shownValue v = rule.shownValue w
  /-- Both are blank, or neither is. -/
  blank : Text.isBlank v = Text.isBlank w
  /-- The rule finds the same in both, if it looks at them. -/
  verdict : Text.isBlank v = false → rule.check v = rule.check w

theorem Rule.Alike.refl (rule : Rule) (v : String) : rule.Alike v v := ⟨rfl, rfl, fun _ => rfl⟩

/-- An empty text is blank. -/
theorem isEmpty_of_visible {v : String} (h : Text.isBlank v = false) : v.isEmpty = false := by
  rw [Bool.eq_false_iff, Ne, String.isEmpty_iff]
  rintro rfl
  exact absurd h (by decide)

/-- A rule about a secret tells visible values apart by what it finds in them. -/
theorem alike_of_secret {rule : Rule} (hsecret : rule.secret = true) {v w : String}
    (hv : Text.isBlank v = false) (hw : Text.isBlank w = false) (h : rule.check v = rule.check w) :
    rule.Alike v w := by
  refine ⟨?_, hv.trans hw.symm, fun _ => h⟩
  unfold Rule.shownValue
  rw [hsecret, if_pos rfl, if_pos rfl, isEmpty_of_visible hv, isEmpty_of_visible hw]

/-! ## §2. Environments that the check does not tell apart. -/

variable {e f : Environment}

theorem Rule.Alike.remark_eq {rule : Rule}
    (h : rule.Alike (e.getD rule.name "") (f.getD rule.name "")) : rule.remark e = rule.remark f := by
  unfold Rule.remark
  rw [h.shown]

theorem Rule.Alike.violation?_eq {rule : Rule}
    (h : rule.Alike (e.getD rule.name "") (f.getD rule.name "")) :
    rule.violation? e = rule.violation? f := by
  unfold Rule.violation?
  dsimp only
  rw [← h.blank]
  cases hblank : Text.isBlank (e.getD rule.name "") with
  | true => rfl
  | false => rw [h.verdict hblank]

theorem mapM_congr {ε α β : Type} {p q : α → Except ε β} {l : List α} (h : ∀ a ∈ l, p a = q a) :
    l.mapM p = l.mapM q := by
  induction l with
  | nil => rfl
  | cons a l ih =>
      rw [List.forall_mem_cons] at h
      rw [List.mapM_cons, List.mapM_cons, h.1, ih h.2]

/-- The check tells nothing apart that no rule does. -/
theorem check_of_alike (h : ∀ rule ∈ rules, rule.Alike (e.getD rule.name "") (f.getD rule.name ""))
    (henforced : isEnforced e = isEnforced f) : check e = check f := by
  have hremarks : (rules.map fun rule => rule.remark e) = rules.map fun rule => rule.remark f :=
    List.map_congr_left fun rule hmem => (h rule hmem).remark_eq
  have hviolations : violations e = violations f := by
    unfold violations
    rw [mapM_congr fun rule hmem => (h rule hmem).violation?_eq]
  unfold check
  rw [hremarks, hviolations, henforced]

/-! ## §3. The token. -/

/-- Environments that differ in the token only, which has the same verdict in both. -/
structure SameButToken (e f : Environment) : Prop where
  /-- Every other variable has the same value, or is absent in both. -/
  others : ∀ name, name ≠ "NOTION_TOKEN" → e.get? name = f.get? name
  /-- There is a token in the first. -/
  first : Text.isBlank (e.getD "NOTION_TOKEN" "") = false
  /-- There is a token in the second. -/
  second : Text.isBlank (f.getD "NOTION_TOKEN" "") = false
  /-- Both tokens have a mark, or neither has. -/
  verdict : Notion.isMarked (Text.strip (e.getD "NOTION_TOKEN" ""))
    = Notion.isMarked (Text.strip (f.getD "NOTION_TOKEN" ""))

theorem SameButToken.getD_eq (h : SameButToken e f) {name : String} (hname : name ≠ "NOTION_TOKEN") :
    e.getD name "" = f.getD name "" := by
  unfold Environment.getD
  rw [h.others name hname]

/-- The two tokens are alike to their rule, and everything else is the same. -/
theorem SameButToken.alike (h : SameButToken e f) {rule : Rule} (hmem : rule ∈ rules) :
    rule.Alike (e.getD rule.name "") (f.getD rule.name "") := by
  simp only [rules, List.mem_cons, List.not_mem_nil, or_false] at hmem
  rcases hmem with rfl | rfl | rfl | rfl
  · refine alike_of_secret rfl h.first h.second ?_
    show tokenRule _ = tokenRule _
    unfold tokenRule
    rw [h.verdict]
  · rw [h.getD_eq (by decide)]
    exact .refl _ _
  · rw [h.getD_eq (by decide)]
    exact .refl _ _
  · rw [h.getD_eq (by decide)]
    exact .refl _ _

/-- **THE CHECK DOES NOT DISCLOSE THE TOKEN.**

Let two environments differ in the token only, which is there in both, and has a mark in both or in
neither.  Then the check logs the same lines and comes to the same end: it lets both start, or refuses
both in the same words. -/
theorem token_not_disclosed (h : SameButToken e f) : check e = check f := by
  refine check_of_alike (fun rule hmem => h.alike hmem) ?_
  unfold isEnforced Environment.flag
  rw [h.others _ (by decide)]

/-- Two tokens without a mark, beside a variable that breaks its rule. -/
theorem token_not_disclosed_unmarked :
    SameButToken [("NOTION_TOKEN", "hunter2"), ("COURSEKIT_ENV", "moon")]
        [("COURSEKIT_ENV", "moon"), ("NOTION_TOKEN", " ntn-x")]
      ∧ check [("NOTION_TOKEN", "hunter2"), ("COURSEKIT_ENV", "moon")]
        = check [("COURSEKIT_ENV", "moon"), ("NOTION_TOKEN", " ntn-x")] := by
  have hsame : SameButToken [("NOTION_TOKEN", "hunter2"), ("COURSEKIT_ENV", "moon")]
      [("COURSEKIT_ENV", "moon"), ("NOTION_TOKEN", " ntn-x")] := by
    refine ⟨fun name hname => ?_, by decide, by decide, by decide⟩
    by_cases henv : "COURSEKIT_ENV" = name
    · subst henv
      rfl
    · simp [Environment.get?, henv, Ne.symm hname]
  exact ⟨hsame, token_not_disclosed hsame⟩

end Syllabus.Contract
