/-
  Syllabus.Proofs.Environment.Assignments
  ───────────────────────────────────────
  **WHAT AN ENVIRONMENT IS AFTER ASSIGNMENTS.**

  Assignments are carried out one after the other, and each is seen by those
  behind it.  A variable that is set keeps its value, so the first assignment
  to an absent one is the one that counts; when variables are overridden, the
  last one does.

      get?_set              what a variable is after another one is set
      carryOut_keeping      what keeps what is set already
      carryOut_overriding   what overrides it
-/
import Syllabus.Environment.File

namespace Syllabus

/-! ## §1. Variables. -/

namespace Environment

variable {e : Environment} {name other value : String}

@[simp] theorem get?_nil (name : String) : get? name [] = none := rfl

theorem get?_cons (name : String) (first : String × String) (rest : Environment) :
    get? name (first :: rest) = if first.1 = name then some first.2 else get? name rest := rfl

/-- A variable that was set has the value, and the others are as they were. -/
theorem get?_set (e : Environment) (name value other : String) :
    get? other (e.set name value) = if name = other then some value else get? other e := by
  induction e with
  | nil => rfl
  | cons first rest ih =>
      unfold set
      by_cases hfirst : first.1 = name
      · rw [if_pos hfirst, get?_cons, get?_cons, hfirst]
        split <;> rfl
      · rw [if_neg hfirst, get?_cons, get?_cons, ih]
        by_cases hother : first.1 = other
        · have hne : ¬ name = other := by
            rintro rfl
            exact hfirst hother
          rw [if_pos hother, if_pos hother, if_neg hne]
        · rw [if_neg hother, if_neg hother]

theorem get?_append (e f : Environment) (name : String) :
    get? name (e ++ f) = (get? name e).or (get? name f) := by
  induction e with
  | nil => rfl
  | cons first rest ih =>
      rw [List.cons_append, get?_cons, get?_cons, ih]
      split <;> rfl

theorem get?_eq_none_iff : get? name e = none ↔ name ∉ e.map Prod.fst := by
  induction e with
  | nil => simp
  | cons first rest ih =>
      rw [get?_cons, List.map_cons, List.mem_cons, not_or, ← ih]
      by_cases hfirst : first.1 = name
      · simp [hfirst]
      · simp [hfirst, Ne.symm hfirst]

/-- A variable that is given has a value. -/
theorem exists_of_mem_keys (h : name ∈ e.map Prod.fst) : ∃ value, get? name e = some value := by
  rw [← Option.ne_none_iff_exists', Ne, get?_eq_none_iff]
  exact fun hnot => hnot h

/-- Of variables that are given once each, each has the value that it is given. -/
theorem get?_of_mem (hnodup : (e.map Prod.fst).Nodup) (hmem : (name, value) ∈ e) :
    get? name e = some value := by
  induction e with
  | nil => cases hmem
  | cons first rest ih =>
      rw [List.map_cons, List.nodup_cons] at hnodup
      rw [get?_cons]
      rcases List.mem_cons.mp hmem with rfl | hrest
      · rw [if_pos rfl]
      · have hne : ¬ first.1 = name := by
          intro heq
          rw [heq] at hnodup
          exact hnodup.1 (List.mem_map_of_mem hrest)
        rw [if_neg hne, ih hnodup.2 hrest]

end Environment

/-! ## §2. Assignments in a row. -/

namespace EnvironmentFile

/-- No assignment has a null character. -/
def NoNull (as : List (String × String)) : Prop :=
  ∀ a ∈ as, hasNull a.1 = false ∧ hasNull a.2 = false

variable {override : Bool} {key value : String} {rest : List (String × String)} {l : Loaded}

/-- An assignment to a variable that is set is passed over. -/
theorem carryOut_skip {e : Environment} (hset : (e.get? key).isSome = true) :
    carryOut false e ((key, value) :: rest) = carryOut false e rest := by
  rw [carryOut, Bool.not_false, Bool.true_and, if_pos hset]

/-- An assignment that counts is carried out before those behind it, and is reported. -/
theorem carryOut_step {e : Environment} (hcounts : override = true ∨ e.get? key = none)
    (hkey : hasNull key = false) (hvalue : hasNull value = false)
    (hrest : carryOut override (e.set key value) rest = .ok l) :
    carryOut override e ((key, value) :: rest) = .ok ⟨key :: l.keys, l.environment⟩ := by
  have hpassed : (!override && (e.get? key).isSome) = false := by
    rcases hcounts with rfl | habsent
    · rfl
    · rw [habsent, Option.isSome_none, Bool.and_false]
  rw [carryOut, hpassed, if_neg Bool.false_ne_true, hkey, hvalue, Bool.or_false,
    if_neg Bool.false_ne_true, hrest]
  rfl

/-- What assignments come to where a variable that is set keeps its value. -/
structure Keeping (e : Environment) (as : List (String × String)) (l : Loaded) : Prop where
  /-- The others are reported once each, in the order of their first assignments. -/
  keys : l.keys = ((as.map Prod.fst).filter fun name => (e.get? name).isNone).eraseDups
  /-- They have the values of their first assignments. -/
  values : ∀ name, l.environment.get? name = (e.get? name).or (Environment.get? name as)

/-- What assignments come to where variables are overridden. -/
structure Overriding (e : Environment) (as : List (String × String)) (l : Loaded) : Prop where
  /-- Every assignment is reported. -/
  keys : l.keys = as.map Prod.fst
  /-- The last one counts. -/
  values : ∀ name, l.environment.get? name = (Environment.get? name as.reverse).or (e.get? name)

theorem carryOut_keeping (e : Environment) {as : List (String × String)} (hnull : NoNull as) :
    ∃ l, carryOut false e as = .ok l ∧ Keeping e as l := by
  induction as generalizing e with
  | nil => exact ⟨⟨[], e⟩, rfl, rfl, fun name => (Option.or_none).symm⟩
  | cons first rest ih =>
      obtain ⟨key, value⟩ := first
      obtain ⟨⟨hkey, hvalue⟩, hrest⟩ := List.forall_mem_cons.mp hnull
      cases habsent : e.get? key with
      | some old =>
          -- The variable is set, before the file or by an assignment in front.
          have hset : (e.get? key).isSome = true := by rw [habsent]; rfl
          obtain ⟨l, hl, hkeeping⟩ := ih e hrest
          refine ⟨l, (carryOut_skip hset).trans hl, ?_, fun name => ?_⟩
          · rw [hkeeping.keys, List.map_cons, List.filter_cons_of_neg]
            rw [habsent]
            exact Bool.false_ne_true
          · rw [hkeeping.values, Environment.get?_cons]
            by_cases hname : key = name
            · rw [← hname, habsent]
              rfl
            · rw [if_neg hname]
      | none =>
          obtain ⟨l, hl, hkeeping⟩ := ih (e.set key value) hrest
          -- Behind the assignment, the same variable counts as set.
          have hbehind : (rest.map Prod.fst).filter (fun name => ((e.set key value).get? name).isNone)
              = (rest.map Prod.fst).filter fun name => !name == key && (e.get? name).isNone := by
            refine List.filter_congr fun name _ => ?_
            rw [Environment.get?_set]
            by_cases hname : key = name
            · simp [hname]
            · simp [hname, Ne.symm hname]
          refine ⟨_, carryOut_step (.inr habsent) hkey hvalue hl, ?_, fun name => ?_⟩
          · show key :: l.keys = _
            rw [hkeeping.keys, hbehind, List.map_cons, List.filter_cons_of_pos (by simp [habsent]),
              List.eraseDups_cons, List.filter_filter]
          · show l.environment.get? name = _
            rw [hkeeping.values, Environment.get?_set, Environment.get?_cons]
            by_cases hname : key = name
            · rw [if_pos hname, if_pos hname, ← hname, habsent]
              rfl
            · rw [if_neg hname, if_neg hname]

theorem carryOut_overriding (e : Environment) {as : List (String × String)} (hnull : NoNull as) :
    ∃ l, carryOut true e as = .ok l ∧ Overriding e as l := by
  induction as generalizing e with
  | nil => exact ⟨⟨[], e⟩, rfl, rfl, fun name => rfl⟩
  | cons first rest ih =>
      obtain ⟨key, value⟩ := first
      obtain ⟨⟨hkey, hvalue⟩, hrest⟩ := List.forall_mem_cons.mp hnull
      obtain ⟨l, hl, hoverriding⟩ := ih (e.set key value) hrest
      refine ⟨_, carryOut_step (.inl rfl) hkey hvalue hl, ?_, fun name => ?_⟩
      · rw [List.map_cons, ← hoverriding.keys]
      · show l.environment.get? name = _
        rw [hoverriding.values, List.reverse_cons, Environment.get?_append, Option.or_assoc,
          Environment.get?_set, Environment.get?_cons]
        congr 1
        split <;> rfl

/-! ## §3. What is not assigned, and what is assigned again. -/

variable {e : Environment} {as : List (String × String)} {name : String}

theorem Keeping.mem_keys_iff (h : Keeping e as l) :
    name ∈ l.keys ↔ name ∈ as.map Prod.fst ∧ e.get? name = none := by
  rw [h.keys, List.mem_eraseDups, List.mem_filter, Option.isNone_iff_eq_none]

/-- What is not reported is as it was. -/
theorem Keeping.frame (h : Keeping e as l) (hname : name ∉ l.keys) :
    l.environment.get? name = e.get? name := by
  rw [h.values]
  cases hset : e.get? name with
  | some old => rfl
  | none =>
      have hnot : name ∉ as.map Prod.fst := fun hmem => hname (h.mem_keys_iff.mpr ⟨hmem, hset⟩)
      exact Environment.get?_eq_none_iff.mpr hnot

theorem Overriding.frame (h : Overriding e as l) (hname : name ∉ l.keys) :
    l.environment.get? name = e.get? name := by
  rw [h.keys, ← List.mem_reverse, ← List.map_reverse] at hname
  rw [h.values, Environment.get?_eq_none_iff.mpr hname, Option.none_or]

/-- Where every variable is set, nothing is carried out. -/
theorem carryOut_nothing (h : ∀ a ∈ as, (e.get? a.1).isSome = true) :
    carryOut false e as = .ok ⟨[], e⟩ := by
  induction as with
  | nil => rfl
  | cons first rest ih =>
      rw [List.forall_mem_cons] at h
      exact (carryOut_skip h.1).trans (ih h.2)

/-- Whatever was assigned is set, so there is nothing left to do for the same assignments. -/
theorem Keeping.again (h : Keeping e as l) :
    carryOut false l.environment as = .ok ⟨[], l.environment⟩ := by
  refine carryOut_nothing fun a ha => ?_
  obtain ⟨value, hvalue⟩ := Environment.exists_of_mem_keys (List.mem_map_of_mem ha)
  rw [h.values, hvalue, Option.isSome_or, Option.isSome_some, Bool.or_true]

end EnvironmentFile

end Syllabus
