/-
  Syllabus.Proofs.Json.Places
  ───────────────────────────
  **A PATH THAT IS WRITTEN DOWN CAN BE FOLLOWED.**

  A path leads into a value step by step, and so does the text that it is
  written as, segment by segment: on an object a segment is the name of a
  member, on an array the index of an item.  Both lead to the same place, as
  long as no name is empty or has a point in it.

      Json.at?         the value that a path leads to
      Json.locate?     the value that a location leads to
      locate?_of_at?   the location of a plain path leads where the path does
-/
import Syllabus.Json.Basic
import Syllabus.Path
import Syllabus.Proofs.Text.Numeral

namespace Syllabus

/-! ## §1. Following a path. -/

/-- The value that a step leads to. -/
def Step.follow? : Step → Json → Option Json
  | .key name, v => v.member? name
  | .index i, v => v.items[i]?

namespace Json

/-- The value that a path leads to, if there is one. -/
def at? (v : Json) : Path → Option Json
  | [] => some v
  | step :: rest => (step.follow? v).bind fun w => w.at? rest

theorem at?_append {v w : Json} {p q : Path} (h : v.at? p = some w) :
    v.at? (p ++ q) = w.at? q := by
  induction p generalizing v with
  | nil =>
      rw [← Option.some.inj h]
      rfl
  | cons step p ih =>
      obtain ⟨u, hstep, hrest⟩ := Option.bind_eq_some_iff.mp h
      show (step.follow? v).bind (fun u => u.at? (p ++ q)) = _
      rw [hstep]
      exact ih hrest

/-- The items of a member are found under its name and their index. -/
theorem at?_items {v w : Json} {name : String} {i : Nat}
    (h : (w, i) ∈ (v.member name).items.zipIdx) : v.at? [.key name, .index i] = some w := by
  have hitem : (v.member name).items[i]? = some w := List.mem_zipIdx_iff_getElem?.mp h
  show (v.member? name).bind (fun u => (u.items[i]?).bind fun w => some w) = some w
  unfold member at hitem
  cases hmember : v.member? name with
  | none =>
      rw [hmember] at hitem
      cases hitem
  | some u =>
      rw [hmember] at hitem
      show (u.items[i]?).bind _ = some w
      rw [show u.items[i]? = some w from hitem]
      rfl

/-! ## §2. Following a location. -/

/-- The value that a segment of a location leads to. -/
def segment? (segment : String) : Json → Option Json
  | .obj ms => lookup segment ms
  | .arr vs => (vs.zipIdx.find? fun m => toString m.2 == segment).map Prod.fst
  | _ => none

/-- The value at a location, whose segments stand between points.  Without a location it is the whole
value. -/
def locate? (v : Json) : (location : Option String) → Option Json
  | none => some v
  | some text => ((text.toList.splitOn '.').map String.ofList).foldlM (fun v s => segment? s v) v

end Json

/-- A step whose text shows, and has no point in it. -/
def Step.Plain (step : Step) : Prop := step.text ≠ "" ∧ '.' ∉ step.text.toList

instance (step : Step) : Decidable step.Plain :=
  inferInstanceAs (Decidable (step.text ≠ "" ∧ '.' ∉ step.text.toList))

theorem Step.plain_index (i : Nat) : (Step.index i).Plain :=
  ⟨Nat.repr_ne_empty, Text.notMem_natural (by decide) i⟩

/-- The text of a step leads where the step does. -/
theorem Step.segment?_text {step : Step} {v w : Json} (h : step.follow? v = some w) :
    Json.segment? step.text v = some w := by
  cases step with
  | key name =>
      cases v <;> first | exact h | cases h
  | index i =>
      cases v with
      | arr vs =>
          have hitem : vs[i]? = some w := h
          have hi : i < vs.length := (List.getElem?_eq_some_iff.mp hitem).1
          -- No other index is written in the same way.
          have hfind : (vs.zipIdx.find? fun m => toString m.2 == toString i) = some (w, i) := by
            refine List.find?_eq_some_iff_getElem.mpr ⟨beq_self_eq_true _, i, ?_, ?_, ?_⟩
            · rw [List.length_zipIdx]
              exact hi
            · rw [List.getElem_zipIdx, Nat.zero_add, (List.getElem?_eq_some_iff.mp hitem).2]
            · intro j hj
              rw [List.getElem_zipIdx, Nat.zero_add, Bool.not_eq_true', beq_eq_false_iff_ne]
              intro hsame
              exact absurd (Text.natural_injective hsame) (Nat.ne_of_lt hj)
          show ((vs.zipIdx.find? fun m => toString m.2 == toString i).map Prod.fst) = some w
          rw [hfind]
          rfl
      | _ => cases h

theorem Json.foldlM_segments {v w : Json} {p : Path} (h : v.at? p = some w) :
    (p.map Step.text).foldlM (fun v s => segment? s v) v = some w := by
  induction p generalizing v with
  | nil => exact h
  | cons step p ih =>
      obtain ⟨u, hstep, hrest⟩ := Option.bind_eq_some_iff.mp h
      rw [List.map_cons, List.foldlM_cons, Step.segment?_text hstep]
      exact ih hrest

/-- What is written of a plain path splits into what is written of its steps. -/
theorem Path.splitOn_dotted {p : Path} (hp : ∀ step ∈ p, step.Plain) (hne : p ≠ []) :
    (p.dotted.toList.splitOn '.').map String.ofList = p.map Step.text := by
  unfold dotted
  rw [String.toList_intercalate, show ".".toList = ['.'] from rfl, List.splitOn_intercalate]
  · simp
  · intro segment hsegment
    simp only [List.map_map, List.mem_map, Function.comp_apply] at hsegment
    obtain ⟨step, hstep, rfl⟩ := hsegment
    exact (hp step hstep).2
  · simpa using hne

theorem Path.dotted_ne_empty {p : Path} (hp : ∀ step ∈ p, step.Plain) (hne : p ≠ []) :
    p.dotted ≠ "" := by
  intro hempty
  have hsplit := splitOn_dotted hp hne
  rw [hempty] at hsplit
  -- An empty text is a single empty segment, and no step is written like that.
  cases p with
  | nil => exact hne rfl
  | cons step p =>
      have hfirst : "" = step.text := (List.cons.inj hsplit).1
      exact (hp step List.mem_cons_self).1 hfirst.symm

/-- The location of a path leads where the path does. -/
theorem Json.locate?_of_at? {v w : Json} {p : Path} (hp : ∀ step ∈ p, step.Plain)
    (h : v.at? p = some w) : v.locate? p.location? = some w := by
  by_cases hne : p = []
  · rw [hne] at h ⊢
    exact h
  · have hlocation : p.location? = some p.dotted := by
      unfold Path.location?
      dsimp only
      rw [if_neg (by rw [String.isEmpty_iff]; exact Path.dotted_ne_empty hp hne)]
    rw [hlocation]
    show ((p.dotted.toList.splitOn '.').map String.ofList).foldlM (fun v s => segment? s v) v = _
    rw [Path.splitOn_dotted hp hne]
    exact foldlM_segments h

end Syllabus
