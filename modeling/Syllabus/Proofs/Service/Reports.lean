/-
  Syllabus.Proofs.Service.Reports
  ───────────────────────────────
  **A REPORT DOES NOT REPEAT THE BODY.**

  A body that is turned down is reported error by error, and every error comes
  with the value that was submitted, in itself and often in its context.  This
  value makes no difference to the report.  All else an error says is in it,
  under the text of its key and as the nearest JSON value; so a report is JSON
  whatever the errors hold.

      SameContext           values that differ in the input of a context only
      scrubbed_eq           errors that differ in the input only are scrubbed alike
      Reports               what a report of an error says
      reports_hide_input    reports are JSON, complete, and do not tell the input
-/
import Syllabus.Proofs.Service.Detail
import Syllabus.Proofs.Service.Redaction

namespace Syllabus.Service

/-! ## §1. Errors that differ in the input only. -/

/-- The key is not that of the submitted value. -/
def isToldKey (key : Detail) : Bool := !isKey inputKey key

theorem isKey_iff (name : String) (key : Detail) : isKey name key = true ↔ key = .str name := by
  cases key with
  | str s =>
      show decide (s = name) = true ↔ _
      rw [decide_eq_true_iff, Detail.str.injEq]
  | _ => exact ⟨nofun, nofun⟩

theorem isToldKey_eq_false_iff (key : Detail) : isToldKey key = false ↔ key = .str inputKey := by
  unfold isToldKey
  rw [Bool.not_eq_false', isKey_iff]

theorem withoutInput_eq (es : List (Detail × Detail)) : withoutInput es = keptBy isToldKey es := rfl

/-- Two values under a key of an error differ in nothing, or, under the key of the context, in the
input of two maps only. -/
inductive SameContext : Detail → Detail → Detail → Prop
  /-- They are the same. -/
  | same (key v) : SameContext key v v
  /-- They are contexts, and except for the input they have the same entries in the same order. -/
  | context {cs ds} (h : SameBut (fun key => key = .str inputKey) (fun _ v w => v = w) cs ds) :
      SameContext (.str contextKey) (.map cs) (.map ds)

/-- Two errors differ in the submitted value only, in themselves and in their contexts. -/
def SameButInput (es fs : List (Detail × Detail)) : Prop :=
  SameBut (fun key => key = .str inputKey) SameContext es fs

/-- Entries without the input are the same if they differ in nothing else. -/
theorem withoutInput_congr {es fs : List (Detail × Detail)}
    (h : SameBut (fun key => key = .str inputKey) (fun _ v w => v = w) es fs) :
    withoutInput es = withoutInput fs := by
  rw [withoutInput_eq, withoutInput_eq, ← List.forall₂_eq_eq_eq]
  exact (h.forall₂ isToldKey_eq_false_iff).imp fun e f hentry => Prod.ext hentry.1 hentry.2

/-- The value of an entry as it is told: that of a context is told without the input. -/
def told (key value : Detail) : Detail :=
  if isKey contextKey key then withoutInputIn value else value

theorem SameContext.told_eq {key v w : Detail} (h : SameContext key v w) :
    told key v = told key w := by
  cases h with
  | same => rfl
  | context h => exact congrArg Detail.map (withoutInput_congr h)

theorem scrubbed_eq_map (es : List (Detail × Detail)) :
    scrubbed es = (keptBy isToldKey es).map fun e => (e.1, told e.1 e.2) := by
  unfold scrubbed
  rw [withoutInput_eq]
  refine List.map_congr_left fun (key, value) _ => ?_
  show (if isKey contextKey key then (key, withoutInputIn value) else (key, value))
    = (key, if isKey contextKey key then withoutInputIn value else value)
  split <;> rfl

/-- Errors that differ in the input only are scrubbed alike. -/
theorem SameButInput.scrubbed_eq {es fs : List (Detail × Detail)} (h : SameButInput es fs) :
    scrubbed es = scrubbed fs := by
  rw [scrubbed_eq_map, scrubbed_eq_map, map_eq_map_iff]
  refine (h.forall₂ isToldKey_eq_false_iff).imp fun e f hentry => ?_
  obtain ⟨hkey, hvalue⟩ := hentry
  rw [Prod.mk.injEq]
  exact ⟨hkey, hvalue.told_eq.trans (by rw [hkey])⟩

/-! ## §2. What a report says. -/

/-- An object reports an error. -/
structure Reports (error : List (Detail × Detail)) (members : List (String × Json)) : Prop where
  /-- It is JSON: no name is repeated in it, at any depth. -/
  json : (Detail.ofJson (.obj members)).IsJson
  /-- Under each name it has the nearest value of the last entry whose key reads as this name, of
  those that are not the input. -/
  complete : ∀ name, Json.lookup name members
    = Json.lookup name ((keptBy isToldKey error).reverse.map fun e =>
        (Detail.shown e.1, (told e.1 e.2).toJson))

/-- What an error is reported as is an object that reports it. -/
theorem reportJson_reports (error : List (Detail × Detail)) :
    ∃ members, reportJson (.map error) = .obj members ∧ Reports error members := by
  have hobject : reportJson (.map error)
      = .obj (Json.mergeMembers ((scrubbed error).map fun e => (Detail.shown e.1, e.2.toJson))) :=
    Detail.toJson_map (scrubbed error)
  -- Keys that read alike become one name when the members are merged, and the last one counts.
  refine ⟨_, hobject, ?_, ?_⟩
  · rw [← hobject]
    exact Detail.isJson_ofJson (Detail.namesOnce_toJson (.map (scrubbed error)))
  · intro name
    rw [Json.lookup_mergeMembers, scrubbed_eq_map, List.map_map, ← List.map_reverse]
    rfl

/-- **A REPORT IS JSON, AND DOES NOT TELL WHAT WAS SUBMITTED.**

Errors of a body may hold anything: sequences, sets, bytes, other errors, maps with any keys.  There
is one object for each, made of nothing that JSON lacks, in which stands all that the error says
besides the submitted value.  Lists of errors that differ in this value only, in the errors themselves
or in their contexts, are reported alike.  And the nearest JSON value, by which all this is said, is
the value itself exactly if it is JSON already; taken twice it is the same as taken once. -/
theorem reports_hide_input :
    (∀ errors : List (List (Detail × Detail)), ∃ objects : List (List (String × Json)),
        reportsJson (errors.map .map) = objects.map .obj ∧ List.Forall₂ Reports errors objects)
      ∧ (∀ errors others : List (List (Detail × Detail)),
          List.Forall₂ SameButInput errors others →
            reportsJson (errors.map .map) = reportsJson (others.map .map))
      ∧ (∀ d : Detail, Detail.ofJson d.toJson = d ↔ d.IsJson)
      ∧ ∀ d : Detail, (Detail.ofJson d.toJson).toJson = d.toJson := by
  refine ⟨?_, ?_, Detail.ofJson_toJson_iff, Detail.toJson_ofJson_toJson⟩
  · intro errors
    induction errors with
    | nil => exact ⟨[], rfl, .nil⟩
    | cons error errors ih =>
        obtain ⟨members, hobject, hreports⟩ := reportJson_reports error
        obtain ⟨objects, hobjects, hall⟩ := ih
        refine ⟨members :: objects, ?_, .cons hreports hall⟩
        exact congrArg₂ List.cons hobject hobjects
  · intro errors others h
    unfold reportsJson
    rw [List.map_map, List.map_map, map_eq_map_iff]
    refine h.imp fun error other hsame => ?_
    exact congrArg (fun es => (Detail.map es).toJson) hsame.scrubbed_eq

/-- An error about a secret, and the same error about a number: the input stands in another place, and
is missing from the context. -/
theorem reports_hide_input_secret :
    let context : List (Detail × Detail) := [(.str "error", .fault "ValueError" [.str "no"])]
    let secret : List (Detail × Detail) :=
      [(.str "msg", .str "bad"), (.str "input", .str "hunter2"),
        (.str "ctx", .map ((.str "input", .bytes [1]) :: context))]
    let number : List (Detail × Detail) :=
      [(.str "msg", .str "bad"), (.str "ctx", .map context), (.str "input", .int 5)]
    SameButInput secret number
      ∧ reportsJson [.map secret] = reportsJson [.map number]
      ∧ reportsJson [.map number]
        = [.obj [("msg", .str "bad"), ("ctx", .obj [("error", .str "ValueError: no")])]] := by
  intro context secret number
  have hcontext : SameContext (.str contextKey) (.map ((.str "input", .bytes [1]) :: context))
      (.map context) := .context (.left rfl (.both rfl .nil))
  have hsame : SameButInput secret number :=
    .both (.same _ _) (.left rfl (.both hcontext (.right rfl .nil)))
  refine ⟨hsame, reports_hide_input.2.1 [secret] [number] (.cons hsame .nil), ?_⟩
  decide

end Syllabus.Service
