/-
  Syllabus.Proofs.Service.Answering
  ─────────────────────────────────
  **FROM WHAT A TASK COMES TO, TO ITS ANSWER.**

  Carrying out a task is told by what it ends in and by the requests that it
  sends, as a call to the remote side is.  An answer is told by its status and
  by what it says; headers bear on neither.

      Response.Grants      the answer reports success and says `v`
      Response.Declines    the answer reports that there is none
      Setup.respond_ends   a result is granted, a failure declines, and no
                           request is sent but those of the task
-/
import Syllabus.Proofs.Notion.Sending
import Syllabus.Service.Server

namespace Syllabus.Service

open Notion (Session)

/-! ## §1. Handling. -/

namespace Handling

variable {α : Type}

theorem ends_ofExcept (r : Except Interruption α) (past : List Notion.Request) :
    Session.Ends (ofExcept r) past r [] := by
  intro log
  rw [List.append_nil]
  exact ⟨log, rfl⟩

theorem ends_ofCall {call : Notion.Call α} {past sent : List Notion.Request}
    {r : Except Notion.CallError α} (h : Session.Ends call past r sent) :
    Session.Ends (ofCall call) past (r.mapError .ofCallError) sent := by
  intro log
  obtain ⟨log', hrun⟩ := h log
  refine ⟨log', ?_⟩
  show ofCall call ⟨past, log⟩ = _
  unfold ofCall
  rw [hrun]
  cases r <;> rfl

theorem ends_logAll (lines : List LogLine) (past : List Notion.Request) :
    Session.Ends (logAll lines) past (.ok ()) [] := ends_ofCall (Notion.Call.ends_logAll lines past)

end Handling

/-! ## §2. Answers. -/

/-- The answer reports success, and says `v` as far as JSON can. -/
structure Response.Grants (a : Response) (v : Json) : Prop where
  status : a.status = 200
  content : a.content = .json v.finiteOnly

/-- The answer reports that there is no success. -/
structure Response.Declines (a : Response) : Prop where
  status : 400 ≤ a.status
  content : ∃ ms, a.content = .json (.obj (("success", .bool false) :: ms))

/-- The interruption is answered with a status of failure, if it has one of its own. -/
def Interruption.Fails : Interruption → Prop
  | .refused refusal => 400 ≤ refusal.status
  | _ => True

theorem Interruption.fails_ofCallError (e : Notion.CallError) : (Interruption.ofCallError e).Fails := by
  cases e <;> trivial

theorem Interruption.fails_badRequest (detail : Json) : (Interruption.badRequest detail).Fails :=
  show (400 : Int) ≤ 400 by omega

theorem declines_errorBody {status : Int} (h : 400 ≤ status) (detail : Json) (id : Option String)
    (headers : Headers) : (Response.json status (errorBody detail id) headers).Declines :=
  ⟨h, _, rfl⟩

theorem Fault.answer_declines (fault : Fault) (o : Occasion) : (fault.answer o).1.Declines :=
  declines_errorBody (by omega) _ _ _

theorem Refusal.answer_declines {refusal : Refusal} (h : 400 ≤ refusal.status) {e : Environment}
    {o : Occasion} {answer : Response × List LogLine} (hanswer : refusal.answer e o = .ok answer) :
    answer.1.Declines := by
  unfold Refusal.answer at hanswer
  cases hsettings : Settings.ofEnvironment e with
  | error fault =>
      rw [hsettings] at hanswer
      exact absurd hanswer (by simp [bind, Except.bind])
  | ok settings =>
      rw [hsettings] at hanswer
      simp only [bind, Except.bind, pure, Except.pure] at hanswer
      split at hanswer
      · rw [← Except.ok.inj hanswer]
        exact declines_errorBody h _ _ _
      · rw [← Except.ok.inj hanswer]
        exact declines_errorBody h _ _ _

theorem remoteStatus_fails (status : Nat) : 400 ≤ remoteStatus status := by
  unfold remoteStatus
  split <;> omega

/-- An interruption that fails is answered so, unless the service itself is at fault. -/
theorem Interruption.answer_declines {i : Interruption} (h : i.Fails) {e : Environment} {o : Occasion}
    {answer : Response × List LogLine} (hanswer : i.answer e o = .ok answer) : answer.1.Declines := by
  cases i with
  | refused refusal =>
      have hanswer : (refusal.answer e o).mapError Fault.settings = .ok answer := hanswer
      cases hrefusal : refusal.answer e o with
      | error fault =>
          rw [hrefusal] at hanswer
          cases hanswer
      | ok given =>
          rw [hrefusal] at hanswer
          rw [← Except.ok.inj hanswer]
          exact Refusal.answer_declines h hrefusal
  | malformed reports =>
      rw [← Except.ok.inj hanswer]
      exact declines_errorBody (by omega) _ _ _
  | remote error =>
      rw [← Except.ok.inj hanswer]
      exact ⟨Int.ofNat_le.mpr (remoteStatus_fails error.status), _, rfl⟩
  | unconfigured =>
      rw [← Except.ok.inj hanswer]
      exact declines_errorBody (by omega) _ _ _
  | broken fault =>
      -- This is answered further out, as a fault of the service.
      exact absurd hanswer (by simp [Interruption.answer])

/-! ## §3. Requests that lead to a task. -/

theorem Preflight.of?_eq_none {method : String} (h : method ≠ "OPTIONS") (hs : Headers) :
    Preflight.of? method hs = none := by
  unfold Preflight.of?
  cases hs.get? "origin" with
  | none => rfl
  | some origin =>
      cases hs.get? "access-control-request-method" with
      | none => rfl
      | some asked => exact if_neg h

section Responding

variable {s : Setup} {r : Request} {t : Task} {outcome : Except Interruption Json}
  {sent : List Notion.Request}

theorem Setup.route_ends (hdestination : Destination.of r.method r.scope.path = .task t)
    (hends : Session.Ends (t.carryOut s r.scope.headers r.body) [] outcome sent) (o : Occasion)
    (log : List LogLine) :
    ∃ log', s.route o r ⟨[], log⟩ = (concluded s o outcome, ⟨sent, log'⟩) := by
  obtain ⟨log', hrun⟩ := hends log
  refine ⟨log', ?_⟩
  unfold Setup.route
  rw [hdestination]
  dsimp only
  rw [hrun]
  rfl

/-- A request that leads to a task is answered by what the task comes to: its result is granted, and
an interruption that fails declines.  The requests that are sent are those of the task. -/
theorem Setup.respond_ends (hoptions : r.method ≠ "OPTIONS") (hhead : r.method ≠ "HEAD")
    (hdestination : Destination.of r.method r.scope.path = .task t)
    (hends : Session.Ends (t.carryOut s r.scope.headers r.body) [] outcome sent) {id : String} {elapsed : Nat}
    {answer : Response} {after : Notion.Session} (hrespond : s.respond id elapsed r {} = (answer, after)) :
    after.requests = sent ∧ (∀ v, outcome = .ok v → answer.Grants v)
      ∧ ∀ i, outcome = .error i → i.Fails → answer.Declines := by
  obtain ⟨log', hroute⟩ := Setup.route_ends hdestination hends (r.occasion id)
    ([] ++ arrivalLines id r.scope)
  have hsent : ∀ a : Response, sentFor r.method a = a := fun a => if_neg hhead
  unfold Setup.respond Setup.answer at hrespond
  rw [Preflight.of?_eq_none hoptions] at hrespond
  dsimp only at hrespond
  rw [hroute] at hrespond
  dsimp only at hrespond
  -- What is added to an answer on the way out touches its headers only.
  cases hconcluded : concluded s (r.occasion id) outcome with
  | error fault =>
      rw [hconcluded] at hrespond
      obtain ⟨rfl, rfl⟩ := Prod.mk.inj hrespond
      rw [hsent]
      refine ⟨rfl, ?_, fun i _ _ => fault.answer_declines _⟩
      rintro v rfl
      cases hconcluded
  | ok given =>
      obtain ⟨plain, lines⟩ := given
      rw [hconcluded] at hrespond
      obtain ⟨rfl, rfl⟩ := Prod.mk.inj hrespond
      rw [hsent]
      refine ⟨rfl, ?_, ?_⟩
      · rintro v rfl
        cases hconcluded
        exact ⟨rfl, rfl⟩
      · rintro i rfl hfails
        have hdeclines := Interruption.answer_declines hfails hconcluded
        exact ⟨hdeclines.status, hdeclines.content⟩

end Responding

end Syllabus.Service
