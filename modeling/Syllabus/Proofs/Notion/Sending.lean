/-
  Syllabus.Proofs.Notion.Sending
  ──────────────────────────────
  **A REQUEST THAT FAILS IS THE LAST ONE.**

  What runs in a session is told by what it ends in and by the requests that it
  sends after those sent before; what it logs bears on neither.

      Session.Ends          the run sends some requests and ends in `r`
      Connection.Answered   requests go out one by one until one fails
      Connection.outcomes   what each of some requests comes to
      Connection.send_runs  a request goes out, unless it cannot be written
-/
import Syllabus.Notion.Delivery

namespace Syllabus.Notion

/-! ## §1. What runs in a session. -/

namespace Session

variable {ε α β : Type} {run : ExceptT ε (StateM Session) α} {f : α → ExceptT ε (StateM Session) β}
  {past sent sent' : List Request}

/-- After the requests `past` the run sends `sent` and ends in `r`, whatever has been logged. -/
def Ends (run : ExceptT ε (StateM Session) α) (past : List Request) (r : Except ε α)
    (sent : List Request) : Prop :=
  ∀ log, ∃ log', run.run.run ⟨past, log⟩ = (r, ⟨past ++ sent, log'⟩)

theorem ends_pure (a : α) (past : List Request) :
    Ends (pure a : ExceptT ε (StateM Session) α) past (.ok a) [] := by
  intro log
  rw [List.append_nil]
  exact ⟨log, rfl⟩

theorem Ends.bind {a : α} {r : Except ε β} (hrun : Ends run past (.ok a) sent)
    (hf : Ends (f a) (past ++ sent) r sent') : Ends (run >>= f) past r (sent ++ sent') := by
  intro log
  obtain ⟨log', hfirst⟩ := hrun log
  obtain ⟨log'', hthen⟩ := hf log'
  refine ⟨log'', ?_⟩
  rw [← List.append_assoc, ← hthen]
  simp only [ExceptT.run_bind, StateT.run_bind, hfirst]
  rfl

theorem Ends.bind_error {e : ε} (hrun : Ends run past (.error e) sent)
    (f : α → ExceptT ε (StateM Session) β) : Ends (run >>= f) past (.error e) sent := by
  intro log
  obtain ⟨log', hfirst⟩ := hrun log
  refine ⟨log', ?_⟩
  simp only [ExceptT.run_bind, StateT.run_bind, hfirst]
  rfl

/-- Something that sends nothing may come first. -/
theorem Ends.after {a : α} {r : Except ε β} (hrun : Ends run past (.ok a) [])
    (hf : Ends (f a) past r sent) : Ends (run >>= f) past r sent := by
  rw [← List.append_nil past] at hf
  exact hrun.bind hf

/-- The result may be turned into something else. -/
theorem Ends.map {r : Except ε α} (hrun : Ends run past r sent) (f : α → β) :
    Ends (run >>= fun a => pure (f a)) past (r.map f) sent := by
  cases r with
  | error e => exact hrun.bind_error _
  | ok a =>
      have hboth := hrun.bind (f := fun a => pure (f a)) (ends_pure (f a) (past ++ sent))
      rw [List.append_nil] at hboth
      exact hboth

/-- What runs when nothing has been sent. -/
theorem Ends.of_run {r result : Except ε α} {after : Session} (hends : Ends run [] r sent)
    (hrun : run.run.run {} = (result, after)) : result = r ∧ after.requests = sent := by
  obtain ⟨log, hfirst⟩ := hends []
  have heq := hrun.symm.trans hfirst
  exact ⟨congrArg Prod.fst heq, congrArg (fun p => Session.requests p.2) heq⟩

end Session

namespace Call

theorem ends_ofExcept {α : Type} (r : Except CallError α) (past : List Request) :
    Session.Ends (ofExcept r) past r [] := by
  intro log
  rw [List.append_nil]
  exact ⟨log, rfl⟩

theorem ends_logAll (lines : List LogLine) (past : List Request) :
    Session.Ends (logAll lines) past (.ok ()) [] := by
  intro log
  rw [List.append_nil]
  exact ⟨log ++ lines, rfl⟩

theorem ends_log (channel : Channel) (level : Level) (message : String) (past : List Request) :
    Session.Ends (log channel level message) past (.ok ()) [] := ends_logAll _ past

end Call

/-! ## §2. Answers. -/

namespace Connection

/-- What each of some requests comes to when they follow the requests `past`. -/
def outcomes (c : Connection) (past : List Request) : List Request → List (Except CallError Json)
  | [] => []
  | r :: rest => (c.remote past r).outcome :: c.outcomes (past ++ [r]) rest

/-- The requests follow `past`, each after the one before it succeeded; the last of them fails with
the fault, if there is one. -/
inductive Answered (c : Connection) :
    (past sent : List Request) → (fault : Option CallError) → Prop
  /-- There is nothing more to send. -/
  | done (past : List Request) : Answered c past [] none
  /-- A request fails. -/
  | failed {past : List Request} {r : Request} {e : CallError}
      (h : (c.remote past r).outcome = .error e) : Answered c past [r] (some e)
  /-- A request succeeds, and others follow. -/
  | next {past sent : List Request} {r : Request} {v : Json} {fault : Option CallError}
      (h : (c.remote past r).outcome = .ok v) (rest : Answered c (past ++ [r]) sent fault) :
      Answered c past (r :: sent) fault

variable {c : Connection}

namespace Answered

variable {past sent : List Request} {fault : Option CallError}

/-- If everything that was sent succeeded, there is no fault. -/
theorem fault_eq_none (h : c.Answered past sent fault)
    (hall : ∀ o ∈ c.outcomes past sent, ∃ v, o = .ok v) : fault = none := by
  induction h with
  | done past => rfl
  | failed hfail =>
      obtain ⟨v, hv⟩ := hall _ List.mem_cons_self
      cases hfail.symm.trans hv
  | next _ _ ih => exact ih fun o ho => hall o (List.mem_cons_of_mem _ ho)

/-- If there is no fault, everything that was sent succeeded. -/
theorem all_ok (h : c.Answered past sent fault) (hfault : fault = none) :
    ∀ o ∈ c.outcomes past sent, ∃ v, o = .ok v := by
  induction h with
  | done past =>
      intro o ho
      exact absurd ho List.not_mem_nil
  | failed _ => cases hfault
  | next hok _ ih =>
      intro o ho
      rcases List.mem_cons.mp ho with hfirst | hrest
      · exact ⟨_, hfirst.trans hok⟩
      · exact ih hfault o hrest

/-- A request that failed was the last one, and the fault is its. -/
theorem of_outcome_error (h : c.Answered past sent fault) {k : Nat} {e : CallError}
    (hk : (c.outcomes past sent)[k]? = some (.error e)) : sent.length = k + 1 ∧ fault = some e := by
  induction h generalizing k with
  | done past => exact absurd hk (by simp [outcomes])
  | failed hfail =>
      cases k with
      | zero =>
          have he := hfail.symm.trans (Option.some.inj hk)
          exact ⟨rfl, congrArg some (Except.error.inj he)⟩
      | succ k => exact absurd hk (by simp [outcomes])
  | next hok _ ih =>
      cases k with
      | zero => cases hok.symm.trans (Option.some.inj hk)
      | succ k =>
          obtain ⟨hlength, hfault⟩ := ih hk
          exact ⟨by rw [List.length_cons, hlength], hfault⟩

end Answered

end Connection

/-! ## §3. One request. -/

/-- A request asks a client's remote side for a path, without a query of its own. -/
def Client.Asks (c : Client) (method : Method) (path : String) (r : Request) : Prop :=
  r.method = method ∧ c.base.resolve path = .ok (r.path.toList, r.query.map String.toList)

/-- An error that keeps a client from asking for a path with a body: a control character in the
path, or a number that JSON lacks in the body. -/
inductive Unwritable (path : String) (body : Json) : CallError → Prop
  /-- The path is no good. -/
  | path {fault : Url.AddressFault} (h : ∃ ch ∈ path.toList, Url.isControl ch = true) :
      Unwritable path body (.address fault)
  /-- The body is no good. -/
  | body (h : body.isFinite = false) : Unwritable path body .unsendable

theorem Client.exists_control_of_resolve {b : Url.Base} {path : String} {fault : Url.AddressFault}
    (h : b.resolve path = .error fault) : ∃ ch ∈ path.toList, Url.isControl ch = true := by
  unfold Url.Base.resolve Url.checkVisible at h
  cases hfind : path.toList.find? Url.isControl with
  | some ch => exact ⟨ch, List.mem_of_find?_eq_some hfind, List.find?_some hfind⟩
  | none =>
      rw [hfind] at h
      cases h

/-- A path that can be asked for has no control characters. -/
theorem Client.visible_of_resolve {b : Url.Base} {path : String}
    {target : List Char × Option (List Char)} (h : b.resolve path = .ok target) :
    ∀ ch ∈ path.toList, Url.isControl ch = false := by
  unfold Url.Base.resolve Url.checkVisible at h
  cases hfind : path.toList.find? Url.isControl with
  | some ch =>
      rw [hfind] at h
      cases h
  | none =>
      intro ch hch
      exact Bool.eq_false_iff.mpr (List.find?_eq_none.mp hfind ch hch)

theorem Client.visible_of_request {c : Client} {method : Method} {path : String}
    {parameters : List (String × String)} {body : Option Json} {r : Request}
    (h : c.request method path parameters body = .ok r) :
    ∀ ch ∈ path.toList, Url.isControl ch = false := by
  unfold Client.request at h
  cases hresolve : c.base.resolve path with
  | error fault =>
      rw [hresolve] at h
      cases h
  | ok target => exact visible_of_resolve hresolve

theorem Client.request_written (c : Client) (method : Method) (path : String)
    (parameters : List (String × String)) (body : Option Json) :
    (∃ fault, c.base.resolve path = .error fault
      ∧ c.request method path parameters body = .error (.address fault))
    ∨ ∃ r, r.body = body ∧ c.request method path parameters body = .ok r := by
  unfold Client.request
  cases c.base.resolve path with
  | error fault => exact .inl ⟨fault, rfl, rfl⟩
  | ok target => exact .inr ⟨_, rfl, rfl⟩

theorem Client.asks_of_request {c : Client} {method : Method} {path : String} {body : Option Json}
    {r : Request} (h : c.request method path [] body = .ok r) :
    c.Asks method path r ∧ r.body = body := by
  unfold Client.Asks
  unfold Client.request at h
  cases hresolve : c.base.resolve path with
  | error fault =>
      rw [hresolve] at h
      cases h
  | ok target =>
      rw [hresolve] at h
      cases h
      simp [Function.comp_def]

/-- A request goes out and comes to what it is answered, or it cannot be written and nothing goes
out. -/
theorem Connection.send_runs (c : Connection) (method : Method) (path : String)
    (parameters : List (String × String)) (body : Option Json) (past : List Request) :
    (∃ e, Unwritable path (body.getD .null) e
      ∧ Session.Ends (c.send method path parameters body) past (.error e) [])
    ∨ ∃ r, c.client.request method path parameters body = .ok r
        ∧ (∀ v, body = some v → v.isFinite = true)
        ∧ Session.Ends (c.send method path parameters body) past (c.remote past r).outcome [r] := by
  unfold Connection.send
  rcases c.client.request_written method path parameters body with
    ⟨fault, hresolve, hreq⟩ | ⟨r, hbody, hreq⟩
  · rw [hreq]
    exact .inl ⟨.address fault, .path (Client.exists_control_of_resolve hresolve),
      (Call.ends_ofExcept _ past).bind_error _⟩
  · rw [hreq]
    by_cases hfinite : r.body.all Json.isFinite = true
    · refine .inr ⟨r, rfl, ?_, (Call.ends_ofExcept _ past).after ?_⟩
      · rintro v rfl
        rw [hbody] at hfinite
        exact hfinite
      · rw [if_pos hfinite]
        intro log
        exact ⟨log ++ (c.remote past r).remarks r.method path, rfl⟩
    · refine .inl ⟨.unsendable, .body ?_, (Call.ends_ofExcept _ past).after ?_⟩
      · rw [hbody] at hfinite
        cases body with
        | none => exact absurd rfl hfinite
        | some v => exact Bool.eq_false_iff.mpr hfinite
      · rw [if_neg hfinite]
        exact Call.ends_ofExcept (.error .unsendable) past

/-- The same of a request with a body and without parameters. -/
theorem Connection.send_ends (c : Connection) (method : Method) (path : String) (body : Json)
    (past : List Request) :
    (∃ e, Unwritable path body e ∧ Session.Ends (c.send method path [] (some body)) past (.error e) [])
    ∨ ∃ r, c.client.Asks method path r ∧ r.body = some body ∧ body.isFinite = true
        ∧ Session.Ends (c.send method path [] (some body)) past (c.remote past r).outcome [r] := by
  refine (c.send_runs method path [] (some body) past).imp_right ?_
  rintro ⟨r, hreq, hfinite, hends⟩
  obtain ⟨hasks, hbody⟩ := Client.asks_of_request hreq
  exact ⟨r, hasks, hbody, hfinite body rfl, hends⟩

/-- What the outcome of a request is where an object is needed. -/
def objectOutcome (o : Except CallError Json) : Except CallError Json :=
  match o with
  | .ok v => if v.isObject then .ok v else .error .notAnObject
  | .error e => .error e

/-- A request whose answer must be an object goes out in the same way. -/
theorem Connection.sendForObject_runs (c : Connection) (method : Method) (path : String)
    (parameters : List (String × String)) (body : Option Json) (past : List Request) :
    (∃ e, Unwritable path (body.getD .null) e
      ∧ Session.Ends (c.sendForObject method path parameters body) past (.error e) [])
    ∨ ∃ r, c.client.request method path parameters body = .ok r
        ∧ (∀ v, body = some v → v.isFinite = true)
        ∧ Session.Ends (c.sendForObject method path parameters body) past
            (objectOutcome (c.remote past r).outcome) [r] := by
  unfold Connection.sendForObject
  rcases c.send_runs method path parameters body past with
    ⟨e, hun, hends⟩ | ⟨r, hreq, hfinite, hends⟩
  · exact .inl ⟨e, hun, hends.bind_error _⟩
  · refine .inr ⟨r, hreq, hfinite, ?_⟩
    cases hreply : (c.remote past r).outcome with
    | error e =>
        rw [hreply] at hends
        exact hends.bind_error _
    | ok v =>
        rw [hreply] at hends
        rw [← List.append_nil [r]]
        refine hends.bind ?_
        unfold objectOutcome
        by_cases hobject : v.isObject = true
        · rw [if_pos hobject]
          simp only [if_pos hobject]
          exact Session.ends_pure v _
        · rw [if_neg hobject]
          simp only [if_neg hobject]
          exact Call.ends_ofExcept (.error .notAnObject) _

/-- The same of a request with a body and without parameters. -/
theorem Connection.sendForObject_ends (c : Connection) (method : Method) (path : String)
    (body : Json) (past : List Request) :
    (∃ e, Unwritable path body e
      ∧ Session.Ends (c.sendForObject method path [] (some body)) past (.error e) [])
    ∨ ∃ r, c.client.Asks method path r ∧ r.body = some body ∧ body.isFinite = true
        ∧ Session.Ends (c.sendForObject method path [] (some body)) past
            (objectOutcome (c.remote past r).outcome) [r] := by
  refine (c.sendForObject_runs method path [] (some body) past).imp_right ?_
  rintro ⟨r, hreq, hfinite, hends⟩
  obtain ⟨hasks, hbody⟩ := Client.asks_of_request hreq
  exact ⟨r, hasks, hbody, hfinite body rfl, hends⟩

end Syllabus.Notion
