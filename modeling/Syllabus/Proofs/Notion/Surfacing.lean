/-
  Syllabus.Proofs.Notion.Surfacing
  ────────────────────────────────
  **WHERE THE ERRORS OF A CALL COME FROM.**

  Ten operations go through one way of sending, and each of their errors has
  its cause.  A request that is refused or gets no answer gives the error of
  the remote side; a test of the connection makes a result of it.  What is
  left are arguments that cannot be written, a success that cannot be read or
  is not what was asked for, and a listing that goes on for too long.

      Operation                  what can be asked of a connection
      Operation.fault            what is wrong with an answer that succeeded
      Operation.Fails            the errors of an operation with their causes
      Connection.Settles         the run of an operation, told by its requests
      operation_errors_surface   every operation, whatever the remote side does
-/
import Syllabus.Proofs.Notion.Delivery

namespace Syllabus.Notion

/-! ## §1. Operations. -/

/-- What can be asked of a connection. -/
inductive Operation where
  /-- Whether the token is accepted. -/
  | test
  /-- A search. -/
  | search (query kind : Option String)
  /-- A page. -/
  | page (id : String)
  /-- A database. -/
  | database (id : String)
  /-- A data source. -/
  | dataSource (id : String)
  /-- The data sources of a database. -/
  | dataSources (id : String)
  /-- The children of a block. -/
  | children (id : String)
  /-- A new page. -/
  | createPage (parent properties : List (String × Json)) (blocks : List Json) (icon cover : Json)
  /-- Other properties of a page. -/
  | updatePage (id : String) (properties : List (String × Json))
  /-- More blocks in a block. -/
  | append (id : String) (blocks : List Json)

namespace Operation

/-- An operation on a connection; what it gives is left out. -/
def run (c : Connection) : Operation → Call Unit
  | .test => do let _ ← c.test; pure ()
  | .search query kind => do let _ ← c.search query kind; pure ()
  | .page id => do let _ ← c.page id; pure ()
  | .database id => do let _ ← c.database id; pure ()
  | .dataSource id => do let _ ← c.dataSource id; pure ()
  | .dataSources id => do let _ ← c.dataSources id; pure ()
  | .children id => do let _ ← c.children id; pure ()
  | .createPage parent properties blocks icon cover => do
      let _ ← c.createPage parent properties blocks icon cover
      pure ()
  | .updatePage id properties => do let _ ← c.updatePage id properties; pure ()
  | .append id blocks => do let _ ← c.append id blocks; pure ()

/-- The path that an operation asks for. -/
def path : Operation → String
  | .test => "/users/me"
  | .search _ _ => "/search"
  | .page id => s!"/pages/{id}"
  | .database id => s!"/databases/{id}"
  | .dataSource id => s!"/data_sources/{id}"
  | .dataSources id => s!"/databases/{id}"
  | .children id => childrenPath id
  | .createPage .. => "/pages"
  | .updatePage id _ => s!"/pages/{id}"
  | .append id _ => childrenPath id

/-- What an operation sends of its arguments. -/
def carried : Operation → List Json
  | .createPage parent properties blocks icon cover =>
      [pageBody parent properties blocks icon cover]
  | .updatePage _ properties => [.obj [("properties", .obj properties)]]
  | .append _ blocks => blocks
  | _ => []

/-- Whether the arguments of an operation can be sent: there is no control character in the path and
no number that JSON lacks in what is carried. -/
def Writable (op : Operation) : Prop :=
  (∀ ch ∈ op.path.toList, Url.isControl ch = false) ∧ ∀ v ∈ op.carried, v.isFinite = true

end Operation

/-- What is wrong with an answer that should be an object. -/
def objectFault (v : Json) : Option CallError := if v.isObject then none else some .notAnObject

/-- What is wrong with an answer that should bring results. -/
def resultsFault (v : Json) : Option CallError :=
  if v.isObject then
    match results v with
    | .ok _ => none
    | .error e => some e
  else some .notAnObject

/-- What an operation finds wrong with an answer that succeeded. -/
def Operation.fault : Operation → Json → Option CallError
  | .test, _ | .dataSource _, _ | .append _ _, _ => none
  | .search _ _, v | .children _, v => resultsFault v
  | .page _, v | .database _, v | .dataSources _, v | .createPage _ _ _ _ _, v
  | .updatePage _ _, v => objectFault v

/-- What an operation makes of a request that failed: testing a connection, it is a result if the
remote side refused or kept silent. -/
def Operation.surfaced : Operation → CallError → Except CallError Unit
  | .test, .remote _ => .ok ()
  | _, e => .error e

theorem resultsFault_of_not_isObject {v : Json} (h : v.isObject = false) :
    resultsFault v = some .notAnObject := by
  rw [resultsFault, h, if_neg Bool.false_ne_true]

theorem resultsFault_of_results {v : Json} {e : CallError} (hobject : v.isObject = true)
    (h : results v = .error e) : resultsFault v = some e := by
  rw [resultsFault, hobject, if_pos rfl, h]

theorem searchBody_isFinite (query kind : Option String) :
    (searchBody query kind).isFinite = true := by
  refine Json.isFinite_obj_iff.mpr ?_
  intro m hm
  simp only [List.mem_append, List.mem_cons, List.mem_map] at hm
  rcases hm with (rfl | ⟨q, _, rfl⟩) | ⟨k, _, rfl⟩ <;> exact decide_eq_true rfl

/-! ## §2. Causes. -/

section Causes

variable (op : Operation) (c : Connection) (patience : Nat) (past sent : List Request)

/-- An error that ends an operation although none of its requests failed, with its cause. -/
inductive Operation.Withheld : CallError → Prop
  /-- The path cannot be written. -/
  | path {fault : Url.AddressFault} (h : ∃ ch ∈ op.path.toList, Url.isControl ch = true) :
      Withheld (.address fault)
  /-- What is carried cannot be written. -/
  | body (h : ∃ v ∈ op.carried, v.isFinite = false) : Withheld .unsendable
  /-- The last answer is no good. -/
  | answer {v : Json} {e : CallError} (hv : (c.outcomes past sent).getLast? = some (.ok v))
      (h : op.fault v = some e) : Withheld e
  /-- There would be more. -/
  | endless {id : String} (hop : op = .children id) (h : sent.length = patience) : Withheld .endless

/-- An error of an operation, with its cause. -/
inductive Operation.Fails : CallError → Prop
  /-- The last request was refused or got no answer. -/
  | remote {e : RemoteError} (hop : op ≠ .test)
      (h : (c.outcomes past sent).getLast? = some (.error (.remote e))) : Fails (.remote e)
  /-- The last request succeeded, and its answer is not JSON. -/
  | unreadable {e : Json.ReadError}
      (h : (c.outcomes past sent).getLast? = some (.error (.unreadable e))) : Fails (.unreadable e)
  /-- No request failed. -/
  | withheld {e : CallError} (h : op.Withheld c patience past sent e) : Fails e

end Causes

namespace Operation.Withheld

variable {op : Operation} {c : Connection} {patience : Nat} {past sent : List Request}
  {e : CallError}

/-- What keeps a request from being written keeps the operation from it. -/
theorem of_unwritable {body : Option Json}
    (hbody : ∀ v, body = some v → v.isFinite = false → ∃ x ∈ op.carried, x.isFinite = false)
    (h : Unwritable op.path (body.getD .null) e) : op.Withheld c patience past sent e := by
  cases h with
  | path h => exact .path h
  | body h =>
      cases body with
      | none =>
          rw [Option.getD_none, Json.isFinite_null] at h
          cases h
      | some v => exact .body (hbody v rfl h)

/-- An answer that is found wrong when nothing has followed it. -/
theorem of_answer {q : Request} {v : Json} (hreply : (c.remote past q).outcome = .ok v)
    (h : op.fault v = some e) : op.Withheld c patience past [q] e :=
  .answer (by rw [Connection.outcomes, hreply]; rfl) h

/-- What ends an operation after some requests ends it after one more before them. -/
theorem cons {q : Request} (h : op.Withheld c patience (past ++ [q]) sent e) :
    op.Withheld c (patience + 1) past (q :: sent) e := by
  cases h with
  | path h => exact .path h
  | body h => exact .body h
  | answer hv h =>
      refine .answer ?_ h
      rw [Connection.outcomes, List.getLast?_cons, hv, Option.getD_some]
  | endless hop h => exact .endless hop (congrArg Nat.succ h)

end Operation.Withheld

/-- A request fails because it was refused or got no answer, or because a success cannot be read. -/
theorem Reply.error_cases {reply : Reply} {e : CallError} (h : reply.outcome = .error e) :
    (∃ x, e = .remote x) ∨ ∃ x, e = .unreadable x := by
  cases reply with
  | silence reason =>
      cases h
      exact .inl ⟨_, rfl⟩
  | answer status body =>
      simp only [outcome] at h
      by_cases hsuccess : isSuccess status = true
      · rw [if_pos hsuccess] at h
        cases body with
        | ok v => cases h
        | error x =>
            cases h
            exact .inr ⟨x, rfl⟩
      · rw [if_neg hsuccess] at h
        cases h
        exact .inl ⟨_, rfl⟩

namespace Connection.Answered

variable {c : Connection} {past sent : List Request} {fault : Option CallError} {e : CallError}

/-- The last request is the one that failed. -/
theorem getLast?_outcomes (h : c.Answered past sent fault) (hfault : fault = some e) :
    (c.outcomes past sent).getLast? = some (.error e) := by
  induction h with
  | done past => cases hfault
  | failed hfail =>
      cases hfault
      rw [outcomes, hfail]
      rfl
  | next _ _ ih => rw [outcomes, List.getLast?_cons, ih hfault, Option.getD_some]

theorem fault_cases (h : c.Answered past sent fault) (hfault : fault = some e) :
    (∃ x, e = .remote x) ∨ ∃ x, e = .unreadable x := by
  induction h with
  | done past => cases hfault
  | failed hfail =>
      cases hfault
      exact Reply.error_cases hfail
  | next _ _ ih => exact ih hfault

end Connection.Answered

/-! ## §3. Calls told by their requests. -/

/-- A call sends requests until one fails.  It ends in the error of that one, in an error that is
allowed after the requests sent, or in a result. -/
def Connection.Settles {α : Type} (c : Connection)
    (withheld : (sent : List Request) → CallError → Prop) (run : Call α) (past : List Request) :
    Prop :=
  ∃ r sent fault, Session.Ends run past r sent ∧ c.Answered past sent fault
    ∧ Settled (fun _ => True) (withheld sent) r fault

namespace Connection.Settles

variable {α β : Type} {c : Connection} {withheld : List Request → CallError → Prop}
  {past : List Request}

theorem mono {run : Call α} {withheld' : List Request → CallError → Prop}
    (h : c.Settles withheld run past) (himp : ∀ sent e, withheld sent e → withheld' sent e) :
    c.Settles withheld' run past := by
  obtain ⟨r, sent, fault, hends, hanswered, hsettled⟩ := h
  refine ⟨r, sent, fault, hends, hanswered, ?_⟩
  cases hsettled with
  | failed e => exact .failed e
  | withheld he => exact .withheld (himp sent _ he)
  | complete _ => exact .complete trivial

theorem pure (a : α) : c.Settles withheld (Pure.pure a) past :=
  ⟨.ok a, [], none, Session.ends_pure a past, .done past, .complete trivial⟩

/-- Something may be logged first. -/
theorem after_log {run : Call α} {channel : Channel} {level : Level} {message : String}
    (h : c.Settles withheld run past) :
    c.Settles withheld (Call.log channel level message >>= fun _ => run) past := by
  obtain ⟨r, sent, fault, hends, hrest⟩ := h
  exact ⟨r, sent, fault, (Call.ends_log _ _ _ past).after hends, hrest⟩

/-- The result may be turned into something else. -/
theorem map {run : Call α} (h : c.Settles withheld run past) (f : α → β) :
    c.Settles withheld (run >>= fun a => Pure.pure (f a)) past := by
  obtain ⟨r, sent, fault, hends, hanswered, hsettled⟩ := h
  exact ⟨r.map f, sent, fault, hends.map f, hanswered,
    hsettled.mono (fun _ _ => trivial) fun _ he => he⟩

/-- Something that needs no request is worked out first. -/
theorem ofExcept_bind {x : Except CallError α} {f : α → Call β}
    (herror : ∀ e, x = .error e → withheld [] e)
    (hok : ∀ a, x = .ok a → c.Settles withheld (f a) past) :
    c.Settles withheld (Call.ofExcept x >>= f) past := by
  cases x with
  | error e =>
      exact ⟨.error e, [], none, (Call.ends_ofExcept _ past).bind_error f, .done past,
        .withheld (herror e rfl)⟩
  | ok a =>
      obtain ⟨r, sent, fault, hends, hrest⟩ := hok a rfl
      exact ⟨r, sent, fault, (Call.ends_ofExcept _ past).after hends, hrest⟩

/-- A request is sent, and something follows if it succeeds. -/
theorem send_bind {method : Method} {path : String} {parameters : List (String × String)}
    {body : Option Json} {f : Json → Call β}
    (hunwritable : ∀ e, Unwritable path (body.getD .null) e → withheld [] e)
    (hok : ∀ q v, (c.remote past q).outcome = .ok v →
      c.Settles (fun sent => withheld (q :: sent)) (f v) (past ++ [q])) :
    c.Settles withheld (c.send method path parameters body >>= f) past := by
  rcases c.send_runs method path parameters body past with
    ⟨e, hun, hends⟩ | ⟨q, _, _, hends⟩
  · exact ⟨.error e, [], none, hends.bind_error f, .done past, .withheld (hunwritable e hun)⟩
  · cases hreply : (c.remote past q).outcome with
    | error e =>
        rw [hreply] at hends
        exact ⟨.error e, [q], some e, hends.bind_error f, .failed hreply, .failed e⟩
    | ok v =>
        rw [hreply] at hends
        obtain ⟨r, sent, fault, hthen, hanswered, hsettled⟩ := hok q v hreply
        exact ⟨r, q :: sent, fault, hends.bind hthen, .next hreply hanswered, hsettled⟩

/-- The same of a request whose answer must be an object. -/
theorem sendForObject_bind {method : Method} {path : String} {parameters : List (String × String)}
    {body : Option Json} {f : Json → Call β}
    (hunwritable : ∀ e, Unwritable path (body.getD .null) e → withheld [] e)
    (hnone : ∀ q v, (c.remote past q).outcome = .ok v → v.isObject = false →
      withheld [q] .notAnObject)
    (hok : ∀ q v, (c.remote past q).outcome = .ok v → v.isObject = true →
      c.Settles (fun sent => withheld (q :: sent)) (f v) (past ++ [q])) :
    c.Settles withheld (c.sendForObject method path parameters body >>= f) past := by
  unfold sendForObject
  rw [bind_assoc]
  refine send_bind hunwritable ?_
  intro q v hreply
  cases hobject : v.isObject with
  | true =>
      rw [if_pos rfl, pure_bind]
      exact hok q v hreply hobject
  | false =>
      rw [if_neg Bool.false_ne_true]
      refine ⟨.error .notAnObject, [], none, ?_, .done _, .withheld (hnone q v hreply hobject)⟩
      exact (Call.ends_ofExcept (.error .notAnObject) _).bind_error f

end Connection.Settles

/-! ## §4. The operations. -/

namespace Connection

variable (c : Connection) (past : List Request)

/-- An operation that sends one request and turns the object it is answered into something. -/
theorem object_settles {α : Type} (op : Operation) (patience : Nat) (method : Method)
    (body : Option Json) (f : Json → α)
    (hbody : ∀ v, body = some v → v.isFinite = false → ∃ x ∈ op.carried, x.isFinite = false)
    (hfault : ∀ v, op.fault v = objectFault v) :
    c.Settles (op.Withheld c patience past)
      (c.sendForObject method op.path [] body >>= fun v => pure (f v)) past := by
  refine .sendForObject_bind (fun e he => .of_unwritable hbody he) ?_ ?_
  · intro q v hreply hobject
    refine .of_answer hreply ?_
    rw [hfault v, objectFault, hobject, if_neg Bool.false_ne_true]
  · intro q v _ _
    exact .pure (f v)

/-- A body whose absence is known is no obstacle. -/
theorem no_body {op : Operation} (v : Json) (h : none = some v) (_ : v.isFinite = false) :
    ∃ x ∈ op.carried, x.isFinite = false := by
  cases h

theorem search_settles (query kind : Option String) {patience : Nat} :
    c.Settles ((Operation.search query kind).Withheld c patience past) (c.search query kind)
      past := by
  have hbody : ∀ v, some (searchBody query kind) = some v → v.isFinite = false →
      ∃ x ∈ (Operation.search query kind).carried, x.isFinite = false := by
    rintro v hv hfinite
    rw [← Option.some.inj hv, searchBody_isFinite] at hfinite
    cases hfinite
  refine .sendForObject_bind (fun e he => .of_unwritable hbody he) ?_ ?_
  · intro q v hreply hobject
    exact .of_answer hreply (resultsFault_of_not_isObject hobject)
  · intro q v hreply hobject
    refine .ofExcept_bind ?_ fun found _ => .pure _
    intro e he
    exact .of_answer hreply (resultsFault_of_results hobject he)

/-- A listing: after each answer there is nothing more, or the listing again. -/
theorem childrenFrom_settles (id : String) (patience : Nat) :
    ∀ (cursor : Option Json) (past : List Request),
      c.Settles ((Operation.children id).Withheld c patience past)
        (c.childrenFrom id patience cursor) past := by
  induction patience with
  | zero =>
      intro cursor past
      exact ⟨.error .endless, [], none, Call.ends_ofExcept (.error .endless) past, .done past,
        .withheld (.endless rfl rfl)⟩
  | succ patience ih =>
      intro cursor past
      refine .sendForObject_bind (fun e he => .of_unwritable no_body he) ?_ ?_
      · intro q v hreply hobject
        exact .of_answer hreply (resultsFault_of_not_isObject hobject)
      · intro q v hreply hobject
        refine .ofExcept_bind ?_ ?_
        · intro e he
          exact .of_answer hreply (resultsFault_of_results hobject he)
        · intro found _
          cases nextCursor? v with
          | none => exact .pure found
          | some next =>
              exact ((ih (some next) (past ++ [q])).mono fun sent e he => he.cons).map _

theorem append_settles (id : String) (blocks : List Json) {patience : Nat} :
    c.Settles ((Operation.append id blocks).Withheld c patience past) (c.append id blocks) past := by
  obtain ⟨r, sent, fault, hends, hcarries, hsettled⟩ :=
    c.appendFrom_carries id (batches c.client.batchSize blocks).length
      (batches c.client.batchSize blocks) 1 past
  rw [flatten_batches] at hsettled
  refine .map ⟨r, sent, fault, hends, hcarries.answered, ?_⟩ _
  cases hsettled with
  | failed e => exact .failed e
  | complete _ => exact .complete trivial
  | withheld h =>
      cases h with
      | id h => exact .withheld (.path (h.imp fun ch hch => ⟨mem_childrenPath hch.1, hch.2⟩))
      | block h => exact .withheld (.body h)

theorem createPage_settles (parent properties : List (String × Json)) (blocks : List Json)
    (icon cover : Json) {patience : Nat} :
    c.Settles ((Operation.createPage parent properties blocks icon cover).Withheld c patience past)
      (c.createPage parent properties blocks icon cover) past := by
  have hsent := c.object_settles past
    (.createPage parent properties blocks icon cover) patience .post
    (some (pageBody parent properties blocks icon cover)) Page.of
    (fun v hv hfinite => ⟨v, by cases hv; exact List.mem_singleton_self _, hfinite⟩) fun _ => rfl
  unfold createPage
  cases Json.lookup "data_source_id" parent with
  | none => exact hsent
  | some id => exact .after_log hsent

/-- Every operation but the test of a connection, which makes something of an error. -/
theorem settles {op : Operation} (hop : op ≠ .test) :
    c.Settles (op.Withheld c c.patience past) (op.run c) past := by
  cases op with
  | test => exact absurd rfl hop
  | search query kind => exact (c.search_settles past query kind).map _
  | page id => exact (c.object_settles past (.page id) _ .get none Page.of no_body fun _ => rfl).map _
  | database id =>
      exact (c.object_settles past (.database id) _ .get none Database.of no_body fun _ => rfl).map _
  | dataSource id =>
      refine .send_bind ?_ fun q v _ => .pure ()
      intro e he
      have he : Unwritable (Operation.dataSource id).path (Option.getD none .null) e := he
      exact .of_unwritable no_body he
  | dataSources id =>
      exact ((c.object_settles past (.dataSources id) _ .get none Database.of no_body
        fun _ => rfl).map Database.dataSources).map _
  | children id => exact (c.childrenFrom_settles id c.patience none past).map _
  | createPage parent properties blocks icon cover =>
      exact (c.createPage_settles past parent properties blocks icon cover).map _
  | updatePage id properties =>
      exact (c.object_settles past (.updatePage id properties) _ .patch
        (some (.obj [("properties", .obj properties)])) Page.of
        (fun v hv hfinite => ⟨v, by cases hv; exact List.mem_singleton_self _, hfinite⟩)
        fun _ => rfl).map _
  | append id blocks => exact (c.append_settles past id blocks).map _

/-- What a test of the connection makes of its request. -/
def tested : Except CallError Json → Except CallError Bool
  | .ok _ => .ok true
  | .error (.remote _) => .ok false
  | .error e => .error e

/-- Testing a connection, an error of the remote side is a result. -/
theorem test_ends {c : Connection} {past sent : List Request} {r : Except CallError Json}
    (h : Session.Ends (c.send .get "/users/me") past r sent) :
    Session.Ends c.test past (tested r) sent := by
  intro log
  obtain ⟨log', hsent⟩ := h log
  show ∃ log', c.test ⟨past, log⟩ = _
  unfold test
  rw [hsent]
  cases r with
  | ok v => exact ⟨log', rfl⟩
  | error e => cases e <;> exact ⟨_, rfl⟩

/-- It always sends one request. -/
theorem test_asks (c : Connection) (past : List Request) : ∃ q,
    Session.Ends (c.send .get "/users/me") past (c.remote past q).outcome [q] := by
  rcases c.send_runs .get "/users/me" [] none past with ⟨e, hun, _⟩ | ⟨q, _, _, hends⟩
  · cases hun with
    | path h =>
        obtain ⟨ch, hmem, hcontrol⟩ := h
        rw [isControl_of_mem (by decide) hmem] at hcontrol
        cases hcontrol
    | body h =>
        rw [Option.getD_none, Json.isFinite_null] at h
        cases h
  · exact ⟨q, hends⟩

end Connection

/-! ## §5. Errors and their causes. -/

/-- What a request comes to is nothing worse than a refusal, for an operation. -/
def Operation.Takes (op : Operation) : Except CallError Json → Prop
  | .ok v => op.fault v = none
  | .error e => ∃ x, e = .remote x

/-- If nothing is wrong with the arguments and the answers, an error is one of the remote side, or a
listing does not end. -/
theorem Operation.Fails.surfaces {op : Operation} {c : Connection} {patience : Nat}
    {past sent : List Request} {e : CallError} (h : op.Fails c patience past sent e)
    (hwritable : op.Writable) (htakes : ∀ o ∈ c.outcomes past sent, op.Takes o) :
    (op ≠ .test ∧ ∃ x, e = .remote x)
      ∨ (∃ id, op = .children id) ∧ e = .endless ∧ sent.length = patience := by
  cases h with
  | remote hop _ => exact .inl ⟨hop, _, rfl⟩
  | unreadable h =>
      obtain ⟨x, hx⟩ := htakes _ (List.mem_of_getLast? h)
      cases hx
  | withheld h =>
      cases h with
      | path h =>
          obtain ⟨ch, hmem, hcontrol⟩ := h
          rw [hwritable.1 ch hmem] at hcontrol
          cases hcontrol
      | body h =>
          obtain ⟨v, hv, hfinite⟩ := h
          rw [hwritable.2 v hv] at hfinite
          cases hfinite
      | answer hv h =>
          have hnone : op.fault _ = none := htakes _ (List.mem_of_getLast? hv)
          rw [hnone] at h
          cases h
      | endless hop h => exact .inr ⟨⟨_, hop⟩, rfl, h⟩

/-- An operation ends, its errors have their causes, and a request that fails is the last one. -/
def Connection.Explains (c : Connection) (op : Operation) (past : List Request) : Prop :=
  ∃ r sent, Session.Ends (op.run c) past r sent
    ∧ (∀ e, r = .error e → op.Fails c c.patience past sent e)
    ∧ ∀ k e, (c.outcomes past sent)[k]? = some (.error e) →
        sent.length = k + 1 ∧ r = op.surfaced e

/-- A test is one request. -/
theorem Connection.explains_test (c : Connection) (past : List Request) : c.Explains .test past := by
  obtain ⟨q, hsend⟩ := c.test_asks past
  refine ⟨_, [q], (Connection.test_ends hsend).map fun _ => (), ?cause, ?last⟩
  case cause =>
      intro e he
      cases hreply : (c.remote past q).outcome with
      | ok v =>
          rw [hreply] at he
          cases he
      | error x =>
          rw [hreply] at he
          rcases Reply.error_cases hreply with ⟨y, rfl⟩ | ⟨y, rfl⟩
          · cases he
          · cases he
            exact .unreadable (by rw [Connection.outcomes, hreply]; rfl)
  case last =>
      intro k e hk
      cases k with
      | succ k => exact absurd hk (by simp [Connection.outcomes])
      | zero =>
          have hreply : (c.remote past q).outcome = .error e := Option.some.inj hk
          rw [hreply]
          refine ⟨rfl, ?_⟩
          cases e <;> rfl

/-- Any other operation passes the error of its last request on. -/
theorem Connection.explains {op : Operation} (hop : op ≠ .test) (c : Connection)
    (past : List Request) : c.Explains op past := by
  obtain ⟨r, sent, fault, hends, hanswered, hsettled⟩ := c.settles past hop
  refine ⟨r, sent, hends, ?cause, ?last⟩
  case cause =>
      rintro e rfl
      cases hsettled with
      | failed e =>
          have hlast := hanswered.getLast?_outcomes rfl
          rcases hanswered.fault_cases rfl with ⟨x, rfl⟩ | ⟨x, rfl⟩
          · exact .remote hop hlast
          · exact .unreadable hlast
      | withheld h => exact .withheld h
  case last =>
      intro k e hk
      obtain ⟨hlength, rfl⟩ := hanswered.of_outcome_error hk
      refine ⟨hlength, ?_⟩
      cases hsettled
      cases op with
      | test => exact absurd rfl hop
      | _ => rfl

/-- **The errors of an operation and their causes.**

Whatever the remote side does, an operation sends its requests and ends.  If it ends in an error,
that has its cause in the last request, in what that was answered, in the arguments, or in the
length of a listing.  A request that fails is the last one, and its error is the operation's, except
that a test of the connection takes an error of the remote side for a result.  So if the arguments
can be sent and no answer that succeeds is at fault, the only error there is, besides that of a
listing that does not end, is the remote side's, and a test has none at all. -/
theorem operation_errors_surface (c : Connection) (op : Operation) (past : List Request) :
    ∃ r sent, Session.Ends (op.run c) past r sent
      ∧ (∀ e, r = .error e → op.Fails c c.patience past sent e)
      ∧ (∀ k e, (c.outcomes past sent)[k]? = some (.error e) →
          sent.length = k + 1 ∧ r = op.surfaced e)
      ∧ (op.Writable → (∀ o ∈ c.outcomes past sent, op.Takes o) → ∀ e, r = .error e →
          (op ≠ .test ∧ ∃ x, e = .remote x)
            ∨ (∃ id, op = .children id) ∧ e = .endless ∧ sent.length = c.patience) := by
  have hexplains : c.Explains op past := by
    by_cases hop : op = .test
    · rw [hop]
      exact c.explains_test past
    · exact Connection.explains hop c past
  obtain ⟨r, sent, hends, hfails, hlast⟩ := hexplains
  exact ⟨r, sent, hends, hfails, hlast,
    fun hwritable htakes e he => (hfails e he).surfaces hwritable htakes⟩

/-- A test of the connection against a remote side that answers with success and a bare word: the
word is no JSON, and that is neither a result nor an error of the remote side. -/
theorem connection_test_unreadable :
    let client : Client :=
      { token := "ntn_1", base := ⟨"https://api.notion.com".toList, "/v1/".toList⟩,
        version := interfaceVersion, timeout := Decimal.scaled false 30 0, batchSize := 100 }
    let c : Connection := ⟨client, fun _ _ => .answer 200 (Json.parse "oops"), 1⟩
    let result := (c.test.run.run {}).1
    (∃ e, result = .error (.unreadable e)) ∧ (∀ b, result ≠ .ok b)
      ∧ ∀ e, result ≠ .error (.remote e) := by
  intro client c result
  have hresult : result = .error (.unreadable ⟨.expectedValue, 0, 1, 1⟩) := by
    decide +kernel
  rw [hresult]
  refine ⟨⟨_, rfl⟩, ?_, ?_⟩
  · intro b hb
    cases hb
  · intro e he
    cases he

end Syllabus.Notion
