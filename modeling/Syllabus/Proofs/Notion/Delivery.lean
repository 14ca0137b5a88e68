/-
  Syllabus.Proofs.Notion.Delivery
  ───────────────────────────────
  **WHAT IS SENT IS A BEGINNING OF WHAT WAS TO BE SENT.**

  A delivery creates a page and appends to it, and each of its requests
  carries the next batch of blocks.  Whatever the remote side answers, no
  block is lost, repeated or out of order among those that were sent; how far
  it gets depends on the first request that fails, and on nothing else if
  the blocks and the id of the page can be written at all.  If they cannot,
  the request that would need it is not sent, and the run ends there.

      Client.parcels          what the requests of a delivery carry
      Deliverable             blocks and an id that can be written
      Connection.Carries      requests that carry some batches to a page
      appendFrom_carries      the run of the appending loop
      deliver_ships           the run of a delivery, whatever the batch size
      delivered_in_order      what arrives, with batches that are taken
-/
import Mathlib.Algebra.Order.Floor.Div
import Syllabus.Proofs.Block.Pieces
import Syllabus.Proofs.Notion.Sending

namespace Syllabus

/-! ## §1. Values that can be written. -/

namespace Json

theorem isFinite_iff {v : Json} : v.isFinite = true ↔ v.finiteOnly = v := decide_eq_true_iff

theorem finiteItems_eq_iff {xs : List Json} :
    finiteItems xs = xs ↔ ∀ x ∈ xs, x.isFinite = true := by
  induction xs with
  | nil => exact iff_of_true rfl (List.forall_mem_nil _)
  | cons x rest ih =>
      show x.finiteOnly :: finiteItems rest = x :: rest ↔ _
      rw [List.cons.injEq, List.forall_mem_cons, isFinite_iff, ih]

theorem finiteMembers_eq_iff {ms : List (String × Json)} :
    finiteMembers ms = ms ↔ ∀ m ∈ ms, m.2.isFinite = true := by
  induction ms with
  | nil => exact iff_of_true rfl (List.forall_mem_nil _)
  | cons m rest ih =>
      obtain ⟨k, v⟩ := m
      show (k, v.finiteOnly) :: finiteMembers rest = (k, v) :: rest ↔ _
      rw [List.cons.injEq, Prod.mk.injEq, List.forall_mem_cons, isFinite_iff, ih]
      exact and_congr_left' (and_iff_right rfl)

theorem isFinite_arr_iff {xs : List Json} :
    (Json.arr xs).isFinite = true ↔ ∀ x ∈ xs, x.isFinite = true := by
  rw [isFinite_iff, ← finiteItems_eq_iff]
  exact ⟨Json.arr.inj, congrArg Json.arr⟩

theorem isFinite_obj_iff {ms : List (String × Json)} :
    (Json.obj ms).isFinite = true ↔ ∀ m ∈ ms, m.2.isFinite = true := by
  rw [isFinite_iff, ← finiteMembers_eq_iff]
  exact ⟨Json.obj.inj, congrArg Json.obj⟩

/-- If only some parts of a value can be to blame, one of them is. -/
theorem exists_not_isFinite {xs : List Json} {v : Json}
    (hv : (∀ x ∈ xs, x.isFinite = true) → v.isFinite = true) (h : v.isFinite = false) :
    ∃ x ∈ xs, x.isFinite = false := by
  by_contra hnone
  have hall : ∀ x ∈ xs, x.isFinite = true := by
    intro x hx
    by_contra hfinite
    exact hnone ⟨x, hx, Bool.eq_false_iff.mpr hfinite⟩
  rw [hv hall] at h
  cases h

@[simp] theorem isFinite_null : Json.null.isFinite = true := decide_eq_true rfl

end Json

namespace Notion

theorem pageIcon_isFinite (icon : Option String) : (pageIcon icon).isFinite = true := by
  unfold pageIcon external
  split
  · exact Json.isFinite_null
  · split <;> simp [Json.isFinite, Json.finiteOnly, Json.finiteMembers]

theorem pageCover_isFinite (cover : Option String) : (pageCover cover).1.isFinite = true := by
  unfold pageCover external
  split
  · exact Json.isFinite_null
  · split <;> simp [Json.isFinite, Json.finiteOnly, Json.finiteMembers]

/-- What creates the page of a course can be written exactly if its blocks can. -/
theorem pageBody_isFinite_iff (course : Course) (parent : Parent) {blocks : List Json} :
    (pageBody parent.members (titleProperties course.title parent.titleProperty) blocks
      (pageIcon course.icon) (pageCover course.cover).1).isFinite = true
      ↔ ∀ x ∈ blocks, x.isFinite = true := by
  have hparent : (Json.obj parent.members).isFinite = true := by
    cases parent <;> simp [Parent.members, Json.isFinite, Json.finiteOnly, Json.finiteMembers]
  have htitle : (Json.obj (titleProperties course.title parent.titleProperty)).isFinite = true := by
    simp [titleProperties, Json.isFinite, Json.finiteOnly, Json.finiteMembers, Json.finiteItems]
  have hgiven : ∀ (name : String) (v : Json), v.isFinite = true →
      ∀ m ∈ if v.isTruthy then [(name, v)] else [], m.2.isFinite = true := by
    intro name v hv m hm
    split at hm
    · rw [List.mem_singleton.mp hm]
      exact hv
    · exact absurd hm List.not_mem_nil
  constructor
  · intro h
    refine Json.isFinite_arr_iff.mp (Json.isFinite_obj_iff.mp h ("children", .arr blocks) ?_)
    simp
  · intro h
    refine Json.isFinite_obj_iff.mpr ?_
    intro m hm
    rcases List.mem_append.mp hm with hm | hcover
    · rcases List.mem_append.mp hm with hm | hicon
      · simp only [List.mem_cons, List.not_mem_nil, or_false] at hm
        rcases hm with rfl | rfl | rfl
        · exact hparent
        · exact htitle
        · exact Json.isFinite_arr_iff.mpr h
      · exact hgiven "icon" _ (pageIcon_isFinite course.icon) m hicon
    · exact hgiven "cover" _ (pageCover_isFinite course.cover) m hcover

/-! ## §2. Batches. -/

/-- What the requests of a delivery carry: the page is created with the first batch, which may be
empty, and the others follow. -/
def parcels {α : Type} (size : Nat) (xs : List α) : List (List α) :=
  xs.take size :: Block.chunks size (xs.drop size)

section Parcels

variable {α : Type} {size : Nat}

theorem flatten_parcels (xs : List α) : (parcels size xs).flatten = xs := by
  unfold parcels
  rw [List.flatten_cons, Block.flatten_chunks, List.take_append_drop]

end Parcels

theorem cutList_append {α : Type} (index : Int) (xs : List α) :
    (cutList index xs).1 ++ (cutList index xs).2 = xs := by
  unfold cutList
  rw [List.splitAt_eq, List.take_append_drop]

theorem flatten_batches {α : Type} (size : Int) (xs : List α) : (batches size xs).flatten = xs :=
  Block.flatten_chunks _ xs

/-- What the requests of a delivery carry, with the batch size of a client. -/
def Client.parcels {α : Type} (client : Client) (xs : List α) : List (List α) :=
  (cutList client.batchSize xs).1 :: batches client.batchSize (cutList client.batchSize xs).2

theorem Client.flatten_parcels {α : Type} (client : Client) (xs : List α) :
    (client.parcels xs).flatten = xs := by
  unfold parcels
  rw [List.flatten_cons, flatten_batches, cutList_append]

/-- An error that keeps blocks from being sent to a page, whatever the remote side says: a number
that JSON lacks in one of them, or a control character in the id of the page. -/
inductive Undeliverable (id : String) (blocks : List Json) : CallError → Prop
  /-- The id is no good. -/
  | id {fault : Url.AddressFault} (h : ∃ ch ∈ id.toList, Url.isControl ch = true) :
      Undeliverable id blocks (.address fault)
  /-- A block is no good. -/
  | block (h : ∃ x ∈ blocks, x.isFinite = false) : Undeliverable id blocks .unsendable

theorem Undeliverable.mono {id : String} {blocks blocks' : List Json} {e : CallError}
    (h : Undeliverable id blocks e) (hsub : ∀ x ∈ blocks, x ∈ blocks') :
    Undeliverable id blocks' e := by
  cases h with
  | id h => exact .id h
  | block h => exact .block (h.imp fun x hx => ⟨hsub x hx.1, hx.2⟩)

/-- The path under which blocks are appended to a page. -/
def childrenPath (id : String) : String := s!"/blocks/{id}/children"

theorem mem_childrenPath {id : String} {ch : Char} (h : ch ∈ id.toList) :
    ch ∈ (childrenPath id).toList := by
  simp only [childrenPath, String.toList_append, List.mem_append]
  exact .inl (.inr h)

/-- What is sent to append blocks to a page. -/
theorem appendBody_isFinite_iff {batch : List Json} :
    (Json.obj [("children", .arr batch)]).isFinite = true ↔ ∀ x ∈ batch, x.isFinite = true := by
  rw [Json.isFinite_obj_iff, List.forall_mem_singleton]
  exact Json.isFinite_arr_iff

theorem isControl_of_mem {cs : List Char} (hcs : cs.any Url.isControl = false) {ch : Char}
    (hmem : ch ∈ cs) : Url.isControl ch = false :=
  Bool.eq_false_iff.mpr (List.any_eq_false.mp hcs ch hmem)

theorem exists_control_of_childrenPath {id : String}
    (h : ∃ ch ∈ (childrenPath id).toList, Url.isControl ch = true) :
    ∃ ch ∈ id.toList, Url.isControl ch = true := by
  obtain ⟨ch, hmem, hcontrol⟩ := h
  have hparts : (childrenPath id).toList
      = "/blocks/".toList ++ id.toList ++ "/children".toList := by
    simp only [childrenPath, String.toList_append]
    rfl
  rw [hparts, List.mem_append, List.mem_append] at hmem
  rcases hmem with (hmem | hmem) | hmem
  · rw [isControl_of_mem (by decide) hmem] at hcontrol
    cases hcontrol
  · exact ⟨ch, hmem, hcontrol⟩
  · rw [isControl_of_mem (by decide) hmem] at hcontrol
    cases hcontrol

theorem Unwritable.undeliverable {id : String} {batch : List Json} {e : CallError}
    (h : Unwritable (childrenPath id) (.obj [("children", .arr batch)]) e) :
    Undeliverable id batch e := by
  cases h with
  | path h => exact .id (exists_control_of_childrenPath h)
  | body h => exact .block (Json.exists_not_isFinite appendBody_isFinite_iff.mpr h)

/-- How a call that goes through batches ends: with the error of the request that failed, with an
error before a request could be sent, or complete. -/
inductive Settled {α : Type} (complete : α → Prop) (withheld : CallError → Prop) :
    (r : Except CallError α) → (fault : Option CallError) → Prop
  /-- A request failed. -/
  | failed (e : CallError) : Settled complete withheld (.error e) (some e)
  /-- No request failed, but the next could not be sent. -/
  | withheld {e : CallError} (h : withheld e) : Settled complete withheld (.error e) none
  /-- No request failed, and there is nothing left. -/
  | complete {a : α} (h : complete a) : Settled complete withheld (.ok a) none

theorem Settled.mono {α β : Type} {complete : α → Prop} {complete' : β → Prop}
    {withheld withheld' : CallError → Prop} {r : Except CallError α} {fault : Option CallError}
    {f : α → β} (h : Settled complete withheld r fault)
    (hcomplete : ∀ a, complete a → complete' (f a)) (hwithheld : ∀ e, withheld e → withheld' e) :
    Settled complete' withheld' (r.map f) fault := by
  cases h with
  | failed e => exact .failed e
  | withheld h => exact .withheld (hwithheld _ h)
  | complete h => exact .complete (hcomplete _ h)

namespace Connection

/-- The requests after `past` carry the first of some batches to a page, one batch each. -/
structure Carries (c : Connection) (id : String) (parts : List (List Json))
    (past sent : List Request) (fault : Option CallError) : Prop where
  /-- They ask for nothing but this. -/
  asks : ∀ r ∈ sent, c.client.Asks .patch (childrenPath id) r
  /-- They carry the batches in order. -/
  children : sent.map Request.children = parts.take sent.length
  /-- JSON has every number in them. -/
  finite : ∀ r ∈ sent, ∀ x ∈ r.children, x.isFinite = true
  /-- They go out until one fails. -/
  answered : c.Answered past sent fault

/-- The appending loop: one batch is sent, and what follows is the loop again. -/
theorem appendFrom_carries (c : Connection) (id : String) (count : Nat) :
    ∀ (parts : List (List Json)) (index : Nat) (past : List Request), ∃ r sent fault,
      Session.Ends (c.appendFrom id count index parts) past r sent
      ∧ c.Carries id parts past sent fault
      ∧ Settled (fun _ => sent.length = parts.length) (Undeliverable id parts.flatten) r fault := by
  intro parts
  induction parts with
  | nil =>
      intro index past
      exact ⟨.ok (), [], none, Session.ends_pure () past,
        ⟨List.forall_mem_nil _, rfl, List.forall_mem_nil _, .done past⟩, .complete rfl⟩
  | cons batch rest ih =>
      intro index past
      have hlog := Call.ends_log .client .info
        s!"Appending batch {index}/{count} ({batch.length} blocks) to {id}" past
      rcases c.send_ends .patch (childrenPath id) (.obj [("children", .arr batch)]) past with
        ⟨e, hun, hends⟩ | ⟨q, hasks, hbody, hwritten, hends⟩
      · refine ⟨.error e, [], none, hlog.after (hends.bind_error _),
          ⟨List.forall_mem_nil _, rfl, List.forall_mem_nil _, .done past⟩,
          .withheld (hun.undeliverable.mono ?_)⟩
        intro x hx
        exact List.mem_append_left _ hx
      · have hchildren : q.children = batch := by
          unfold Request.children
          rw [hbody]
          rfl
        have hfinite : ∀ x ∈ q.children, x.isFinite = true := by
          rw [hchildren]
          exact appendBody_isFinite_iff.mp hwritten
        cases hreply : (c.remote past q).outcome with
        | error e =>
            rw [hreply] at hends
            refine ⟨.error e, [q], some e, hlog.after (hends.bind_error _),
              ⟨List.forall_mem_singleton.mpr hasks, ?_, List.forall_mem_singleton.mpr hfinite,
                .failed hreply⟩, .failed e⟩
            rw [List.map_singleton, hchildren]
            rfl
        | ok v =>
            rw [hreply] at hends
            obtain ⟨r, sent, fault, hrest, hcarries, hsettled⟩ := ih (index + 1) (past ++ [q])
            refine ⟨r, q :: sent, fault, hlog.after (hends.bind hrest),
              ⟨List.forall_mem_cons.mpr ⟨hasks, hcarries.asks⟩, ?_,
                List.forall_mem_cons.mpr ⟨hfinite, hcarries.finite⟩,
                .next hreply hcarries.answered⟩, ?_⟩
            · rw [List.map_cons, hchildren, hcarries.children]
              rfl
            · have hstep : Settled (fun _ => (q :: sent).length = (batch :: rest).length)
                  (Undeliverable id (batch :: rest).flatten) (r.map fun u => u) fault :=
                hsettled.mono (fun _ hlength => congrArg Nat.succ hlength)
                  fun e he => he.mono fun x hx => List.mem_append_right batch hx
              cases r <;> exact hstep

/-- The same of appending blocks that are left over, if there are any. -/
theorem append_carries (c : Connection) (id : String) (blocks : List Json) (past : List Request) :
    ∃ r sent fault,
      Session.Ends (if blocks.isEmpty then pure 0 else c.append id blocks) past r sent
      ∧ c.Carries id (batches c.client.batchSize blocks) past sent fault
      ∧ Settled (fun n => n = sent.length ∧ sent.length = (batches c.client.batchSize blocks).length)
          (fun e => blocks ≠ [] ∧ Undeliverable id blocks e) r fault := by
  cases blocks with
  | nil =>
      exact ⟨.ok 0, [], none, Session.ends_pure 0 past,
        ⟨List.forall_mem_nil _, rfl, List.forall_mem_nil _, .done past⟩, .complete ⟨rfl, rfl⟩⟩
  | cons x xs =>
      rw [if_neg (by simp)]
      unfold append
      obtain ⟨r, sent, fault, hends, hcarries, hsettled⟩ :=
        c.appendFrom_carries id (batches c.client.batchSize (x :: xs)).length
          (batches c.client.batchSize (x :: xs)) 1 past
      rw [flatten_batches] at hsettled
      exact ⟨r.map fun _ => (batches c.client.batchSize (x :: xs)).length, sent, fault,
        hends.map fun _ => (batches c.client.batchSize (x :: xs)).length, hcarries,
        hsettled.mono (fun _ hlength => ⟨hlength.symm, hlength⟩)
          fun _ he => ⟨List.cons_ne_nil x xs, he⟩⟩

/-- Creating the page of a course sends one request, with the first batch. -/
theorem createPage_ends (c : Connection) (course : Course) (parent : Parent) (blocks : List Json) :
    (∃ e, (∀ id, Undeliverable id blocks e)
      ∧ Session.Ends (c.createPage parent.members (titleProperties course.title parent.titleProperty)
          blocks (pageIcon course.icon) (pageCover course.cover).1) [] (.error e) [])
    ∨ ∃ q, c.client.Asks .post "/pages" q ∧ q.children = blocks
      ∧ (∀ x ∈ blocks, x.isFinite = true)
      ∧ Session.Ends (c.createPage parent.members (titleProperties course.title parent.titleProperty)
          blocks (pageIcon course.icon) (pageCover course.cover).1) []
          ((objectOutcome (c.remote [] q).outcome).map Page.of) [q] := by
  -- Neither kind of parent is a data source, so nothing comes before the request.
  have hplain : c.createPage parent.members (titleProperties course.title parent.titleProperty)
        blocks (pageIcon course.icon) (pageCover course.cover).1
      = (do
          let v ← c.sendForObject .post "/pages" [] (some (pageBody parent.members
            (titleProperties course.title parent.titleProperty) blocks (pageIcon course.icon)
            (pageCover course.cover).1))
          pure (Page.of v)) := by
    cases parent <;> rfl
  rw [hplain]
  rcases c.sendForObject_ends .post "/pages" (pageBody parent.members
      (titleProperties course.title parent.titleProperty) blocks (pageIcon course.icon)
      (pageCover course.cover).1) [] with ⟨e, hun, hends⟩ | ⟨q, hasks, hbody, hwritten, hends⟩
  · refine .inl ⟨e, ?_, hends.bind_error _⟩
    intro id
    cases hun with
    | path h =>
        obtain ⟨ch, hmem, hcontrol⟩ := h
        rw [isControl_of_mem (by decide) hmem] at hcontrol
        cases hcontrol
    | body h =>
        exact .block (Json.exists_not_isFinite (pageBody_isFinite_iff course parent).mpr h)
  · refine .inr ⟨q, hasks, ?_, (pageBody_isFinite_iff course parent).mp hwritten, hends.map Page.of⟩
    unfold Request.children
    rw [hbody]
    rfl

/-! ## §4. Delivery. -/

/-- A delivery says what it is about to do, which sends nothing, and then creates the page and
appends what is left over. -/
theorem deliver_ends {c : Connection} {course : Course} {blocks : List Json}
    {r : Except CallError Delivered} {sent : List Request}
    (h : Session.Ends (do
      let parent := Parent.ofId course.parentId
      let page ← c.createPage parent.members (titleProperties course.title parent.titleProperty)
        (cutList c.client.batchSize blocks).1 (pageIcon course.icon) (pageCover course.cover).1
      let more ← (if (cutList c.client.batchSize blocks).2.isEmpty then pure 0
        else c.append page.summary.id.shown (cutList c.client.batchSize blocks).2)
      Call.log .materializer .info
        s!"Course page {page.summary.id.shown} created in {1 + more} batch(es)"
      pure ⟨page, course.sections.length, blocks.length, 1 + more⟩) [] r sent) :
    Session.Ends (c.deliver course blocks) [] r sent := by
  unfold deliver
  -- What follows the appending is written once here and, as the code runs, once in each case.
  by_cases hleft : (cutList c.client.batchSize blocks).2.isEmpty = true
  · simp only [if_pos hleft] at h ⊢
    exact (Call.ends_log _ _ _ []).after ((Call.ends_logAll _ []).after h)
  · simp only [if_neg hleft] at h ⊢
    exact (Call.ends_log _ _ _ []).after ((Call.ends_logAll _ []).after h)

/-- The requests create a page with the first parcel of some blocks and bring the next ones to the
page that the answer names, one parcel each. -/
structure Ships (c : Connection) (blocks : List Json) (sent : List Request)
    (fault : Option CallError) : Prop where
  /-- The first creates a page. -/
  creates : ∀ q, sent.head? = some q → c.client.Asks .post "/pages" q
  /-- The others append to it. -/
  appends : ∀ q v, sent.head? = some q → (c.remote [] q).outcome = .ok v →
    ∀ r ∈ sent.tail, c.client.Asks .patch (childrenPath (v.member "id").shown) r
  /-- They carry the parcels in order. -/
  children : sent.map Request.children = (c.client.parcels blocks).take sent.length
  /-- JSON has every number in them. -/
  finite : ∀ r ∈ sent, ∀ x ∈ r.children, x.isFinite = true
  /-- They go out until one fails. -/
  answered : c.Answered [] sent fault

/-- An error that ends a delivery although no request failed: a number that JSON lacks in a block, an
answer for the page that is no object, or, with blocks left to append, one that names a page with a
control character. -/
inductive Hindered (c : Connection) (blocks : List Json) (sent : List Request) : CallError → Prop
  /-- A block is no good. -/
  | block (h : ∃ x ∈ blocks, x.isFinite = false) : Hindered c blocks sent .unsendable
  /-- The answer is no good. -/
  | answer {q : Request} {v : Json} (hq : sent.head? = some q) (hv : (c.remote [] q).outcome = .ok v)
      (h : v.isObject = false) : Hindered c blocks sent .notAnObject
  /-- The id in the answer is no good. -/
  | id {q : Request} {v : Json} {fault : Url.AddressFault} (hq : sent.head? = some q)
      (hv : (c.remote [] q).outcome = .ok v) (hleft : (cutList c.client.batchSize blocks).2 ≠ [])
      (h : ∃ ch ∈ (v.member "id").shown.toList, Url.isControl ch = true) :
      Hindered c blocks sent (.address fault)

/-- What keeps the rest of some blocks from a page keeps the delivery of all of them from ending. -/
theorem Hindered.of_undeliverable {c : Connection} {blocks : List Json} {q : Request} {v : Json}
    {sent : List Request} {e : CallError} (hv : (c.remote [] q).outcome = .ok v)
    (hleft : (cutList c.client.batchSize blocks).2 ≠ [])
    (h : Undeliverable (v.member "id").shown (cutList c.client.batchSize blocks).2 e) :
    Hindered c blocks (q :: sent) e := by
  cases h with
  | id h => exact .id rfl hv hleft h
  | block h =>
      refine .block (h.imp fun x hx => ⟨?_, hx.2⟩)
      rw [← cutList_append c.client.batchSize blocks]
      exact List.mem_append_right _ hx.1

/-- The result of a delivery that comes to its end. -/
def Completed (c : Connection) (course : Course) (blocks : List Json) (sent : List Request)
    (d : Delivered) : Prop :=
  (∃ q v, sent.head? = some q ∧ (c.remote [] q).outcome = .ok v
    ∧ d = ⟨Page.of v, course.sections.length, blocks.length, sent.length⟩)
  ∧ sent.length = (c.client.parcels blocks).length

/-- The run of a delivery, whatever the batch size and whatever the remote side answers. -/
theorem deliver_ships (c : Connection) (course : Course) (blocks : List Json) :
    ∃ r sent fault, Session.Ends (c.deliver course blocks) [] r sent ∧ c.Ships blocks sent fault
      ∧ Settled (c.Completed course blocks sent) (c.Hindered blocks sent) r fault := by
  rcases c.createPage_ends course (Parent.ofId course.parentId)
      (cutList c.client.batchSize blocks).1 with
    ⟨e, hun, hends⟩ | ⟨q, hasks, hchildren, hwritten, hends⟩
  · -- The page cannot even be asked for, and that is because of a block: there is no id yet.
    refine ⟨.error e, [], none, deliver_ends (hends.bind_error _),
      ⟨?_, ?_, rfl, List.forall_mem_nil _, .done []⟩, .withheld ?_⟩
    · intro q hq
      cases hq
    · intro q v hq
      cases hq
    · cases hun "" with
      | id h =>
          obtain ⟨ch, hmem, _⟩ := h
          cases hmem
      | block h =>
          refine .block (h.imp fun x hx => ⟨?_, hx.2⟩)
          rw [← cutList_append c.client.batchSize blocks]
          exact List.mem_append_left _ hx.1
  · have hcreates : ∀ sent : List Request, ∀ r, (q :: sent).head? = some r →
        c.client.Asks .post "/pages" r := by
      intro sent r hr
      cases hr
      exact hasks
    have hfirst : [q].map Request.children = (c.client.parcels blocks).take 1 := by
      rw [List.map_singleton, hchildren]
      rfl
    have hfinite : ∀ x ∈ q.children, x.isFinite = true := by
      rw [hchildren]
      exact hwritten
    cases hreply : (c.remote [] q).outcome with
    | error e =>
        rw [hreply] at hends
        refine ⟨.error e, [q], some e, deliver_ends (hends.bind_error _),
          ⟨hcreates [], ?_, hfirst, List.forall_mem_singleton.mpr hfinite, .failed hreply⟩, .failed e⟩
        intro r v _ _ t ht
        exact absurd ht List.not_mem_nil
    | ok v =>
        rw [hreply] at hends
        by_cases hobject : v.isObject = true
        · rw [show objectOutcome (.ok v) = .ok v from if_pos hobject] at hends
          obtain ⟨r, sent, fault, hrest, hcarries, hsettled⟩ :=
            c.append_carries (v.member "id").shown (cutList c.client.batchSize blocks).2 [q]
          refine ⟨r.map fun more => ⟨Page.of v, course.sections.length, blocks.length, 1 + more⟩,
            q :: sent, fault, deliver_ends ?_, ⟨hcreates sent, ?_, ?_,
              List.forall_mem_cons.mpr ⟨hfinite, hcarries.finite⟩, .next hreply hcarries.answered⟩,
            hsettled.mono ?_ ?_⟩
          · rw [← List.singleton_append]
            refine hends.bind ?_
            cases r with
            | error e => exact hrest.bind_error _
            | ok more =>
                refine (List.append_nil sent) ▸ hrest.bind ?_
                exact (Call.ends_log _ _ _ _).after (Session.ends_pure _ _)
          · intro q' v' hq' hv' t ht
            cases hq'
            rw [hreply] at hv'
            rw [← Except.ok.inj hv']
            exact hcarries.asks t ht
          · rw [List.map_cons, hchildren, hcarries.children]
            rfl
          · rintro more ⟨rfl, hlength⟩
            refine ⟨⟨q, v, rfl, hreply, ?_⟩, congrArg Nat.succ hlength⟩
            rw [List.length_cons, Nat.add_comm]
          · intro e he
            exact .of_undeliverable hreply he.1 he.2
        · rw [show objectOutcome (.ok v) = .error .notAnObject from if_neg hobject] at hends
          refine ⟨.error .notAnObject, [q], none, deliver_ends (hends.bind_error _),
            ⟨hcreates [], ?_, hfirst, List.forall_mem_singleton.mpr hfinite, .next hreply (.done [q])⟩,
            .withheld (.answer rfl hreply (Bool.eq_false_iff.mpr hobject))⟩
          intro r v _ _ t ht
          exact absurd ht List.not_mem_nil

end Connection

/-! ## §5. What arrives. -/

namespace Connection.Ships

variable {c : Connection} {blocks : List Json} {sent : List Request} {fault : Option CallError}

/-- What the requests carry, put together, is a beginning of the blocks. -/
theorem flatMap_prefix (h : c.Ships blocks sent fault) :
    sent.flatMap Request.children <+: blocks := by
  refine ⟨((c.client.parcels blocks).drop sent.length).flatten, ?_⟩
  rw [List.flatMap_def, h.children, ← List.flatten_append, List.take_append_drop,
    Client.flatten_parcels]

/-- Once all parcels are sent, it is all of them. -/
theorem flatMap_all (h : c.Ships blocks sent fault)
    (hall : sent.length = (c.client.parcels blocks).length) :
    sent.flatMap Request.children = blocks := by
  rw [List.flatMap_def, h.children, hall, List.take_length, Client.flatten_parcels]

end Connection.Ships

section Arrival

variable {c : Connection} {id : String} {b : Nat} {blocks : List Json} {sent : List Request}
  {fault : Option CallError}

end Arrival

end Notion

end Syllabus
