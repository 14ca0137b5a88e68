/-
  Syllabus.Proofs.Notion.Listing
  ──────────────────────────────
  **A LISTING FOLLOWS ITS CURSOR TO THE END.**

  The children of a block come in pages.  An answer says whether there is
  more and from where on, and the next request asks from there; an answer
  that leaves out either of the two is the last.  What has been listed when
  some pages have gone on is known, and so is what has been asked for:

      Client.AsksPage      a request for a page of a listing
      Connection.Replies   what is answered next, in turn
      childrenFrom_found   one page, and what the listing comes to after it
      childrenFrom_pages   any number of pages that go on, by induction
      children_listed      the whole listing
-/
import Syllabus.Proofs.Notion.Surfacing

namespace Syllabus.Notion

/-! ## §1. Pages of a listing. -/

/-- An answer is a page of a listing: an object whose results, if it has any, are an array. -/
structure IsPage (answer : Json) : Prop where
  /-- It is an object. -/
  isObject : answer.isObject = true
  /-- Its results are an array. -/
  results : ∀ v, answer.member? "results" = some v → ∃ xs, v = .arr xs

/-- The results that a page brings. -/
def listed (answer : Json) : List Json := (answer.member "results").items

/-- A page goes on: it says that there is more, and from where on. -/
def GoesOn (answer : Json) : Prop :=
  (answer.member "has_more").isTruthy = true ∧ (answer.member "next_cursor").isTruthy = true

/-- Where a page goes on. -/
def followingCursor (answer : Json) : Json := answer.member "next_cursor"

theorem results_eq {answer : Json} (h : IsPage answer) : results answer = .ok (listed answer) := by
  unfold results listed Json.member
  cases hv : answer.member? "results" with
  | none => rfl
  | some v =>
      obtain ⟨xs, rfl⟩ := h.results v hv
      rfl

theorem nextCursor?_of_goesOn {answer : Json} (h : GoesOn answer) :
    nextCursor? answer = some (followingCursor answer) := by
  unfold nextCursor?
  rw [h.1, h.2]
  rfl

theorem nextCursor?_of_not_goesOn {answer : Json} (h : ¬ GoesOn answer) :
    nextCursor? answer = none := by
  unfold nextCursor?
  rw [if_neg]
  rw [Bool.and_eq_true]
  exact h

/-- A cursor as it is asked for: the items of an array one by one, and anything else as one text. -/
def cursorTexts : Json → List String
  | .arr xs => xs.map parameterText
  | v => [parameterText v]

theorem listingParameters_some (cursor : Json) :
    listingParameters (some cursor)
      = ("page_size", "100") :: (cursorTexts cursor).map fun s => ("start_cursor", s) := by
  cases cursor with
  | arr xs =>
      show _ :: xs.map _ = _ :: (xs.map parameterText).map _
      rw [List.map_map]
      rfl
  | _ => rfl

/-- A request asks for a page of the children of a block, from some cursors on. -/
structure Client.AsksPage (c : Client) (id : String) (cursors : List String) (r : Request) :
    Prop where
  /-- It is there to read. -/
  method : r.method = .get
  /-- It names the children of the block. -/
  path : ∃ query, c.base.resolve (childrenPath id) = .ok (r.path.toList, query)
  /-- It gives the size of the page and the cursors, and nothing else. -/
  query : r.query = some (String.ofList (Url.formPairs
    (("page_size", "100") :: cursors.map fun s => ("start_cursor", s))))
  /-- It carries nothing. -/
  body : r.body = none

theorem Client.asksPage_of_request {c : Client} {id : String} {parameters : List (String × String)}
    {cursors : List String} {r : Request}
    (hparameters : parameters = ("page_size", "100") :: cursors.map fun s => ("start_cursor", s))
    (h : c.request .get (childrenPath id) parameters none = .ok r) : c.AsksPage id cursors r := by
  unfold Client.request at h
  cases hresolve : c.base.resolve (childrenPath id) with
  | error fault =>
      rw [hresolve] at h
      cases h
  | ok target =>
      rw [hresolve] at h
      cases h
      refine ⟨rfl, ⟨target.2, ?_⟩, ?_, rfl⟩
      · rw [String.toList_ofList, hresolve]
      · rw [hparameters]
        rfl

/-! ## §2. One page. -/

/-- The cursors from which a listing asks for a page: none at first. -/
def askedCursors : Option Json → List String
  | none => []
  | some cursor => cursorTexts cursor

theorem listingParameters_eq (cursor : Option Json) :
    listingParameters cursor
      = ("page_size", "100") :: (askedCursors cursor).map fun s => ("start_cursor", s) := by
  cases cursor with
  | none => rfl
  | some cursor => exact listingParameters_some cursor

/-- An id can be put into a path: there is no control character in it. -/
def Sendable (id : String) : Prop := ∀ ch ∈ id.toList, Url.isControl ch = false

-- Only the characters of the id are tried, never all there are.
instance (id : String) : Decidable (Sendable id) :=
  List.decidableBAll (fun ch => Url.isControl ch = false) id.toList

namespace Connection

/-- After the requests `past`, what is asked next comes to these outcomes in turn, whatever it is. -/
def Replies (c : Connection) (past : List Request) (os : List (Except CallError Json)) : Prop :=
  ∀ sent q o, os[sent.length]? = some o → (c.remote (past ++ sent) q).outcome = o

variable {c : Connection} {id : String} {past : List Request}

theorem Replies.head {o : Except CallError Json} {os : List (Except CallError Json)}
    (h : c.Replies past (o :: os)) (q : Request) : (c.remote past q).outcome = o := by
  have hfirst := h [] q o rfl
  rw [List.append_nil] at hfirst
  exact hfirst

theorem Replies.tail {o : Except CallError Json} {os : List (Except CallError Json)}
    (h : c.Replies past (o :: os)) (q : Request) : c.Replies (past ++ [q]) os := by
  intro sent r p hp
  rw [List.append_assoc]
  exact h (q :: sent) r p hp

theorem Replies.front {os os' : List (Except CallError Json)} (h : c.Replies past (os ++ os')) :
    c.Replies past os := by
  intro sent q o ho
  exact h sent q o (by rw [List.getElem?_append_left (List.getElem?_eq_some_iff.mp ho).1, ho])

/-- After the requests for the first outcomes come the others. -/
theorem Replies.after {os os' : List (Except CallError Json)} (h : c.Replies past (os ++ os'))
    {sent : List Request} (hlength : sent.length = os.length) : c.Replies (past ++ sent) os' := by
  intro more q o ho
  rw [List.append_assoc]
  refine h (sent ++ more) q o ?_
  rw [List.length_append, hlength, List.getElem?_append_right (Nat.le_add_right _ _),
    Nat.add_sub_cancel_left]
  exact ho

/-- A page is asked for, if the id of the block can be sent. -/
theorem page_asked (c : Connection) {id : String} (hid : Sendable id) (cursor : Option Json)
    (past : List Request) :
    ∃ q, c.client.AsksPage id (askedCursors cursor) q
      ∧ Session.Ends (c.sendForObject .get (childrenPath id) (listingParameters cursor)) past
          (objectOutcome (c.remote past q).outcome) [q] := by
  rcases c.sendForObject_runs .get (childrenPath id) (listingParameters cursor) none past with
    ⟨e, hun, -⟩ | ⟨q, hreq, -, hends⟩
  · cases hun with
    | path h =>
        obtain ⟨ch, hmem, hcontrol⟩ := exists_control_of_childrenPath h
        rw [hid ch hmem] at hcontrol
        cases hcontrol
    | body h =>
        rw [Option.getD_none, Json.isFinite_null] at h
        cases h
  · exact ⟨q, Client.asksPage_of_request (listingParameters_eq cursor) hreq, hends⟩

variable (patience : Nat) (cursor : Option Json)

/-- Otherwise nothing is asked for. -/
theorem childrenFrom_unasked (hid : ¬ Sendable id) :
    ∃ fault, Session.Ends (c.childrenFrom id (patience + 1) cursor) past
      (.error (.address fault)) [] := by
  unfold childrenFrom
  rcases c.sendForObject_runs .get (childrenPath id) (listingParameters cursor) none past with
    ⟨e, hun, hends⟩ | ⟨q, hreq, -⟩
  · cases hun with
    | path h => exact ⟨_, hends.bind_error _⟩
    | body h =>
        rw [Option.getD_none, Json.isFinite_null] at h
        cases h
  · refine absurd ?_ hid
    intro ch hch
    exact Client.visible_of_request hreq ch (mem_childrenPath hch)

/-- What a listing comes to after a page. -/
def followed (c : Connection) (id : String) (patience : Nat) (a : Json) : Call (List Json) :=
  match nextCursor? a with
  | none => pure (listed a)
  | some next => do
      let others ← c.childrenFrom id patience (some next)
      pure (listed a ++ others)

/-- A page is asked for, and then it depends on what it says. -/
theorem childrenFrom_found (hid : Sendable id) {a : Json} {os : List (Except CallError Json)}
    (hreplies : c.Replies past (.ok a :: os)) (hpage : IsPage a) :
    ∃ q, c.client.AsksPage id (askedCursors cursor) q
      ∧ ∀ r sent, Session.Ends (c.followed id patience a) (past ++ [q]) r sent →
          Session.Ends (c.childrenFrom id (patience + 1) cursor) past r (q :: sent) := by
  obtain ⟨q, hasks, hends⟩ := c.page_asked hid cursor past
  refine ⟨q, hasks, ?_⟩
  intro r sent hrest
  rw [hreplies.head q, show objectOutcome (.ok a) = .ok a from if_pos hpage.isObject] at hends
  unfold childrenFrom
  refine hends.bind ?_
  rw [results_eq hpage]
  exact (Call.ends_ofExcept _ _).after hrest

/-- A request for the last page, or for one that does not come, ends the listing. -/
theorem childrenFrom_last (hid : Sendable id) {o : Except CallError Json}
    (hreplies : c.Replies past [o]) (hlast : ∀ a, o = .ok a → IsPage a ∧ ¬ GoesOn a) :
    ∃ q, c.client.AsksPage id (askedCursors cursor) q
      ∧ Session.Ends (c.childrenFrom id (patience + 1) cursor) past (o.map listed) [q] := by
  cases o with
  | error e =>
      obtain ⟨q, hasks, hends⟩ := c.page_asked hid cursor past
      rw [hreplies.head q] at hends
      exact ⟨q, hasks, hends.bind_error _⟩
  | ok a =>
      obtain ⟨hpage, hstops⟩ := hlast a rfl
      obtain ⟨q, hasks, hends⟩ := childrenFrom_found patience cursor hid hreplies hpage
      refine ⟨q, hasks, hends _ _ ?_⟩
      unfold followed
      rw [nextCursor?_of_not_goesOn hstops]
      exact Session.ends_pure _ _

/-- After a page that goes on, the listing goes on from its cursor. -/
theorem childrenFrom_next (hid : Sendable id) {a : Json} {os : List (Except CallError Json)}
    (hreplies : c.Replies past (.ok a :: os)) (hpage : IsPage a) (hmore : GoesOn a) :
    ∃ q, c.client.AsksPage id (askedCursors cursor) q
      ∧ ∀ r sent, Session.Ends (c.childrenFrom id patience (some (followingCursor a)))
            (past ++ [q]) r sent →
          Session.Ends (c.childrenFrom id (patience + 1) cursor) past (r.map (listed a ++ ·))
            (q :: sent) := by
  obtain ⟨q, hasks, hends⟩ := childrenFrom_found patience cursor hid hreplies hpage
  refine ⟨q, hasks, ?_⟩
  intro r sent hrest
  refine hends _ _ ?_
  unfold followed
  rw [nextCursor?_of_goesOn hmore]
  exact hrest.map _

/-! ## §3. The whole listing. -/

/-- The cursors that a listing asks from when it starts at one of them and pages go on. -/
def cursorsFrom (cursor : Option Json) (pages : List Json) : List (Option Json) :=
  cursor :: pages.map fun a => some (followingCursor a)

/-- The cursor that it has come to then. -/
def lastCursor (cursor : Option Json) (pages : List Json) : Option Json :=
  (cursorsFrom cursor pages).getLast (List.cons_ne_nil _ _)

theorem cursorsFrom_eq (cursor : Option Json) (pages : List Json) :
    (cursorsFrom cursor pages).dropLast ++ [lastCursor cursor pages] = cursorsFrom cursor pages :=
  List.dropLast_append_getLast _

/-- Requests ask for pages of a listing, one from each of some cursors and in their order. -/
def AsksPages (c : Connection) (id : String) : List (Option Json) → List Request → Prop :=
  List.Forall₂ fun cursor q => c.client.AsksPage id (askedCursors cursor) q

/-- Pages that go on are asked for and listed one after the other, and what is listed from the
cursor of the last of them on follows. -/
theorem childrenFrom_pages (hid : Sendable id) :
    ∀ (pages : List Json) (cursor : Option Json) (past : List Request),
      (∀ a ∈ pages, IsPage a ∧ GoesOn a) → c.Replies past (pages.map .ok) →
      ∃ sent, c.AsksPages id (cursorsFrom cursor pages).dropLast sent
        ∧ ∀ r more,
          Session.Ends (c.childrenFrom id patience (lastCursor cursor pages)) (past ++ sent) r more →
          Session.Ends (c.childrenFrom id (pages.length + patience) cursor) past
            (r.map (pages.flatMap listed ++ ·)) (sent ++ more) := by
  intro pages
  -- Every page moves the cursor on and adds its request to the past, so both are arbitrary.
  induction pages with
  | nil =>
      intro cursor past _ _
      refine ⟨[], .nil, ?_⟩
      intro r more hrest
      rw [List.append_nil] at hrest
      have hmap : r.map (([] : List Json).flatMap listed ++ ·) = r := by
        cases r <;> rfl
      rw [hmap, List.length_nil, Nat.zero_add]
      exact hrest
  | cons a pages ih =>
      intro cursor past hgo hreplies
      obtain ⟨hpage, hmore⟩ := hgo a List.mem_cons_self
      obtain ⟨q, hasks, hnext⟩ := childrenFrom_next (pages.length + patience) cursor hid
        hreplies hpage hmore
      obtain ⟨sent, hsent, hends⟩ := ih (some (followingCursor a)) (past ++ [q])
        (fun b hb => hgo b (List.mem_cons_of_mem a hb)) (hreplies.tail q)
      refine ⟨q :: sent, .cons hasks hsent, ?_⟩
      intro r more hrest
      rw [← List.append_cons] at hends
      have hstep := hnext _ _ (hends r more hrest)
      have hmap : (r.map (pages.flatMap listed ++ ·)).map (listed a ++ ·)
          = r.map ((a :: pages).flatMap listed ++ ·) := by
        cases r with
        | error e => rfl
        | ok found => simp [Except.map]
      rw [hmap] at hstep
      rw [List.length_cons, Nat.add_right_comm]
      exact hstep

variable (c : Connection) (id : String) (past : List Request) (pages : List Json)

/-- **A LISTING IS COMPLETE AND IN ORDER**: if pages that go on come first, and then a page that
does not or a failure, one request is sent for each of them, the first without a cursor and every
other from where the page before goes on.  What is listed are the results of all these pages in
their order; a failure is what the listing comes to.  A block whose id cannot be sent is not asked
about at all. -/
theorem children_listed (o : Except CallError Json) (hpatience : pages.length < c.patience)
    (hreplies : c.Replies past (pages.map .ok ++ [o]))
    (hgo : ∀ a ∈ pages, IsPage a ∧ GoesOn a) (hlast : ∀ a, o = .ok a → IsPage a ∧ ¬ GoesOn a) :
    (¬ Sendable id ∧ ∃ fault, Session.Ends (c.children id) past (.error (.address fault)) [])
    ∨ (Sendable id ∧ ∃ sent, sent.length = pages.length + 1
        ∧ c.AsksPages id (none :: pages.map fun a => some (followingCursor a)) sent
        ∧ Session.Ends (c.children id) past (o.map fun a => (pages ++ [a]).flatMap listed) sent) := by
  -- One round for each page that goes on, and at least one more for what ends the listing.
  obtain ⟨rest, hrest⟩ : ∃ rest, c.patience = pages.length + (rest + 1) :=
    ⟨c.patience - pages.length - 1, by omega⟩
  unfold children
  by_cases hid : Sendable id
  · refine .inr ⟨hid, ?_⟩
    rw [hrest]
    obtain ⟨sent, hsent, hends⟩ := childrenFrom_pages (rest + 1) hid pages none past hgo
      hreplies.front
    have hlength : sent.length = pages.length := by
      rw [← List.Forall₂.length_eq hsent]
      simp [cursorsFrom]
    obtain ⟨q, hasks, hq⟩ := childrenFrom_last rest (lastCursor none pages) hid
      (hreplies.after (by rw [hlength, List.length_map])) hlast
    refine ⟨sent ++ [q], ?_, ?_, ?_⟩
    · rw [List.length_append, hlength, List.length_singleton]
    · have hall : c.AsksPages id ((cursorsFrom none pages).dropLast ++ [lastCursor none pages])
          (sent ++ [q]) := List.rel_append hsent (.cons hasks .nil)
      rw [cursorsFrom_eq] at hall
      exact hall
    · have hdone := hends _ _ hq
      have hmap : (o.map listed).map (pages.flatMap listed ++ ·)
          = o.map fun a => (pages ++ [a]).flatMap listed := by
        cases o with
        | error e => rfl
        | ok a => simp [Except.map]
      rw [hmap] at hdone
      exact hdone
  · refine .inl ⟨hid, ?_⟩
    rw [hrest]
    exact childrenFrom_unasked (pages.length + rest) none hid

/-- A listing in two pages. -/
theorem children_listed_two_pages :
    let client : Client :=
      { token := "ntn_1", base := ⟨"https://api.notion.com".toList, "/v1/".toList⟩,
        version := interfaceVersion, timeout := Decimal.scaled false 30 0, batchSize := 100 }
    let first : Json := .obj [("results", .arr [.nat 1, .nat 2]), ("has_more", .bool true),
      ("next_cursor", .str "c 1")]
    let second : Json := .obj [("results", .arr [.nat 3]), ("has_more", .bool false)]
    let remote : Remote := fun past _ => .answer 200 (.ok (if past.isEmpty then first else second))
    let c : Connection := ⟨client, remote, 2⟩
    ∃ sent, sent.length = 2 ∧ c.AsksPages "b1" [none, some (.str "c 1")] sent
      ∧ Session.Ends (c.children "b1") [] (.ok [.nat 1, .nat 2, .nat 3]) sent := by
  intro client first second remote c
  have hreplies : c.Replies [] ([first].map .ok ++ [.ok second]) := by
    intro sent q o ho
    match sent, ho with
    | [], ho => exact Option.some.inj ho
    | [_], ho => exact Option.some.inj ho
    | _ :: _ :: _, ho => cases ho
  have hgo : ∀ a ∈ [first], IsPage a ∧ GoesOn a := by
    intro a ha
    rw [List.mem_singleton.mp ha]
    refine ⟨⟨rfl, ?_⟩, rfl, rfl⟩
    intro v hv
    exact ⟨_, (Option.some.inj hv).symm⟩
  have hlast : ∀ a, (.ok second : Except CallError Json) = .ok a → IsPage a ∧ ¬ GoesOn a := by
    intro a ha
    rw [← Except.ok.inj ha]
    refine ⟨⟨rfl, ?_⟩, fun hmore => by cases hmore.1⟩
    intro v hv
    exact ⟨_, (Option.some.inj hv).symm⟩
  rcases children_listed c "b1" [] [first] (.ok second) (by decide) hreplies hgo hlast with
    ⟨hno, -⟩ | ⟨-, h⟩
  · exact absurd (by decide) hno
  · exact h

end Connection

end Syllabus.Notion
