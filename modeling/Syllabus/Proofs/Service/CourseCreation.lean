/-
  Syllabus.Proofs.Service.CourseCreation
  ──────────────────────────────────────
  **NOTHING IS SENT BEFORE THE GATE IS PASSED.**

  A request to create a course is looked at twice before anything is sent: the
  course that it is read as has to be complete, and the review of what it
  holds has to be free of errors.  Only then is the page built and delivered:

      Handling.Admits              what a body must have to pass the gate
      admitted_eq_ok_iff           the gate lets through just that
      createCourse_ends            what becomes of a course that passes
      course_created_behind_gate   requests and answers, from outside

  The remote side may do what it likes, and the batch size is any number.
-/
import Syllabus.Proofs.Block.Form
import Syllabus.Proofs.Course.Reading
import Syllabus.Proofs.Notion.Delivery
import Syllabus.Proofs.Service.Answering

namespace Syllabus.Service

open Notion

/-! ## §1. The gate. -/

namespace Handling

/-- The body describes the course, which says where it goes, what it is called and what is in it, and
the review of the body finds no error. -/
structure Admits (body : Json) (course : Course) : Prop where
  read : Course.ofJson body = .ok course
  parent : course.parentId ≠ ""
  title : course.title ≠ ""
  sections : course.sections ≠ []
  valid : (verdictOn body).valid = true

theorem isComplete_iff (course : Course) :
    isComplete course = true
      ↔ course.parentId ≠ "" ∧ course.title ≠ "" ∧ course.sections ≠ [] := by
  simp only [isComplete, Bool.and_eq_true, Bool.not_eq_true', String.isEmpty_eq_false_iff,
    List.isEmpty_eq_false_iff, ne_eq, and_assoc]

theorem admitted_of_ok {body : Json} {course : Course} (h : Course.ofJson body = .ok course) :
    admitted body
      = if !isComplete course then
          .error (.badRequest (.str "Missing required fields: parentId, title, sections"))
        else if !(verdictOn body).valid then
          .error (.badRequest (.obj [("error", .str "Course validation failed"),
            ("details", .strings (verdictOn body).errors),
            ("warnings", .strings (verdictOn body).warnings)]))
        else .ok course := by
  unfold admitted
  rw [h]
  rfl

theorem admitted_of_error {body : Json} {e : Text.NumeralError} (h : Course.ofJson body = .error e) :
    admitted body = .error (.broken (.time e)) := by
  unfold admitted
  rw [h]
  rfl

/-- The gate lets a course through exactly if it is admitted. -/
theorem admitted_eq_ok_iff (body : Json) (course : Course) :
    admitted body = .ok course ↔ Admits body course := by
  constructor
  · intro h
    cases hread : Course.ofJson body with
    | error e =>
        rw [admitted_of_error hread] at h
        cases h
    | ok found =>
        rw [admitted_of_ok hread] at h
        split at h
        · cases h
        · rename_i hcomplete
          split at h
          · cases h
          · rename_i hvalid
            rw [Bool.not_eq_true', Bool.not_eq_false] at hcomplete hvalid
            obtain rfl := Except.ok.inj h
            obtain ⟨hparent, htitle, hsections⟩ := (isComplete_iff found).mp hcomplete
            exact ⟨hread, hparent, htitle, hsections, hvalid⟩
  · intro h
    have hcomplete := (isComplete_iff course).mpr ⟨h.parent, h.title, h.sections⟩
    rw [admitted_of_ok h.read, hcomplete, h.valid]
    rfl

/-- What is turned down at the gate is answered by a failure. -/
theorem admitted_fails {body : Json} {i : Interruption} (h : admitted body = .error i) : i.Fails := by
  cases hread : Course.ofJson body with
  | error e =>
      rw [admitted_of_error hread] at h
      rw [← Except.error.inj h]
      trivial
  | ok found =>
      rw [admitted_of_ok hread] at h
      split at h
      · rw [← Except.error.inj h]
        exact Interruption.fails_badRequest _
      · split at h
        · rw [← Except.error.inj h]
          exact Interruption.fails_badRequest _
        · cases h

/-! ## §2. What becomes of a course. -/

variable {c : Connection} {body : Json}

theorem createCourse_refused {i : Interruption} (h : admitted body = .error i) :
    Session.Ends (createCourse c body) [] (.error i) [] := by
  unfold createCourse
  rw [h]
  exact (ends_ofExcept _ []).bind_error _

/-- A course that is admitted is built and delivered; its delivery is what is answered. -/
theorem createCourse_ends {course : Course} {blocks : List Block} {journal : Journal}
    {r : Except CallError Delivered} {sent : List Notion.Request} (h : Admits body course)
    (hbuilt : (course.page {}).fresh = (.ok blocks, journal))
    (hdeliver : Session.Ends (c.deliver course (Block.listToJson blocks)) [] r sent) :
    Session.Ends (createCourse c body) [] ((r.mapError .ofCallError).map deliveryAnswer) sent := by
  have hblocks : built (course.page {}) = (Block.listToJson blocks, journal) := by
    unfold built
    rw [hbuilt]
  unfold createCourse
  rw [(admitted_eq_ok_iff body course).mpr h]
  refine (ends_ofExcept _ []).after ?_
  rw [hblocks]
  exact (ends_logAll _ []).after ((ends_ofCall hdeliver).map deliveryAnswer)

end Handling

/-! ## §3. From outside. -/

section Requests

variable {s : Setup} {c : Connection} {r : Request}

theorem Payload.read_fails {headers : Headers} {body : String} {i : Interruption}
    (h : Payload.read headers body = .error i) : i.Fails := by
  unfold Payload.read at h
  split at h
  · cases h
  · split at h
    · cases hparse : Json.parse (withoutMark body) with
      | ok v =>
          rw [hparse] at h
          cases h
      | error e =>
          rw [hparse] at h
          rw [← Except.error.inj h]
          unfold unreadable
          split
          · exact Interruption.fails_badRequest _
          · trivial
    · cases h

/-- The body of a request as JSON, if it can be read as that. -/
def Request.json? (r : Request) : Option Json :=
  (Payload.read r.scope.headers r.body).toOption.map Payload.toJson

theorem carryOut_unread (hnone : r.json? = none) :
    ∃ i, i.Fails ∧ Session.Ends (Task.createCourse.carryOut s r.scope.headers r.body) [] (.error i) [] := by
  unfold Request.json? at hnone
  cases hread : Payload.read r.scope.headers r.body with
  | ok p =>
      rw [hread] at hnone
      cases hnone
  | error i =>
      refine ⟨i, Payload.read_fails hread, ?_⟩
      unfold Task.carryOut
      rw [if_pos (by rfl), hread]
      exact (Handling.ends_ofExcept _ []).bind_error _

theorem carryOut_createCourse (hconnection : s.connection = some c) {body : Json}
    (hbody : r.json? = some body) {outcome : Except Interruption Json} {sent : List Notion.Request}
    (hends : Session.Ends (Handling.createCourse c body) [] outcome sent) :
    Session.Ends (Task.createCourse.carryOut s r.scope.headers r.body) [] outcome sent := by
  unfold Request.json? at hbody
  cases hread : Payload.read r.scope.headers r.body with
  | error i =>
      rw [hread] at hbody
      cases hbody
  | ok p =>
      rw [hread] at hbody
      rw [← Option.some.inj hbody] at hends
      have hrun : Task.createCourse.run s p = Handling.createCourse c p.toJson := by
        show s.connected >>= _ = _
        unfold Setup.connected
        rw [hconnection]
        rfl
      unfold Task.carryOut
      rw [if_pos (by rfl), hread]
      refine (Handling.ends_ofExcept _ []).after ?_
      show Session.Ends (Task.createCourse.run s p) [] outcome sent
      rw [hrun]
      exact hends

/-- What the answer says that reports a course of some sections delivered in some blocks. -/
def creationReport (page : Json) (sections blocks : Nat) : Json :=
  .obj [("success", .bool true), ("page", page),
    ("stats", .obj [("sectionsCreated", .nat sections), ("blocksCreated", .nat blocks)])]

theorem finiteOnly_deliveryAnswer (d : Delivered) :
    (Handling.deliveryAnswer d).finiteOnly
      = creationReport d.page.toJson.finiteOnly d.sections d.blocks := rfl

end Requests

section Responses

variable {s : Setup} {c : Connection} {r : Request} {id : String} {elapsed : Nat} {answer : Response}
  {after : Session} (hmethod : r.method = "POST") (hpath : r.scope.path = "/api/create-course")
  (hrespond : s.respond id elapsed r {} = (answer, after))

include hmethod hpath hrespond

/-- The answer to a request for a course is what creating the course comes to. -/
theorem respond_createCourse {outcome : Except Interruption Json} {sent : List Notion.Request}
    (hends : Session.Ends (Task.createCourse.carryOut s r.scope.headers r.body) [] outcome sent) :
    after.requests = sent ∧ (∀ v, outcome = .ok v → answer.Grants v)
      ∧ ∀ i, outcome = .error i → i.Fails → answer.Declines := by
  have hdestination : Destination.of r.method r.scope.path = .task .createCourse := by
    rw [hmethod, hpath]
    decide
  have hoptions : r.method ≠ "OPTIONS" := by
    rw [hmethod]
    decide
  have hhead : r.method ≠ "HEAD" := by
    rw [hmethod]
    decide
  exact Setup.respond_ends hoptions hhead hdestination hends hrespond

variable (hconnection : s.connection = some c)

include hconnection

/-- A body that does not pass the gate is declined, and nothing is sent. -/
theorem respond_refused
    (hgate : ∀ body course, r.json? = some body → ¬ Handling.Admits body course) :
    answer.Declines ∧ after.requests = [] := by
  have hturned : ∃ i, i.Fails
      ∧ Session.Ends (Task.createCourse.carryOut s r.scope.headers r.body) [] (.error i) [] := by
    cases hbody : r.json? with
    | none => exact carryOut_unread hbody
    | some body =>
        cases hadmitted : Handling.admitted body with
        | ok course =>
            exact absurd ((Handling.admitted_eq_ok_iff body course).mp hadmitted)
              (hgate body course hbody)
        | error i =>
            exact ⟨i, Handling.admitted_fails hadmitted,
              carryOut_createCourse hconnection hbody (Handling.createCourse_refused hadmitted)⟩
  obtain ⟨i, hfails, hends⟩ := hturned
  obtain ⟨hsent, _, hdeclines⟩ := respond_createCourse hmethod hpath hrespond hends
  exact ⟨hdeclines i rfl hfails, hsent⟩

/-- A body that passes the gate has its page built and delivered, and is answered by how that ends. -/
theorem respond_admitted {body : Json} {course : Course} (hbody : r.json? = some body)
    (hadmits : Handling.Admits body course) :
    ∃ blocks journal outcome fault, (course.page {}).fresh = (.ok blocks, journal)
      ∧ c.Ships (Block.listToJson blocks) after.requests fault
      ∧ Settled (c.Completed course (Block.listToJson blocks) after.requests)
        (c.Hindered (Block.listToJson blocks) after.requests) outcome fault
      ∧ (∀ d, outcome = .ok d → answer.Grants (Handling.deliveryAnswer d))
      ∧ ∀ e, outcome = .error e → answer.Declines := by
  obtain ⟨blocks, journal, hbuilt, _⟩ := course.page_shape.runs {}
  obtain ⟨outcome, sent, fault, hdeliver, hships, hsettled⟩ :=
    c.deliver_ships course (Block.listToJson blocks)
  have hends := carryOut_createCourse (s := s) hconnection hbody
    (Handling.createCourse_ends hadmits hbuilt hdeliver)
  obtain ⟨rfl, hgrants, hdeclines⟩ := respond_createCourse hmethod hpath hrespond hends
  refine ⟨blocks, journal, outcome, fault, hbuilt, hships, hsettled, ?_, ?_⟩
  · rintro d rfl
    exact hgrants _ rfl
  · rintro e rfl
    exact hdeclines _ rfl (Interruption.fails_ofCallError e)

end Responses

/-! ## §4. The gate, from outside. -/

/-- **Courses are created behind a gate.**  If anything is sent for a request to create a course, the
body is a course that says where it goes, what it is called and what is in it, and its review finds no
error; any other body is declined.  For such a course the first request creates a page, and what the
requests carry, put together, is a beginning of what the course is built into.  Success is answered
only after all of that was delivered, with the number of its blocks and of the sections.  A request
that fails is the last one, and the answer declines.  If none fails, the answer is success, unless a
block or what was answered about the page is no good. -/
theorem course_created_behind_gate {s : Setup} {c : Connection} {r : Request} {id : String}
    {elapsed : Nat} {answer : Response} {after : Session} (hconnection : s.connection = some c)
    (hmethod : r.method = "POST") (hpath : r.scope.path = "/api/create-course")
    (hrespond : s.respond id elapsed r {} = (answer, after)) :
    (after.requests ≠ [] → ∃ body course, r.json? = some body ∧ Handling.Admits body course)
    ∧ ((∀ body course, r.json? = some body → ¬ Handling.Admits body course) →
        answer.Declines ∧ after.requests = [])
    ∧ ∀ body course, r.json? = some body → Handling.Admits body course →
        ∃ blocks journal, (course.page {}).fresh = (.ok blocks, journal)
          ∧ (∀ q, after.requests.head? = some q → c.client.Asks .post "/pages" q)
          ∧ after.requests.flatMap Request.children <+: Block.listToJson blocks
          ∧ (answer.status < 400 → answer.status = 200
            ∧ (∃ page, answer.content
              = .json (creationReport page course.sections.length blocks.length))
            ∧ after.requests.flatMap Request.children = Block.listToJson blocks
            ∧ ∀ o ∈ c.outcomes [] after.requests, ∃ v, o = .ok v)
          ∧ (∀ k e, (c.outcomes [] after.requests)[k]? = some (.error e) →
            after.requests.length = k + 1 ∧ answer.Declines)
          ∧ ((∀ o ∈ c.outcomes [] after.requests, ∃ v, o = .ok v) →
            answer.status = 200 ∨ ∃ e, c.Hindered (Block.listToJson blocks) after.requests e) := by
  have hrefused := respond_refused hmethod hpath hrespond hconnection
  refine ⟨?_, hrefused, ?_⟩
  · intro hsent
    by_contra hnone
    apply hsent
    exact (hrefused fun body course hbody hadmits => hnone ⟨body, course, hbody, hadmits⟩).2
  · intro body course hbody hadmits
    obtain ⟨blocks, journal, outcome, fault, hbuilt, hships, hsettled, hgrants, hdeclines⟩ :=
      respond_admitted hmethod hpath hrespond hconnection hbody hadmits
    refine ⟨blocks, journal, hbuilt, hships.creates, hships.flatMap_prefix, ?_, ?_, ?_⟩
    · -- An answer that is no failure is what a complete delivery is answered.
      intro hstatus
      cases outcome with
      | error e =>
          have hfailed := (hdeclines e rfl).status
          omega
      | ok d =>
          cases hsettled with
          | complete h =>
              obtain ⟨⟨q, v, _, _, rfl⟩, hlength⟩ := h
              have hgranted := hgrants _ rfl
              have hcontent := hgranted.content
              rw [finiteOnly_deliveryAnswer, Form.listToJson_eq_map, List.length_map] at hcontent
              exact ⟨hgranted.status, ⟨_, hcontent⟩, hships.flatMap_all hlength,
                hships.answered.all_ok rfl⟩
    · intro k e hk
      obtain ⟨hlength, rfl⟩ := hships.answered.of_outcome_error hk
      cases hsettled with
      | failed => exact ⟨hlength, hdeclines e rfl⟩
    · intro hall
      rw [hships.answered.fault_eq_none hall] at hsettled
      cases hsettled with
      | withheld h => exact .inr ⟨_, h⟩
      | complete _ => exact .inl (hgrants _ rfl).status

/-- A course of one section, two blocks at a time, to a remote side that has had enough after one
request. -/
theorem course_created_behind_gate_refused :
    let client : Client :=
      { token := "ntn_1", base := ⟨"https://api.notion.com".toList, "/v1/".toList⟩,
        version := interfaceVersion, timeout := Decimal.scaled false 30 0, batchSize := 2 }
    let remote : Remote := fun past _ =>
      if past.length = 1 then .answer 429 (.ok (.obj [("code", .str "rate_limited")]))
      else .answer 200 (.ok (.obj [("id", .str "p1")]))
    let c : Connection := ⟨client, remote, 1⟩
    let s : Setup := { connection := some c, environment := [], allowedOrigins := [], time := "" }
    let r : Request :=
      { scope := { kind := "http", method := some "POST", path := "/api/create-course" }
        body := "\x7b\"parentId\":\"p\",\"title\":\"T\",\"sections\":[\x7b\"title\":\"S\",\"content\":[\"Hi\"]\x7d]\x7d" }
    let run := s.respond "id" 0 r {}
    run.2.requests.length = 2 ∧ run.1.Declines
      ∧ ∃ blocks journal, Building.fresh (Course.page {}
          { parentId := "p", title := "T", sections := [{ title := "S", content := [.str "Hi"] }] })
          = (.ok blocks, journal)
        ∧ run.2.requests.flatMap Request.children <+: Block.listToJson blocks := by
  intro client remote c s r run
  let body : Json := .obj [("parentId", .str "p"), ("title", .str "T"),
    ("sections", .arr [.obj [("title", .str "S"), ("content", .arr [.str "Hi"])]])]
  let course : Course :=
    { parentId := "p", title := "T", sections := [{ title := "S", content := [.str "Hi"] }] }
  have hbody : r.json? = some body := by decide +kernel
  have hadmits : Handling.Admits body course :=
    ⟨by decide +kernel, by decide, by decide, by decide, by decide +kernel⟩
  have hsecond : (c.outcomes [] run.2.requests)[1]?
      = some (.error (.remote ⟨"Notion API returned HTTP 429", 429, "rate_limited"⟩)) := by
    decide +kernel
  obtain ⟨_, _, hpassed⟩ := course_created_behind_gate (s := s) (c := c) (r := r) rfl rfl rfl
    (Prod.eta run).symm
  obtain ⟨blocks, journal, hbuilt, _, hprefix, _, hfailed, _⟩ := hpassed body course hbody hadmits
  obtain ⟨hlength, hdeclines⟩ := hfailed 1 _ hsecond
  exact ⟨hlength, hdeclines, blocks, journal, hbuilt, hprefix⟩

end Syllabus.Service
