/-
  Syllabus.Proofs.Course.Surroundings
  ───────────────────────────────────
  **AN ITEM AND THE REST OF ITS COURSE.**

  Every item of a course stands at the end of a path, and another one can be
  put there.  Building depends on it as far as it is built differently.  A
  review finds the same before it and behind it, and in between, at its place,
  what it finds in the item; only remarks on paragraphs in a row depend on
  whether it is one.

      Path.ofItem        the path to an item of a course
      buildCourse_put    items that are built alike can stand for each other
      Encloses           what is found, around what is found in one place
      foundIn_put        a review of an item around that of one nested in it
      courseParts_put    a review around the review of an item
-/
import Syllabus.Proofs.Course.Frame
import Syllabus.Proofs.Item.Surroundings

namespace Syllabus

/-! ## §1. Building. -/

/-- The path to an item of a section, or on to an item that is nested in it. -/
def Path.ofItem (i k : Nat) (q : Path) : Path :=
  .key "sections" :: .index i :: .key "content" :: .index k :: q

section Building

variable {options : BuildOptions} {a b : Json} {q : Path}

/-- What is put into the items of a section changes its content only. -/
theorem Section.ofJson_put (v : Json) (k : Nat) (q : Path) (new : Json) :
    Section.ofJson (v.put (.key "content" :: .index k :: q) new)
      = { Section.ofJson v with
          content := (v.member "content").items.modify k fun w => w.put q new } := by
  unfold Section.ofJson
  rw [Json.items_member_put]
  simp (disch := decide) only [Json.member_put_of_ne]

theorem Section.blocks_put (hq : q.Nesting) (h : buildItem options a = buildItem options b)
    (v : Json) (k : Nat) :
    (Section.ofJson (v.put (.key "content" :: .index k :: q) a)).blocks options
      = (Section.ofJson (v.put (.key "content" :: .index k :: q) b)).blocks options := by
  have hcontent : buildItems options ((v.member "content").items.modify k fun w => w.put q a)
      = buildItems options ((v.member "content").items.modify k fun w => w.put q b) :=
    buildFrom_modify (buildItem_put hq h) 0
  rw [Section.ofJson_put, Section.ofJson_put]
  unfold Section.blocks
  dsimp only
  rw [hcontent]
  rfl

theorem sectionBlocks_modify {f g : Json → Json}
    (h : ∀ v, (Section.ofJson (f v)).blocks options = (Section.ofJson (g v)).blocks options)
    (vs : List Json) (i : Nat) :
    ∀ index, sectionBlocks options index ((vs.modify i f).map Section.ofJson)
      = sectionBlocks options index ((vs.modify i g).map Section.ofJson) := by
  induction vs generalizing i with
  | nil =>
      intro index
      rw [List.modify_nil, List.modify_nil]
  | cons v vs ih =>
      intro index
      cases i with
      | zero =>
          rw [List.modify_zero_cons, List.modify_zero_cons, List.map_cons, List.map_cons,
            sectionBlocks, sectionBlocks, h]
      | succ i =>
          rw [List.modify_succ_cons, List.modify_succ_cons, List.map_cons, List.map_cons,
            sectionBlocks, sectionBlocks, ih]

/-- What is put into the items of a course changes its sections only. -/
theorem Course.ofJson_put (course : Json) (i : Nat) (p : Path) (new : Json) :
    Course.ofJson (course.put (.key "sections" :: .index i :: p) new)
      = (Course.ofJson course).map fun c =>
          { c with
            sections := List.map Section.ofJson
              ((course.member "sections").items.modify i fun v => v.put p new) } := by
  unfold Course.ofJson
  rw [Json.items_member_put]
  simp (disch := decide) only [Json.member_put_of_ne]
  cases Lenient.minutes? (course.member "estimatedTime") <;> rfl

/-- **Items that are built alike can stand for each other, wherever they are in a course.** -/
theorem buildCourse_put (hq : q.Nesting) (h : buildItem options a = buildItem options b)
    (course : Json) (i k : Nat) :
    buildCourse options (course.put (.ofItem i k q) a)
      = buildCourse options (course.put (.ofItem i k q) b) := by
  have hsections := sectionBlocks_modify (fun v => Section.blocks_put hq h v k)
    (course.member "sections").items i 0
  unfold buildCourse Path.ofItem
  rw [Course.ofJson_put, Course.ofJson_put]
  cases Course.ofJson course with
  | error e => rfl
  | ok c =>
      simp only [Except.map]
      unfold Course.page
      dsimp only
      rw [hsections]
      rfl

end Building

/-! ## §2. What is found around one place. -/

/-- The diagnostics among notes whose severity is one of some. -/
def Notes.kept (keeps : Severity → Bool) (n : Notes) : List Diagnostic :=
  n.found.filter fun d => keeps d.severity

section Kept

variable {keeps : Severity → Bool}

theorem Notes.kept_append (n m : Notes) : (n ++ m).kept keeps = n.kept keeps ++ m.kept keeps :=
  List.filter_append ..

theorem Notes.kept_under (steps : Path) (n : Notes) :
    (n.under steps).kept keeps = (n.kept keeps).map (.under steps) :=
  List.filter_map ..

theorem map_under_under (outer inner : Path) (ds : List Diagnostic) :
    (ds.map (Diagnostic.under inner)).map (Diagnostic.under outer)
      = ds.map (Diagnostic.under (outer ++ inner)) := by
  rw [List.map_map]
  exact List.map_congr_left fun d _ => d.under_under outer inner

end Kept

/-- For all values of a kind, one list of diagnostics is another one between the same two. -/
def Encloses (P : Json → Prop) (outer inner : Json → List Diagnostic) : Prop :=
  ∃ front back, ∀ v, P v → outer v = front ++ inner v ++ back

namespace Encloses

variable {P : Json → Prop} {outer outer' inner : Json → List Diagnostic}

/-- More may stand around it. -/
theorem between (h : Encloses P outer inner) (before after : List Diagnostic)
    (houter : ∀ v, P v → outer' v = before ++ outer v ++ after) : Encloses P outer' inner := by
  obtain ⟨front, back, h⟩ := h
  refine ⟨before ++ front, back ++ after, fun v hv => ?_⟩
  rw [houter v hv, h v hv]
  simp only [List.append_assoc]

/-- All of it may be seen from further out. -/
theorem under {p : Path} (h : Encloses P outer fun v => (inner v).map (.under p)) (steps : Path) :
    Encloses P (fun v => (outer v).map (.under steps))
      fun v => (inner v).map (.under (steps ++ p)) := by
  obtain ⟨front, back, h⟩ := h
  refine ⟨front.map (.under steps), back.map (.under steps), fun v hv => ?_⟩
  dsimp only at h ⊢
  rw [h v hv, List.map_append, List.map_append, map_under_under]

end Encloses

/-! ## §3. Reviewing items. -/

namespace Review

open Writing

/-- What a review finds in an item. -/
def foundIn (keeps : Severity → Bool) (label : String) (v : Json) : List Diagnostic :=
  (item label v).notes.kept keeps

theorem notes_scope {w : Writing Unit} (h : Steady w) (steps : Path) :
    (scope steps w).notes = w.notes.under steps := (gives_scope h steps).notes_eq

theorem checkConversion_bare {ms ms' : List (String × Json)}
    (h : (Item.ofMembers ms').bare = (Item.ofMembers ms).bare) (label : String) (tag : Tag) :
    checkConversion label tag ms' = checkConversion label tag ms := by
  unfold checkConversion
  cases hms : Item.ofMembers ms <;> cases hms' : Item.ofMembers ms' <;>
    rw [hms, hms'] at h <;> cases h
  rfl

/-- What the checks of an item look at. -/
theorem checkMembers_congr {ms ms' : List (String × Json)} (htag : tagOf? ms' = tagOf? ms)
    (hlookup : ∀ key ∈ ["options", "correctIndex", "url", "text"],
      Json.lookup key ms' = Json.lookup key ms)
    (hbare : (Item.ofMembers ms').bare = (Item.ofMembers ms).bare) (label : String) :
    checkMembers label ms' = checkMembers label ms := by
  have hquiz : checkQuiz label ms' = checkQuiz label ms := by
    unfold checkQuiz
    rw [hlookup "options" (by decide), hlookup "correctIndex" (by decide)]
  have hurl : ∀ tag, checkUrl label tag ms' = checkUrl label tag ms := by
    intro tag
    unfold checkUrl
    rw [hlookup "url" (by decide)]
  have hlength : checkLength label ms' = checkLength label ms := by
    unfold checkLength
    rw [hlookup "text" (by decide)]
  have htags : ∀ tag, tagChecks label tag ms' = tagChecks label tag ms := by
    intro tag
    unfold tagChecks
    rw [hquiz, hurl]
  have hfirst : firstChecks label (tagOf? ms') ms' = firstChecks label (tagOf? ms) ms := by
    unfold firstChecks
    rw [htag, hlength]
    simp only [htags]
  have hlast : lastCheck label (tagOf? ms') ms' = lastCheck label (tagOf? ms) ms := by
    unfold lastCheck
    rw [htag]
    simp only [checkConversion_bare hbare]
  rw [checkMembers_eq, checkMembers_eq, hfirst, hlast]

theorem checkMembers_alike {ms ms' : List (String × Json)} (h : Alike ms ms') (label : String) :
    checkMembers label ms' = checkMembers label ms := by
  refine checkMembers_congr ?_ ?_ h.bare label
  · unfold tagOf?
    rw [h.lookup (by decide)]
  · intro key hkey
    refine h.lookup ?_
    revert key
    decide

variable {keeps : Severity → Bool} {P : Json → Prop} {label : String}

/-- The review of an item goes over its members, its children and its sides. -/
theorem foundIn_obj (label : String) (ms : List (String × Json)) :
    foundIn keeps label (.obj ms)
      = (checkMembers label ms).notes.kept keeps
        ++ ((childrenFrom label 0 (nestedItems ms)).notes.kept keeps
        ++ (((childrenFrom label 0 (sideItems "left" ms)).notes.kept keeps).map (.under [.key "left"])
        ++ ((childrenFrom label 0 (sideItems "right" ms)).notes.kept keeps).map
            (.under [.key "right"]))) := by
  have hitems := fun vs => steady_items label vs 0
  have hleft := steady_scope (hitems (sideItems "left" ms)) [.key "left"]
  have hright := steady_scope (hitems (sideItems "right" ms)) [.key "right"]
  unfold foundIn
  rw [item_obj, (steady_checkMembers label ms).notes_bind ((hitems _).bind (hleft.bind hright)),
    (hitems _).notes_bind (hleft.bind hright), hleft.notes_bind hright, notes_scope (hitems _),
    notes_scope (hitems _)]
  simp only [Notes.kept_append, Notes.kept_under]

theorem kept_childrenFrom_cons (label : String) (index : Nat) (v : Json) (vs : List Json) :
    (childrenFrom label index (v :: vs)).notes.kept keeps
      = (foundIn keeps label v).map (.under [.key "children", .index index])
        ++ (childrenFrom label (index + 1) vs).notes.kept keeps := by
  rw [childrenFrom_cons, (steady_scope (steady_item label v) _).notes_bind (steady_items label vs _),
    notes_scope (steady_item label v), Notes.kept_append, Notes.kept_under]
  rfl

/-- The review of nested items around that of one of them. -/
theorem childrenFrom_modify (vs : List Json) {i : Nat} {u : Json} {p : Path} (hu : vs[i]? = some u)
    (h : Encloses P (fun new => foundIn keeps label (u.put p new))
      fun new => (foundIn keeps label new).map (.under p)) :
    ∀ index, Encloses P
      (fun new => (childrenFrom label index (vs.modify i fun w => w.put p new)).notes.kept keeps)
      fun new => (foundIn keeps label new).map
        (.under (.key "children" :: .index (index + i) :: p)) := by
  induction vs generalizing i with
  | nil => cases hu
  | cons v vs ih =>
      intro index
      cases i with
      | zero =>
          cases hu
          refine (h.under [.key "children", .index index]).between []
            ((childrenFrom label (index + 1) vs).notes.kept keeps) fun new _ => ?_
          rw [List.modify_zero_cons, kept_childrenFrom_cons, List.nil_append]
      | succ i =>
          rw [show index + (i + 1) = index + 1 + i by omega]
          refine (ih hu (index + 1)).between
            ((foundIn keeps label v).map (.under [.key "children", .index index])) [] fun new _ => ?_
          rw [List.modify_succ_cons, kept_childrenFrom_cons, List.append_nil]

/-- What is reviewed before the children of an item, and what after them. -/
theorem foundIn_child {ms : List (String × Json)} {i : Nat} {p : Path}
    (h : Encloses P
      (fun new => (childrenFrom label 0 ((nestedItems ms).modify i fun w => w.put p new)).notes.kept
        keeps)
      fun new => (foundIn keeps label new).map (.under (.key "children" :: .index i :: p))) :
    Encloses P
      (fun new => foundIn keeps label ((Json.obj ms).put (.key "children" :: .index i :: p) new))
      fun new => (foundIn keeps label new).map (.under (.key "children" :: .index i :: p)) := by
  refine h.between ((checkMembers label ms).notes.kept keeps)
    (((childrenFrom label 0 (sideItems "left" ms)).notes.kept keeps).map (.under [.key "left"])
      ++ ((childrenFrom label 0 (sideItems "right" ms)).notes.kept keeps).map
        (.under [.key "right"])) fun new _ => ?_
  show foundIn keeps label (.obj _) = _
  rw [foundIn_obj, checkMembers_alike (alike_put_child ms i p new), nestedItems_put_child,
    sideItems_modifyMember (by decide), sideItems_modifyMember (by decide)]
  simp only [List.append_assoc]

/-- The same of the children of a side. -/
theorem foundIn_sideChild {ms : List (String × Json)} {side : String} {i : Nat} {p : Path}
    (hside : side ∈ ["left", "right"])
    (h : Encloses P
      (fun new =>
        (childrenFrom label 0 ((sideItems side ms).modify i fun w => w.put p new)).notes.kept keeps)
      fun new => (foundIn keeps label new).map (.under (.key "children" :: .index i :: p))) :
    Encloses P
      (fun new =>
        foundIn keeps label ((Json.obj ms).put (.key side :: .key "children" :: .index i :: p) new))
      fun new =>
        (foundIn keeps label new).map (.under (.key side :: .key "children" :: .index i :: p)) := by
  have hown := fun new => checkMembers_alike (alike_put_side hside ms i p new) label
  have hchildren : ∀ f, nestedItems (Json.modifyMember side f ms) = nestedItems ms :=
    fun f => nestedItems_modifyMember (ne_of_mem_sides hside).2
  have houter := h.under [.key side]
  simp only [List.mem_cons, List.not_mem_nil, or_false] at hside
  rcases hside with rfl | rfl
  · refine houter.between ((checkMembers label ms).notes.kept keeps
        ++ (childrenFrom label 0 (nestedItems ms)).notes.kept keeps)
      (((childrenFrom label 0 (sideItems "right" ms)).notes.kept keeps).map (.under [.key "right"]))
      fun new _ => ?_
    show foundIn keeps label (.obj _) = _
    rw [foundIn_obj, hown, hchildren, sideItems_put, sideItems_put, if_pos rfl, if_neg (by decide)]
    simp only [List.append_assoc]
  · refine houter.between ((checkMembers label ms).notes.kept keeps
        ++ ((childrenFrom label 0 (nestedItems ms)).notes.kept keeps
        ++ ((childrenFrom label 0 (sideItems "left" ms)).notes.kept keeps).map (.under [.key "left"])))
      [] fun new _ => ?_
    show foundIn keeps label (.obj _) = _
    rw [foundIn_obj, hown, hchildren, sideItems_put, sideItems_put, if_pos rfl, if_neg (by decide)]
    simp only [List.append_assoc, List.append_nil]

/-- The review of an item around that of one that is nested in it. -/
theorem foundIn_put (keeps : Severity → Bool) (label : String) {p : Path} (hp : p.Nesting) {v a : Json} (h : v.at? p = some a) :
    Encloses P (fun new => foundIn keeps label (v.put p new))
      fun new => (foundIn keeps label new).map (.under p) := by
  induction hp generalizing v with
  | here =>
      refine ⟨[], [], fun new _ => ?_⟩
      dsimp only
      rw [Json.put_nil, List.nil_append, List.append_nil]
      exact (List.map_id _).symm
  | child i _ ih =>
      obtain ⟨u, hu, hrest⟩ := Json.at?_item h
      obtain ⟨ms, _, rfl, _, _⟩ := Json.at?_key h
      have hchildren := childrenFrom_modify (nestedItems ms) hu (ih hrest) 0
      rw [Nat.zero_add] at hchildren
      exact foundIn_child hchildren
  | @sideChild side hside i _ _ ih =>
      obtain ⟨ms, inner, rfl, hinner, hbehind⟩ := Json.at?_key h
      obtain ⟨u, hu, hrest⟩ := Json.at?_item hbehind
      obtain ⟨sides, _, rfl, _, _⟩ := Json.at?_key hbehind
      have hitems : sideItems side ms = nestedItems sides := by
        unfold sideItems
        rw [hinner]
      have hchildren := childrenFrom_modify (nestedItems sides) hu (ih hrest) 0
      rw [Nat.zero_add, ← hitems] at hchildren
      exact foundIn_sideChild hside hchildren

/-! ## §4. Reviewing sections and courses. -/

variable {a u : Json} {q : Path} {vs : List Json} {i k : Nat}

/-- What is nested in an item does not decide whether it is a paragraph. -/
theorem isParagraph_put (hq : q.Nesting) (h : u.at? q = some a) {new : Json}
    (hnew : isParagraph new = isParagraph a) : isParagraph (u.put q new) = isParagraph u := by
  have hobj : ∀ {ms ms' : List (String × Json)}, Alike ms ms' →
      isParagraph (.obj ms') = isParagraph (.obj ms) := by
    intro ms ms' halike
    exact congrArg (· == some (Json.str "paragraph")) (halike.lookup (by decide))
  cases hq with
  | here =>
      cases h
      rw [Json.put_nil, hnew]
  | child i _ =>
      obtain ⟨ms, _, rfl, _, _⟩ := Json.at?_key h
      exact hobj (alike_put_child ms i _ new)
  | sideChild hside i _ =>
      obtain ⟨ms, _, rfl, _, _⟩ := Json.at?_key h
      exact hobj (alike_put_side hside ms i _ new)

/-- The remark on paragraphs in a row. -/
def paragraphRemark (label : String) (remark : Bool) : Writing Unit :=
  if remark then
    Writing.record "consecutive_paragraphs"
      (s!"{label}: {paragraphRunLimit} or more consecutive paragraphs; "
        ++ "vary the block types") .warning
  else pure ()

theorem steady_paragraphRemark (label : String) (remark : Bool) :
    Steady (paragraphRemark label remark) := by
  unfold paragraphRemark
  split
  · exact steady_record _ _ _
  · exact steady_pure

/-- A remark is a warning. -/
theorem kept_paragraphRemark (hkeeps : keeps .warning = false) (label : String) (remark : Bool) :
    (paragraphRemark label remark).notes.kept keeps = [] := by
  unfold paragraphRemark
  split
  · rw [(gives_record _ _ _).notes_eq]
    exact List.filter_cons_of_neg (by rw [hkeeps]; decide)
  · rfl

/-- How many paragraphs in a row there are after one more item. -/
def runAfter (run : Nat) (v : Json) : Nat := if isParagraph v then run + 1 else 0

/-- The review of items goes over the first one, with its remark, and then over the others. -/
theorem notes_itemsFrom_cons (label : String) (index run : Nat) (v : Json) (vs : List Json) :
    (itemsFrom label index run (v :: vs)).notes
      = ((paragraphRemark label (isParagraph v && runAfter run v == paragraphRunLimit)).notes
          ++ (item label v).notes).under [.key "content", .index index]
        ++ (itemsFrom label (index + 1) (runAfter run v) vs).notes := by
  have hremark := steady_paragraphRemark label (isParagraph v && runAfter run v == paragraphRunLimit)
  have hhead := hremark.bind (steady_item label v)
  have heq : itemsFrom label index run (v :: vs)
      = scope [.key "content", .index index]
          (paragraphRemark label (isParagraph v && runAfter run v == paragraphRunLimit) >>= fun _ =>
            item label v) >>= fun _ =>
        itemsFrom label (index + 1) (runAfter run v) vs := by
    rw [itemsFrom_cons]
    unfold paragraphRemark runAfter
    cases isParagraph v && (if isParagraph v then run + 1 else 0) == paragraphRunLimit <;> rfl
  rw [heq, (steady_scope hhead _).notes_bind (steady_itemsFrom label vs _ _), notes_scope hhead,
    hremark.notes_bind (steady_item label v)]

theorem kept_itemsFrom_cons (label : String) (index run : Nat) (v : Json) (vs : List Json) :
    (itemsFrom label index run (v :: vs)).notes.kept keeps
      = ((paragraphRemark label (isParagraph v && runAfter run v == paragraphRunLimit)).notes.kept keeps
          ++ foundIn keeps label v).map (.under [.key "content", .index index])
        ++ (itemsFrom label (index + 1) (runAfter run v) vs).notes.kept keeps := by
  rw [notes_itemsFrom_cons, Notes.kept_append, Notes.kept_under, Notes.kept_append]
  rfl

/-- Without warnings it is all one how many paragraphs stand in front. -/
theorem kept_itemsFrom_run (hkeeps : keeps .warning = false) (label : String) (vs : List Json) :
    ∀ index run run', (itemsFrom label index run vs).notes.kept keeps
      = (itemsFrom label index run' vs).notes.kept keeps := by
  induction vs with
  | nil => intro index run run'; rfl
  | cons v vs ih =>
      intro index run run'
      rw [kept_itemsFrom_cons, kept_itemsFrom_cons, kept_paragraphRemark hkeeps,
        kept_paragraphRemark hkeeps, ih (index + 1) (runAfter run v) (runAfter run' v)]

/-- Of an item in front of others only that counts for what is found around it. -/
theorem kept_itemsFrom_head {v v' : Json}
    (h : keeps .warning = true → isParagraph v' = isParagraph v) (label : String) (index run : Nat)
    (vs : List Json) :
    (itemsFrom label index run (v' :: vs)).notes.kept keeps
      = ((paragraphRemark label (isParagraph v && runAfter run v == paragraphRunLimit)).notes.kept keeps
          ++ foundIn keeps label v').map (.under [.key "content", .index index])
        ++ (itemsFrom label (index + 1) (runAfter run v) vs).notes.kept keeps := by
  rw [kept_itemsFrom_cons]
  -- Whether it is a paragraph shows in remarks only, and these may be out of view.
  cases hkeeps : keeps .warning with
  | true =>
      unfold runAfter
      rw [h hkeeps]
  | false =>
      rw [kept_paragraphRemark hkeeps, kept_paragraphRemark hkeeps,
        kept_itemsFrom_run hkeeps label vs (index + 1) (runAfter run v') (runAfter run v)]

/-- The review of the items of a section around that of one of them. -/
theorem itemsFrom_put (label : String) (hq : q.Nesting) (hu : vs[k]? = some u) (ha : u.at? q = some a)
    (hP : ∀ new, P new → keeps .warning = true → isParagraph new = isParagraph a) :
    ∀ index run, Encloses P
      (fun new => (itemsFrom label index run (vs.modify k fun w => w.put q new)).notes.kept keeps)
      fun new => (foundIn keeps label new).map
        (.under (.key "content" :: .index (index + k) :: q)) := by
  induction vs generalizing k with
  | nil => cases hu
  | cons v vs ih =>
      intro index run
      cases k with
      | zero =>
          cases hu
          have hitem := (foundIn_put (P := P) keeps label hq ha).under
            [.key "content", .index index]
          refine hitem.between
            (((paragraphRemark label
                (isParagraph u && runAfter run u == paragraphRunLimit)).notes.kept keeps).map
              (.under [.key "content", .index index]))
            ((itemsFrom label (index + 1) (runAfter run u) vs).notes.kept keeps) fun new hnew => ?_
          rw [List.modify_zero_cons,
            kept_itemsFrom_head (fun hkeeps => isParagraph_put hq ha (hP new hnew hkeeps)),
            List.map_append]
      | succ k =>
          rw [show index + (k + 1) = index + 1 + k by omega]
          refine (ih hu (index + 1) (runAfter run v)).between
            (((paragraphRemark label
                (isParagraph v && runAfter run v == paragraphRunLimit)).notes.kept keeps
              ++ foundIn keeps label v).map (.under [.key "content", .index index])) []
            fun new _ => ?_
          rw [List.modify_succ_cons, kept_itemsFrom_cons, List.append_nil]

theorem isEmpty_modify (f : Json → Json) (vs : List Json) (i : Nat) :
    (vs.modify i f).isEmpty = vs.isEmpty := by
  cases vs with
  | nil => rw [List.modify_nil]
  | cons v vs => cases i <;> rfl

/-- The review of a section around that of an item. -/
theorem oneSection_put (hq : q.Nesting) (hu : u.at? (.key "content" :: .index k :: q) = some a)
    (hP : ∀ new, P new → keeps .warning = true → isParagraph new = isParagraph a) (number : Nat) :
    Encloses P
      (fun new => (oneSection number (u.put (.key "content" :: .index k :: q) new)).notes.kept keeps)
      fun new => (foundIn keeps s!"Section {number}" new).map
        (.under (.key "content" :: .index k :: q)) := by
  obtain ⟨w, hw, ha⟩ := Json.at?_item hu
  have hne : ¬ (u.member "content").items.isEmpty = true := by
    intro hempty
    rw [List.isEmpty_iff.mp hempty] at hw
    cases hw
  have hitems := itemsFrom_put s!"Section {number}" hq hw ha hP 0 0
  rw [Nat.zero_add] at hitems
  refine hitems.between
    ((if !hasText (u.member "title") then
        Writing.record "section_missing_title" (s!"Section {number}" ++ ": missing title") .error
      else pure () : Writing Unit).notes.kept keeps) [] fun new _ => ?_
  rw [oneSection_eq, Json.member_put_of_ne (by decide), Json.items_member_put, isEmpty_modify,
    if_neg hne, (steady_missing _ _ _).notes_bind (steady_itemsFrom _ _ _ _), Notes.kept_append,
    List.append_nil]

theorem notes_sectionsFrom_cons (index : Nat) (s : Json) (ss : List Json) :
    (sectionsFrom index (s :: ss)).notes
      = (oneSection (index + 1) s).notes.under [.key "sections", .index index]
        ++ (sectionsFrom (index + 1) ss).notes := by
  rw [sectionsFrom_cons, (steady_scope (steady_oneSection _ s) _).notes_bind (steady_sectionsFrom ss _),
    notes_scope (steady_oneSection _ s)]

theorem kept_sectionsFrom_cons (index : Nat) (s : Json) (ss : List Json) :
    (sectionsFrom index (s :: ss)).notes.kept keeps
      = ((oneSection (index + 1) s).notes.kept keeps).map (.under [.key "sections", .index index])
        ++ (sectionsFrom (index + 1) ss).notes.kept keeps := by
  rw [notes_sectionsFrom_cons, Notes.kept_append, Notes.kept_under]

/-- The review of sections around that of an item. -/
theorem sectionsFrom_put (hq : q.Nesting) (hu : vs[i]? = some u)
    (ha : u.at? (.key "content" :: .index k :: q) = some a)
    (hP : ∀ new, P new → keeps .warning = true → isParagraph new = isParagraph a) :
    ∀ index, Encloses P
      (fun new => (sectionsFrom index
        (vs.modify i fun w => w.put (.key "content" :: .index k :: q) new)).notes.kept keeps)
      fun new => (foundIn keeps s!"Section {index + i + 1}" new).map
        (.under (.ofItem (index + i) k q)) := by
  induction vs generalizing i with
  | nil => cases hu
  | cons v vs ih =>
      intro index
      cases i with
      | zero =>
          cases hu
          have hsection := (oneSection_put hq ha hP (index + 1)).under
            [.key "sections", .index index]
          refine hsection.between [] ((sectionsFrom (index + 1) vs).notes.kept keeps) fun new _ => ?_
          rw [List.modify_zero_cons, kept_sectionsFrom_cons, List.nil_append]
      | succ i =>
          rw [show index + (i + 1) = index + 1 + i by omega]
          refine (ih hu (index + 1)).between
            (((oneSection (index + 1) v).notes.kept keeps).map
              (.under [.key "sections", .index index])) [] fun new _ => ?_
          rw [List.modify_succ_cons, kept_sectionsFrom_cons, List.append_nil]

/-- **What a review finds in a course, around what it finds in one of its items.** -/
theorem courseParts_put {course : Json} (keeps : Severity → Bool) (hq : q.Nesting)
    (ha : course.at? (.ofItem i k q) = some a)
    (hP : ∀ new, P new → keeps .warning = true → isParagraph new = isParagraph a) :
    Encloses P (fun new => (courseParts (course.put (.ofItem i k q) new)).notes.kept keeps)
      fun new => (foundIn keeps s!"Section {i + 1}" new).map (.under (.ofItem i k q)) := by
  obtain ⟨u, hu, hrest⟩ := Json.at?_item ha
  have hsections := sectionsFrom_put hq hu hrest hP 0
  rw [Nat.zero_add] at hsections
  refine hsections.between
    ((if !hasText (course.member "title") then
        Writing.record "course_missing_title" "Missing course title" .error
      else pure () : Writing Unit).notes.kept keeps
    ++ (if (course.member "sections").items.isEmpty then
        Writing.record "course_missing_sections" "At least one section is required" .error
      else pure () : Writing Unit).notes.kept keeps) [] fun new _ => ?_
  have hfirst := fun code message missing => steady_missing code message missing
  unfold Path.ofItem
  rw [courseParts_eq, Json.member_put_of_ne (by decide), Json.items_member_put, isEmpty_modify,
    (hfirst _ _ _).notes_bind ((hfirst _ _ _).bind (steady_sectionsFrom _ _)),
    (hfirst _ _ _).notes_bind (steady_sectionsFrom _ _), Notes.kept_append, Notes.kept_append,
    List.append_nil, List.append_assoc]

end Review

end Syllabus
