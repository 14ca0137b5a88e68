/-
  Syllabus.Proofs.Course.Places
  ─────────────────────────────
  **EVERY DIAGNOSTIC CAN BE LOCATED.**

  Building and reviewing keep the place where they are on a stack, and go over
  what the author wrote after it was read, without `null` members and with
  lenient sections.  All the same, the place in a diagnostic is one in the
  course as it was written: it leads to a value there, and to the right one.

      Diagnostic.Describes    what a diagnostic says of a value, if it says it
                              of one that does not fit or has no known tag
      Diagnostic.Placed       it stands at a place of a value and describes
                              what is there
      kept_placed             diagnostics of items are placed
      Review.item_meets       what the review of an item promises
      Review.item_placed      and so are those of reviewed items
      diagnostics_located     a course: all of them are, by what is written
-/
import Syllabus.Proofs.Course.Soundness
import Syllabus.Proofs.Json.Places

namespace Syllabus

open Writing

/-! ## §1. What is said of a value. -/

/-- Whether a value has the fault that a diagnostic with one of two codes is about: a value that does
not fit is no item, and one with an unknown type is an object whose type is no tag. -/
structure Diagnostic.Describes (d : Diagnostic) (v : Json) : Prop where
  /-- The value does not fit. -/
  malformed : d.code = "malformed_item" → (Item.ofJson v).isMalformed = true
  /-- The value is an object, and its type is not recognised. -/
  unknown : d.code = "unknown_item_type" →
    v.isObject = true ∧ Tag.ofJson? (v.member "type") = none

/-- The codes that say something of the whole value at their place. -/
def wholeCodes : List String := ["malformed_item", "unknown_item_type"]

theorem Diagnostic.describes_of_not_mem {d : Diagnostic} (h : d.code ∉ wholeCodes) (v : Json) :
    d.Describes v where
  malformed hcode := by
    rw [hcode] at h
    exact absurd h (by decide)
  unknown hcode := by
    rw [hcode] at h
    exact absurd h (by decide)

theorem Diagnostic.Warns.describes {codes : List String} {d : Diagnostic} (h : d.Warns codes)
    (hcodes : ∀ code ∈ codes, code ∉ wholeCodes) (v : Json) : d.Describes v :=
  d.describes_of_not_mem (hcodes d.code h.2.2) v

/-- The diagnostic stands at a place of the value, and describes what is there. -/
structure Diagnostic.Placed (d : Diagnostic) (v : Json) : Prop where
  /-- Its path can be written down. -/
  plain : ∀ step ∈ d.path, step.Plain
  /-- It leads to something that is described. -/
  there : ∃ w, v.at? d.path = some w ∧ d.Describes w

section Placed

variable {d : Diagnostic} {v w : Json}

/-- A diagnostic about the present place. -/
theorem Diagnostic.placed_here (hpath : d.path = []) (h : d.Describes v) : d.Placed v where
  plain := by
    intro step hstep
    rw [hpath] at hstep
    exact absurd hstep List.not_mem_nil
  there := ⟨v, by rw [hpath]; rfl, h⟩

/-- A diagnostic about a part of a value, seen from the value. -/
theorem Diagnostic.Placed.under {steps : Path} (h : d.Placed w) (hat : v.at? steps = some w)
    (hplain : ∀ step ∈ steps, step.Plain) : (d.under steps).Placed v where
  plain := by
    intro step hstep
    rcases List.mem_append.mp hstep with houter | hinner
    · exact hplain step houter
    · exact h.plain step hinner
  there := by
    obtain ⟨u, hu, hdescribes⟩ := h.there
    exact ⟨u, (Json.at?_append hat).trans hu, hdescribes.malformed, hdescribes.unknown⟩

/-- A diagnostic about an item of a member. -/
theorem Diagnostic.Placed.under_item {name : String} {i : Nat} (h : d.Placed w)
    (hw : (w, i) ∈ (v.member name).items.zipIdx) (hname : (Step.key name).Plain) :
    (d.under [.key name, .index i]).Placed v := by
  refine h.under (Json.at?_items hw) ?_
  intro step hstep
  simp only [List.mem_cons, List.not_mem_nil, or_false] at hstep
  rcases hstep with rfl | rfl
  · exact hname
  · exact Step.plain_index i

end Placed

/-! ## §2. Building. -/

theorem Item.ofJson_unknown {v : Json} {tag text : String} (h : Item.ofJson v = .unknown tag text) :
    v.isObject = true ∧ Tag.ofJson? (v.member "type") = none := by
  cases v with
  | obj ms =>
      refine ⟨rfl, ?_⟩
      have h : Item.ofMembers ms = .unknown tag text := h
      unfold Item.ofMembers at h
      dsimp only at h
      split at h
      · rename_i hnone
        exact hnone
      · split at h <;> cases h
  | _ => cases h

/-- What an item reports about itself describes the value that the item was read from. -/
theorem Item.Reports.describes {v : Json} {d : Diagnostic} (h : (Item.ofJson v).Reports d) :
    d.Describes v := by
  cases hitem : Item.ofJson v with
  | known color content =>
      rw [hitem] at h
      cases h with
      | known h => exact h.warns.describes (by decide) v
  | unknown tag text =>
      rw [hitem] at h
      cases h with
      | unknown h =>
          have hcode : d.code = "unknown_item_type" := List.mem_singleton.mp h.2.2
          refine ⟨?_, fun _ => Item.ofJson_unknown hitem⟩
          intro hmalformed
          rw [hcode] at hmalformed
          exact absurd hmalformed (by decide)
  | malformed tag error =>
      rw [hitem] at h
      cases h
      refine ⟨fun _ => by rw [hitem]; rfl, ?_⟩
      intro hunknown
      exact absurd (show "malformed_item" = "unknown_item_type" from hunknown) (by decide)

theorem storesAt_left :
    StoresAt ComparisonFields.fields "left" (Converter.optionalRecord SideFields.fields {}) (·.left) := by
  refine .of_fields rfl (Field.stores_of fun _ _ => rfl) ?_
  unfold ComparisonFields.fields
  simp only [List.forall_mem_cons]
  exact ⟨fun h => absurd rfl h, fun _ => Field.keeps_of fun _ _ => rfl,
    fun f hf => absurd hf List.not_mem_nil⟩

theorem storesAt_right :
    StoresAt ComparisonFields.fields "right" (Converter.optionalRecord SideFields.fields {}) (·.right) := by
  refine .of_fields rfl (Field.stores_of fun _ _ => rfl) ?_
  unfold ComparisonFields.fields
  simp only [List.forall_mem_cons]
  exact ⟨fun _ => Field.keeps_of fun _ _ => rfl, fun h => absurd rfl h,
    fun f hf => absurd hf List.not_mem_nil⟩

theorem Json.exists_lookup_of_mem {key : String} {v : Json} {ms : List (String × Json)}
    (h : (key, v) ∈ ms) : ∃ w, Json.lookup key ms = some w := by
  induction ms with
  | nil => exact absurd h List.not_mem_nil
  | cons m ms ih =>
      obtain ⟨k, w⟩ := m
      unfold Json.lookup
      by_cases hk : k = key
      · exact ⟨w, if_pos hk⟩
      · rw [if_neg hk]
        rcases List.mem_cons.mp h with hhead | htail
        · exact absurd (Prod.mk.inj hhead).1.symm hk
        · exact ih htail

/-- What was not written is not read either. -/
theorem lookup_readableMembers_eq_none {key : String} {ms : List (String × Json)}
    (h : Json.lookup key ms = none) : Json.lookup key (readableMembers ms) = none := by
  refine Json.lookup_eq_none ?_
  intro hmem
  obtain ⟨⟨k, v⟩, hread, hk⟩ := List.mem_map.mp hmem
  obtain ⟨⟨k', w⟩, hwritten, hpair⟩ := List.mem_map.mp hread
  have hsame : k' = key := (Prod.mk.inj hpair).1.trans hk
  obtain ⟨x, hx⟩ := Json.exists_lookup_of_mem (List.mem_filter.mp hwritten).1
  rw [hsame, h] at hx
  cases hx

/-- A comparison has a side only if one was written. -/
theorem exists_lookup_of_sides {ms : List (String × Json)} {side : String}
    (hside : side ∈ ["left", "right"]) (h : (Item.ofMembers ms).sides?.isSome = true) :
    ∃ w, Json.lookup side ms = some w := by
  cases hitem : Item.ofMembers ms with
  | unknown tag text => rw [hitem] at h; cases h
  | malformed tag error => rw [hitem] at h; cases h
  | known color content =>
      rw [hitem] at h
      obtain ⟨-, hread⟩ := Item.ofMembers_known hitem
      cases content with
      | comparison f =>
          obtain ⟨r, hmembers, hcontent⟩ := readContent_ok hread
          rw [← Content.comparison.inj hcontent] at hmembers
          -- The two sides are there, and a side that was not written would not be.
          obtain ⟨left, right⟩ := f
          cases hlookup : Json.lookup side ms with
          | some w => exact ⟨w, rfl⟩
          | none =>
              have hnone := lookup_readableMembers_eq_none hlookup
              simp only [List.mem_cons, List.not_mem_nil, or_false] at hside
              rcases hside with rfl | rfl
              · have hleft : left = none :=
                  (storesAt_left.colored (by decide)).get_default hnone hmembers
                rw [hleft] at h
                cases h
              · have hright : right = none :=
                  (storesAt_right.colored (by decide)).get_default hnone hmembers
                rw [hright] at h
                cases left <;> cases h
      | _ => cases h

theorem plain_side {side : String} (h : side ∈ ["left", "right"]) : (Step.key side).Plain := by
  simp only [List.mem_cons, List.not_mem_nil, or_false] at h
  rcases h with rfl | rfl <;> decide

theorem Diagnostic.Placed.under_side {ms : List (String × Json)} {side : String} {w : Json}
    {d : Diagnostic} (h : d.Placed w) (hside : side ∈ ["left", "right"])
    (hw : Json.lookup side ms = some w) : (d.under [.key side]).Placed (.obj ms) := by
  refine h.under ?_ ?_
  · show (Json.lookup side ms).bind _ = _
    rw [hw]
    rfl
  · intro step hstep
    rw [List.mem_singleton.mp hstep]
    exact plain_side hside

/-- A diagnostic about an item that is nested in a side. -/
theorem Diagnostic.Placed.under_sideItem {ms : List (String × Json)} {side : String} {w : Json}
    {i : Nat} {d : Diagnostic} (h : d.Placed w) (hside : side ∈ ["left", "right"])
    (hw : (w, i) ∈ (sideItems side ms).zipIdx) :
    (d.under [.key side, .key "children", .index i]).Placed (.obj ms) := by
  unfold sideItems at hw
  split at hw
  · rename_i inner hlookup
    have hinner := h.under_item (v := .obj inner) hw (by decide)
    exact hinner.under_side hside hlookup
  · exact absurd hw List.not_mem_nil

/-- What is reported of an item, or of what is nested in it, is placed in the item. -/
theorem kept_placed : KeptByItems fun v d => d.Placed v where
  own v d hd := d.placed_here hd.here hd.describes
  child ms _ v i hv d hd := hd.under_item (v := .obj ms) hv (by decide)
  sideChild ms _ side hside v i hv d hd := hd.under_sideItem hside hv
  sideLink ms hsides side hside d hd := by
    obtain ⟨w, hw⟩ := exists_lookup_of_sides hside hsides
    exact (d.placed_here hd.1 (hd.describes (by decide) w)).under_side hside hw

/-- Whatever building a course reports is placed in the course as it was written. -/
theorem Course.page_placed {course : Json} {c : Course} (hc : Course.ofJson course = .ok c) :
    Building.Meets (fun d => d.Placed course) Form.AreBlocks (fun _ => False) (c.page {}) := by
  refine Course.page_meets (fun d hd => d.placed_here hd.1 (hd.describes (by decide) course)) ?_
  intro s i hs
  -- The sections of the course are those that were written, one by one.
  rw [Course.sections_of_ofJson hc, List.zipIdx_map, List.mem_map] at hs
  obtain ⟨⟨v, k⟩, hv, hvs⟩ := hs
  obtain ⟨rfl, rfl⟩ := Prod.mk.inj hvs
  have hsection : ∀ d : Diagnostic, d.Placed v →
      (d.under [.key "sections", .index k]).Placed course :=
    fun d hd => hd.under_item hv (by decide)
  refine Section.blocks_meets ?_ ?_
  · intro d hd
    exact hsection d (d.placed_here hd.1 (hd.describes (by decide) v))
  · refine buildFrom_meets Form.AreBlocks.nil (fun _ _ hb hc => hb.append hc) ?_
    intro w j hw
    refine (buildItem_meets kept_placed w).mono ?_ fun _ h => h
    intro d hd
    rw [Diagnostic.under_under]
    exact hsection _ (hd.under_item (v := v) hw (by decide))

/-! ## §3. Reviewing. -/

namespace Review

theorem meets_record {D : Diagnostic → Prop} {code message : String} {severity : Severity}
    (h : D ⟨code, message, [], severity⟩) : Meets D (fun _ => True) (record code message severity) := by
  refine ⟨(), _, gives_record code message severity, ?_, trivial⟩
  intro d hd
  rw [List.mem_singleton.mp hd]
  exact h

theorem meets_scope {D D' : Diagnostic → Prop} {w : Writing Unit} {steps : Path}
    (h : Meets D (fun _ => True) w) (hD : ∀ d, D d → D' (d.under steps)) :
    Meets D' (fun _ => True) (scope steps w) := by
  obtain ⟨⟨⟩, n, hgives, hn, -⟩ := h
  refine ⟨(), n.under steps, gives_scope hgives steps, ?_, trivial⟩
  intro d hd
  rw [Notes.found_under, List.mem_map] at hd
  obtain ⟨e, he, rfl⟩ := hd
  exact hD e (hn e he)

theorem meets_nothing {D : Diagnostic → Prop} : Meets D (fun _ => True) (pure ()) := meets_pure trivial

/-- The codes of the checks of an item that come before its conversion. -/
def firstCodes : List String :=
  ["quiz_too_few_options", "quiz_index_out_of_range", "invalid_url", "text_too_long"]

/-- The first checks keep what is true of diagnostics with their codes. -/
theorem firstChecks_meets {D : Diagnostic → Prop}
    (hD : ∀ code ∈ firstCodes, ∀ message severity, D ⟨code, message, [], severity⟩) (label : String)
    (tag? : Option Tag) (ms : List (String × Json)) :
    Meets D (fun _ => True) (firstChecks label tag? ms) := by
  have hrecord : ∀ code message severity, code ∈ firstCodes →
      Meets D (fun _ => True) (record code message severity) :=
    fun code message severity hcode => meets_record (hD code hcode message severity)
  have hquiz : Meets D (fun _ => True) (checkQuiz label ms) := by
    unfold checkQuiz
    dsimp only
    split
    · exact hrecord _ _ _ (by decide)
    · split
      · exact meets_nothing
      · exact hrecord _ _ _ (by decide)
  have hurl : ∀ tag, Meets D (fun _ => True) (checkUrl label tag ms) := by
    intro tag
    unfold checkUrl
    dsimp only
    split
    · exact meets_nothing
    · exact hrecord _ _ _ (by decide)
  have hlength : Meets D (fun _ => True) (checkLength label ms) := by
    unfold checkLength
    split
    · split
      · exact hrecord _ _ _ (by decide)
      · exact meets_nothing
    · exact meets_nothing
  rw [firstChecks_eq]
  refine Meets.bind (P := fun _ => True) ?_ fun _ _ => hlength
  cases tag? with
  | none => exact meets_nothing
  | some tag =>
      show Meets _ _ (tagChecks label tag ms)
      rw [tagChecks_eq]
      refine Meets.bind (P := fun _ => True) ?_ fun _ _ => ?_
      · split
        · exact hquiz
        · exact meets_nothing
      · split
        · exact hurl tag
        · exact meets_nothing

/-- The last check keeps what is true of the one diagnostic that it may make: that the item does not
fit. -/
theorem lastCheck_meets {D : Diagnostic → Prop} (label : String) {ms : List (String × Json)}
    (hD : (Item.ofMembers ms).isMalformed = true →
      ∀ message, D ⟨"malformed_item", message, [], .error⟩) :
    Meets D (fun _ => True) (lastCheck label (tagOf? ms) ms) := by
  unfold lastCheck
  split
  · unfold checkConversion
    split
    · rename_i hitem
      exact meets_record (hD (by rw [hitem]; rfl) _)
    · exact meets_nothing
  · exact meets_nothing

theorem checkMembers_meets {D : Diagnostic → Prop} {label : String} {ms : List (String × Json)}
    (hfirst : Meets D (fun _ => True) (firstChecks label (tagOf? ms) ms))
    (hlast : Meets D (fun _ => True) (lastCheck label (tagOf? ms) ms)) :
    Meets D (fun _ => True) (checkMembers label ms) := by
  obtain ⟨⟨⟩, n, hfirst, hn, -⟩ := hfirst
  obtain ⟨⟨⟩, m, hlast, hm, -⟩ := hlast
  refine ⟨(), _, gives_checkMembers label ms hfirst hlast, ?_, trivial⟩
  intro d hd
  split at hd
  · rcases List.mem_append.mp hd with hd | hd
    · exact hn d hd
    · exact hm d hd
  · exact hn d hd

/-- A list of items keeps what each of them promises at its place. -/
theorem childrenFrom_meets {D : Diagnostic → Prop} {label : String} {vs : List Json} :
    ∀ {index : Nat}, (∀ v i, (v, i) ∈ vs.zipIdx index →
        Meets (fun d => D (d.under [.key "children", .index i])) (fun _ => True) (item label v)) →
      Meets D (fun _ => True) (childrenFrom label index vs) := by
  induction vs with
  | nil => intro index _; exact meets_nothing
  | cons v vs ih =>
      intro index h
      rw [List.zipIdx_cons] at h
      rw [childrenFrom_cons]
      exact (meets_scope (h v index List.mem_cons_self) fun d hd => hd).bind fun _ _ =>
        ih fun w i hw => h w i (List.mem_cons_of_mem _ hw)

/-- What is true of diagnostics of an item: of those that its own checks make, and, seen from it, of
those of the items that are nested in it. -/
structure KeptByReview (D : Json → Diagnostic → Prop) : Prop where
  /-- The first checks of an item. -/
  first : ∀ ms, ∀ code ∈ firstCodes, ∀ message severity, D (.obj ms) ⟨code, message, [], severity⟩
  /-- That something is no item. -/
  malformed : ∀ v, (Item.ofJson v).isMalformed = true →
    ∀ message, D v ⟨"malformed_item", message, [], .error⟩
  /-- An item in the list of children. -/
  child : ∀ ms w i, (w, i) ∈ (nestedItems ms).zipIdx → ∀ d, D w d →
    D (.obj ms) (d.under [.key "children", .index i])
  /-- An item in the list of children of a side. -/
  sideChild : ∀ ms, ∀ side ∈ ["left", "right"], ∀ w i, (w, i) ∈ (sideItems side ms).zipIdx →
    ∀ d, D w d → D (.obj ms) (d.under [.key side, .key "children", .index i])

/-- Whatever is kept so is true of all that the review of an item records. -/
theorem item_meets {D : Json → Diagnostic → Prop} (h : KeptByReview D) (label : String) (v : Json) :
    Meets (D v) (fun _ => True) (item label v) := by
  induction v using item_induction with
  | scalar v hv =>
      cases v with
      | obj ms => exact absurd hv (show ¬ (true = false) by decide)
      | str s => exact meets_nothing
      | _ => exact meets_record (h.malformed _ rfl _)
  | object ms ihchildren ihsides =>
      have hside : ∀ side ∈ ["left", "right"], Meets (D (.obj ms)) (fun _ => True)
          (scope [.key side] (childrenFrom label 0 (sideItems side ms))) := by
        intro side hside
        refine meets_scope (D := fun d => D (.obj ms) (d.under [.key side]))
          (childrenFrom_meets fun w i hw => ?_) fun d hd => hd
        refine (ihsides side w (List.fst_mem_of_mem_zipIdx hw)).mono ?_ fun _ h => h
        exact h.sideChild ms side hside w i hw
      rw [item_obj]
      refine (checkMembers_meets (firstChecks_meets (h.first ms) label _ ms)
        (lastCheck_meets label (h.malformed (.obj ms)))).bind fun _ _ => ?_
      refine Meets.bind (P := fun _ => True) (childrenFrom_meets fun w i hw => ?_) fun _ _ => ?_
      · refine (ihchildren w (List.fst_mem_of_mem_zipIdx hw)).mono ?_ fun _ h => h
        exact h.child ms w i hw
      · exact (hside "left" (by decide)).bind fun _ _ => hside "right" (by decide)

/-- What is recorded here and describes a value is placed in it. -/
theorem meets_recorded {v : Json} {code message : String} {severity : Severity}
    (hcode : code ∉ wholeCodes) :
    Meets (fun d => d.Placed v) (fun _ => True) (record code message severity) :=
  meets_record (Diagnostic.placed_here rfl (Diagnostic.describes_of_not_mem hcode v))

/-- The first checks of an item never say that it does not fit or has no tag; the last one says that it
does not fit, and rightly so. -/
theorem keptByReview_placed : KeptByReview fun v d => d.Placed v where
  first ms code hcode message severity := by
    have hother : ∀ code ∈ firstCodes, code ∉ wholeCodes := by decide
    exact Diagnostic.placed_here rfl (Diagnostic.describes_of_not_mem (hother code hcode) _)
  malformed v hv message := by
    refine Diagnostic.placed_here rfl ⟨fun _ => hv, ?_⟩
    intro hcode
    exact absurd (show "malformed_item" = "unknown_item_type" from hcode) (by decide)
  child ms w i hw d hd := hd.under_item (v := .obj ms) hw (by decide)
  sideChild ms side hside w i hw d hd := hd.under_sideItem hside hw

/-- Whatever the review of an item records is placed in the item. -/
theorem item_placed (label : String) (v : Json) :
    Meets (fun d => d.Placed v) (fun _ => True) (item label v) :=
  item_meets keptByReview_placed label v

theorem remarked_placed (label : String) (v : Json) (message : String) (remark : Bool) :
    Meets (fun d => d.Placed v) (fun _ => True)
      (if remark = true then record "consecutive_paragraphs" message .warning >>= fun _ => item label v
        else item label v) := by
  split
  · exact (meets_recorded (by decide)).bind fun _ _ => item_placed label v
  · exact item_placed label v

theorem itemsFrom_meets {D : Diagnostic → Prop} {label : String} {vs : List Json} :
    ∀ {index run : Nat}, (∀ v i, (v, i) ∈ vs.zipIdx index → ∀ d : Diagnostic, d.Placed v →
        D (d.under [.key "content", .index i])) →
      Meets D (fun _ => True) (itemsFrom label index run vs) := by
  induction vs with
  | nil => intro index run _; exact meets_pure trivial
  | cons v vs ih =>
      intro index run h
      rw [List.zipIdx_cons] at h
      rw [itemsFrom_cons]
      have hfirst := remarked_placed label v
      exact (meets_scope (hfirst _ _) (h v index List.mem_cons_self)).bind fun _ _ =>
        ih fun w i hw => h w i (List.mem_cons_of_mem _ hw)

theorem oneSection_placed (number : Nat) (v : Json) :
    Meets (fun d => d.Placed v) (fun _ => True) (oneSection number v) := by
  rw [oneSection_eq]
  refine Meets.bind (P := fun _ => True) ?_ fun _ _ => ?_
  · split
    · exact meets_recorded (by decide)
    · exact meets_nothing
  · split
    · exact meets_recorded (by decide)
    · exact itemsFrom_meets fun w i hw d hd => hd.under_item hw (by decide)

theorem sectionsFrom_meets {D : Diagnostic → Prop} {vs : List Json} :
    ∀ {index : Nat}, (∀ v i, (v, i) ∈ vs.zipIdx index → ∀ d : Diagnostic, d.Placed v →
        D (d.under [.key "sections", .index i])) →
      Meets D (fun _ => True) (sectionsFrom index vs) := by
  induction vs with
  | nil => intro index _; exact meets_pure trivial
  | cons v vs ih =>
      intro index h
      rw [List.zipIdx_cons] at h
      rw [sectionsFrom_cons]
      exact (meets_scope (oneSection_placed _ v) (h v index List.mem_cons_self)).bind fun _ _ =>
        ih fun w i hw => h w i (List.mem_cons_of_mem _ hw)

/-- Whatever the review of a course records is placed in the course. -/
theorem courseParts_placed (course : Json) :
    Meets (fun d => d.Placed course) (fun _ => True) (courseParts course) := by
  have hmissing : ∀ (missing : Bool) (code message : String), code ∉ wholeCodes →
      Meets (fun d => d.Placed course) (fun _ => True)
        (if missing = true then record code message .error else pure ()) := by
    intro missing code message hcode
    split
    · exact meets_recorded hcode
    · exact meets_nothing
  rw [courseParts_eq]
  refine (hmissing _ _ _ (by decide)).bind fun _ _ => ?_
  refine (hmissing _ _ _ (by decide)).bind fun _ _ => ?_
  exact sectionsFrom_meets fun v i hv d hd => hd.under_item hv (by decide)

end Review

/-! ## §4. Locations. -/

/-- A diagnostic that is placed in a value is found there by its written location. -/
theorem Diagnostic.Placed.located {d : Diagnostic} {v : Json} (h : d.Placed v) :
    ∃ w, v.locate? d.path.location? = some w ∧ d.Describes w := by
  obtain ⟨w, hat, hdescribes⟩ := h.there
  exact ⟨w, Json.locate?_of_at? h.plain hat, hdescribes⟩

/-- **Every diagnostic can be located.**

Whatever a review or a build of a course records, its location, read segment by segment, leads from
the course as it was written to a value that is there.  A diagnostic that says of an item that it
does not fit leads to a value that is read as such an item, and one that says of a type that it is
not recognised leads to an object with such a type. -/
theorem diagnostics_located (course : Json) (c : Course) (hc : Course.ofJson course = .ok c) :
    ∀ d ∈ (Review.course course {}).2.collector.entries
        ++ ((c.page {}).run.run {}).2.collector.entries,
      ∃ v, course.locate? d.path.location? = some v
        ∧ (d.code = "malformed_item" → (Item.ofJson v).isMalformed = true)
        ∧ (d.code = "unknown_item_type" →
            v.isObject = true ∧ Tag.ofJson? (v.member "type") = none) := by
  have hplaced : ∀ d ∈ (Review.course course {}).2.collector.entries
      ++ ((c.page {}).run.run {}).2.collector.entries, d.Placed course := by
    intro d hd
    rcases List.mem_append.mp hd with hreviewed | hbuilt
    · obtain ⟨⟨⟩, n, hgives, hn, -⟩ := Review.courseParts_placed course
      rw [Review.gives_course, Journal.noted_fresh, hgives.notes_eq] at hreviewed
      exact hn d hreviewed
    · obtain ⟨r, n, hends, hn, -⟩ := Course.page_placed hc
      rw [show ((c.page {}).run.run {}) = _ from hends {}, Journal.noted_fresh] at hbuilt
      exact hn d hbuilt
  intro d hd
  obtain ⟨v, hv, hdescribes⟩ := (hplaced d hd).located
  exact ⟨v, hv, hdescribes.malformed, hdescribes.unknown⟩

/-- A quiz that does not fit stands after a `null`, in the right side of a comparison; the location
counts the `null` and names the side. -/
theorem diagnostics_located_side :
    let quiz : Json := .obj [("type", .str "quiz"), ("options", .str "a,b")]
    let columns : Json := .obj [("type", .str "columns"), ("left", .obj []),
      ("right", .obj [("title", .null), ("children", .arr [.null, quiz])])]
    let course : Json := .obj [("title", .str "Course"), ("sections", .arr [.obj
      [("title", .str "One"), ("content", .arr [columns])]])]
    let c : Course := { title := "Course", sections := [{ title := "One", content := [columns] }] }
    Course.ofJson course = .ok c
      ∧ course.locate? (some "sections.0.content.0.right.children.1") = some quiz
      ∧ (Item.ofJson quiz).isMalformed = true := by
  intro quiz columns course c
  have hread : Course.ofJson course = .ok c := by rfl
  have hbuilt : ∃ d ∈ ((c.page {}).run.run {}).2.collector.entries,
      d.code = "malformed_item"
        ∧ d.path.location? = some "sections.0.content.0.right.children.1" := by
    decide +kernel
  obtain ⟨d, hd, hcode, hlocation⟩ := hbuilt
  obtain ⟨v, hv, hmalformed, -⟩ :=
    diagnostics_located course c hread d (List.mem_append_right _ hd)
  rw [hlocation] at hv
  have hquiz : course.locate? (some "sections.0.content.0.right.children.1") = some quiz := by
    decide +kernel
  rw [hquiz] at hv
  rw [← Option.some.inj hv] at hmalformed
  exact ⟨hread, hquiz, hmalformed hcode⟩

end Syllabus
