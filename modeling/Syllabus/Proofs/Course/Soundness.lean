/-
  Syllabus.Proofs.Course.Soundness
  ────────────────────────────────
  **A VALID COURSE IS BUILT WITHOUT LOSS.**

  A review and a build go over a course in two different ways: one looks at
  what the author wrote, the other at what it was converted to.  The diagnostics
  of a build that stand for something the author loses are *blocking*: an item
  that does not fit, a quiz that is dropped or whose answer is changed, media
  that cannot be shown.  Each of them has an error of the review at the same
  place:

      flagged_of_reports   in an item on its own
      kept_flagged         in the items that are nested in it
      review_sound         in a whole course; so a valid one has none

  A name must occur once in each object of the course, as it does in everything
  that was read from a text.  The review looks up a member by its name, the
  conversion goes through all members.
-/
import Syllabus.Proofs.Conversion.Integers
import Syllabus.Proofs.Course.Review
import Syllabus.Proofs.Course.Shape
import Syllabus.Proofs.Json.Names

namespace Syllabus

open Writing

/-! ## §1. Blocking diagnostics. -/

/-- A diagnostic that a valid course must not have. -/
inductive Diagnostic.Blocking (d : Diagnostic) : Prop where
  /-- An item does not fit. -/
  | malformed (h : d.code = "malformed_item")
  /-- A quiz is dropped. -/
  | fewOptions (h : d.code = "quiz_too_few_options")
  /-- A quiz gets another answer. -/
  | clampedIndex (h : d.code = "quiz_index_clamped")
  /-- An image, a video, a sound or a PDF document is not shown. -/
  | media (kind : MediaKind) (url : String) (h : d.code = "invalid_url")
      (hmessage : d.message = kind.name ++ ": invalid URL " ++ url)

/-- The codes of blocking diagnostics. -/
def blockingCodes : List String :=
  ["malformed_item", "quiz_too_few_options", "quiz_index_clamped", "invalid_url"]

theorem Diagnostic.Blocking.code_mem {d : Diagnostic} (h : d.Blocking) : d.code ∈ blockingCodes := by
  cases h with
  | malformed h => rw [h]; decide
  | fewOptions h => rw [h]; decide
  | clampedIndex h => rw [h]; decide
  | media kind url h hmessage => rw [h]; decide

theorem Diagnostic.Warns.not_blocking {codes : List String} {d : Diagnostic} (h : d.Warns codes)
    (hcodes : ∀ code ∈ codes, code ∉ blockingCodes) : ¬ d.Blocking :=
  fun hb => hcodes d.code h.2.2 hb.code_mem

theorem head?_of_append {s t : String} {c : Char} (h : s.toList.head? = some c) :
    (s ++ t).toList.head? = some c := by
  rw [String.toList_append, List.head?_append, h]
  rfl

/-- What refers to a page or a file is not media: its message starts with another character. -/
theorem Diagnostic.RefusesUrl.not_blocking {name : String} {url : Json} {d : Diagnostic}
    (h : d.RefusesUrl name url) (hname : name ∈ ["file", "embed", "bookmark"]) : ¬ d.Blocking := by
  intro hb
  obtain ⟨hfound, _⟩ := h
  rw [hfound] at hb
  cases hb with
  | malformed h => exact absurd (show "invalid_url" = "malformed_item" from h) (by decide)
  | fewOptions h => exact absurd (show "invalid_url" = "quiz_too_few_options" from h) (by decide)
  | clampedIndex h => exact absurd (show "invalid_url" = "quiz_index_clamped" from h) (by decide)
  | media kind rest _ hmessage =>
      have hpage : ∃ c, (c = 'f' ∨ c = 'e' ∨ c = 'b') ∧ name.toList.head? = some c := by
        simp only [List.mem_cons, List.not_mem_nil, or_false] at hname
        rcases hname with rfl | rfl | rfl
        · exact ⟨'f', .inl rfl, rfl⟩
        · exact ⟨'e', .inr (.inl rfl), rfl⟩
        · exact ⟨'b', .inr (.inr rfl), rfl⟩
      have hmedia : ∃ c, (c = 'i' ∨ c = 'v' ∨ c = 'a' ∨ c = 'p') ∧ kind.name.toList.head? = some c := by
        cases kind with
        | image => exact ⟨'i', .inl rfl, rfl⟩
        | video => exact ⟨'v', .inr (.inl rfl), rfl⟩
        | audio => exact ⟨'a', .inr (.inr (.inl rfl)), rfl⟩
        | pdf => exact ⟨'p', .inr (.inr (.inr rfl)), rfl⟩
      -- Two messages that are the same start with the same character.
      obtain ⟨c, hc, hpage⟩ := hpage
      obtain ⟨c', hc', hkind⟩ := hmedia
      have hmessage : name ++ ": invalid URL " ++ url.quoted = kind.name ++ ": invalid URL " ++ rest :=
        hmessage
      have hsame : some c = some c' := by
        rw [← head?_of_append (t := url.quoted) (head?_of_append (t := ": invalid URL ") hpage),
          hmessage, head?_of_append (head?_of_append hkind)]
      rw [← Option.some.inj hsame] at hc'
      rcases hc with rfl | rfl | rfl <;> exact absurd hc' (by decide)

/-- What an item reports, it reports about its own place. -/
theorem Item.Reports.here {item : Item} {d : Diagnostic} (h : item.Reports d) : d.path = [] := by
  cases h with
  | known h => exact h.warns.1
  | unknown h => exact h.1
  | malformed => rfl

/-! ## §2. The fields that the review looks at. -/

theorem storesAt_url : StoresAt MediaFields.fields "url" Converter.text (·.url) := by
  refine .of_fields rfl (Field.stores_of fun _ _ => rfl) ?_
  unfold MediaFields.fields
  simp only [List.forall_mem_cons]
  exact ⟨fun h => absurd rfl h, fun _ => Field.keeps_of fun _ _ => rfl,
    fun _ => Field.keeps_of fun _ _ => rfl, fun f hf => absurd hf List.not_mem_nil⟩

theorem storesAt_options : StoresAt QuizFields.fields "options" Converter.texts (·.options) := by
  refine .of_fields rfl (Field.stores_of fun _ _ => rfl) ?_
  unfold QuizFields.fields
  simp only [List.forall_mem_cons]
  exact ⟨fun _ => Field.keeps_of fun _ _ => rfl, fun _ => Field.keeps_of fun _ _ => rfl,
    fun h => absurd rfl h, fun _ => Field.keeps_of fun _ _ => rfl,
    fun f hf => absurd hf List.not_mem_nil⟩

theorem storesAt_correctIndex :
    StoresAt QuizFields.fields "correctIndex" Converter.integer (·.correctIndex) := by
  refine .of_fields rfl (Field.stores_of fun _ _ => rfl) ?_
  unfold QuizFields.fields
  simp only [List.forall_mem_cons]
  exact ⟨fun _ => Field.keeps_of fun _ _ => rfl, fun _ => Field.keeps_of fun _ _ => rfl,
    fun _ => Field.keeps_of fun _ _ => rfl, fun h => absurd rfl h,
    fun f hf => absurd hf List.not_mem_nil⟩

theorem Converter.length_itemsFrom {α : Type} {item : Converter α} {vs : List Json} :
    ∀ {i : Nat} {as : List α}, Converter.itemsFrom item i vs = .ok as → as.length = vs.length := by
  induction vs with
  | nil =>
      intro i as h
      rw [← Except.ok.inj h]
      rfl
  | cons v vs ih =>
      intro i as h
      unfold Converter.itemsFrom at h
      cases hv : Converter.under (.index i) (item v) with
      | error e =>
          rw [hv] at h
          exact absurd h (by simp [bind, Except.bind])
      | ok a =>
          rw [hv] at h
          cases hvs : Converter.itemsFrom item (i + 1) vs with
          | error e =>
              rw [hvs] at h
              exact absurd h (by simp [bind, Except.bind])
          | ok bs =>
              rw [hvs] at h
              have hcons : a :: bs = as := Except.ok.inj h
              rw [← hcons, List.length_cons, List.length_cons, ih hvs]

/-- A quiz has as many options as its author wrote. -/
theorem length_options {v : Json} {options : List String}
    (h : Converter.texts (numberTexts v) = .ok options) : v.items.length = options.length := by
  cases v with
  | arr vs =>
      have hlength := Converter.length_itemsFrom h
      rw [List.length_map] at hlength
      exact hlength.symm
  | _ => exact absurd h (by simp [Converter.texts, Converter.list, numberTexts, Converter.mismatch,
      Converter.misfit])

/-- The review takes no other number for the index than the conversion. -/
theorem quizIndex_of_integer {v : Json} {a n : Int} (h : Converter.integer v = .ok a)
    (hn : Review.quizIndex? v = some n) : n = a := by
  cases v with
  | int m => exact (Option.some.inj hn).symm.trans (Except.ok.inj h)
  | float x =>
      -- Both take the whole number that it is; only the conversion has a bound besides.
      have hn : x.toInt? = some n := hn
      have h : Converter.wholeFloat x = .ok a := h
      unfold Converter.wholeFloat at h
      rw [hn] at h
      dsimp only at h
      split at h
      · exact Except.ok.inj h
      · exact absurd h (by simp [Converter.misfit])
  | str s =>
      have hn : (Text.readInt (Text.strip s)).toOption = some n := hn
      cases hread : Text.readInt (Text.strip s) with
      | error e =>
          rw [hread] at hn
          exact absurd hn (by simp [Except.toOption])
      | ok b =>
          rw [hread] at hn
          rw [← Option.some.inj hn]
          exact (integer_eq_readInt h hread).symm
  | null => exact absurd h (by simp [Converter.integer, Converter.mismatch, Converter.misfit])
  | bool b => exact absurd h (by simp [Converter.integer, Converter.mismatch, Converter.misfit])
  | arr vs => exact absurd h (by simp [Converter.integer, Converter.mismatch, Converter.misfit])
  | obj ms => exact absurd h (by simp [Converter.integer, Converter.mismatch, Converter.misfit])

/-! ## §3. One item. -/

section Item

variable {ms : List (String × Json)} {color : Option String} {label : String}

/-- A URL that is no web address is one in what the author wrote, too. -/
theorem not_isWebAddress_of_media (hnodup : (ms.map Prod.fst).Nodup) {tag : MediaTag} {f : MediaFields}
    (h : Content.ofMembers (readableMembers ms) (.media tag) = .ok (color, .media tag f))
    (hurl : Url.isWeb f.url = false) :
    Review.isWebAddress ((Json.lookup "url" ms).getD .null) = false := by
  obtain ⟨r, hread, hcontent⟩ := readContent_ok h
  obtain ⟨_, hr⟩ := Content.media.inj hcontent
  rw [hr] at hurl
  -- An absent URL is none to the review either; any other was converted from a text.
  rcases storesAt_url.get_readable (by decide) hnodup hread with ⟨hnull, _⟩ | hstored
  · rw [hnull]
    rfl
  · rw [sideMember_of_not (by decide)] at hstored
    have hplain : textMember "url" ((Json.lookup "url" ms).getD .null)
        = (Json.lookup "url" ms).getD .null := rfl
    rw [hplain] at hstored
    cases hv : (Json.lookup "url" ms).getD .null with
    | str s =>
        rw [hv] at hstored
        rw [← Except.ok.inj hstored] at hurl
        exact hurl
    | _ => rfl

/-- The fields of a quiz are those that the author wrote, or there are none. -/
theorem quiz_fields (hnodup : (ms.map Prod.fst).Nodup) {f : QuizFields}
    (h : Content.ofMembers (readableMembers ms) .quiz = .ok (color, .quiz f)) :
    ((Json.lookup "options" ms).getD .null).items.length = f.options.length
      ∧ ∀ n, Review.quizIndex? ((Json.lookup "correctIndex" ms).getD .null) = some n →
          n = f.correctIndex := by
  obtain ⟨r, hread, hcontent⟩ := readContent_ok h
  rw [Content.quiz.inj hcontent]
  refine ⟨?_, ?_⟩
  · rcases storesAt_options.get_readable (by decide) hnodup hread with ⟨hnull, hdefault⟩ | hstored
    · rw [hnull, hdefault]
      rfl
    · rw [sideMember_of_not (by decide)] at hstored
      exact length_options hstored
  · intro n hn
    rcases storesAt_correctIndex.get_readable (by decide) hnodup hread with
      ⟨hnull, hdefault⟩ | hstored
    · rw [hnull] at hn
      rw [hdefault, ← Option.some.inj hn]
    · rw [sideMember_of_not (by decide)] at hstored
      exact quizIndex_of_integer hstored hn

namespace Review

theorem flags_checkUrl {tag : Tag}
    (h : isWebAddress ((Json.lookup "url" ms).getD .null) = false) : Flags (checkUrl label tag ms) [] := by
  unfold checkUrl
  dsimp only
  rw [if_neg (by rw [h]; decide)]
  exact flags_record _ _

theorem flags_checkQuiz
    (h : ((Json.lookup "options" ms).getD .null).items.length < 2
      ∨ isIndexBelow ((Json.lookup "options" ms).getD .null).items.length
          ((Json.lookup "correctIndex" ms).getD .null) = false) : Flags (checkQuiz label ms) [] := by
  unfold checkQuiz
  dsimp only
  by_cases hfew : ((Json.lookup "options" ms).getD .null).items.length < 2
  · rw [if_pos hfew]
    exact flags_record _ _
  · rw [if_neg hfew, if_neg (by rw [h.resolve_left hfew]; decide)]
    exact flags_record _ _

theorem flags_firstChecks_url {tag : Tag} (htag : tagOf? ms = some tag) (hurl : urlTags.contains tag = true)
    (h : Flags (checkUrl label tag ms) []) : Flags (firstChecks label (tagOf? ms) ms) [] := by
  rw [firstChecks_eq, htag]
  refine Flags.left ?_ (local_tagChecks label tag ms).steady (local_checkLength label ms).steady
  show Flags (tagChecks label tag ms) []
  rw [tagChecks_eq, if_pos hurl]
  refine h.right ?_ (local_checkUrl label tag ms).steady
  split
  · exact (local_checkQuiz label ms).steady
  · exact steady_pure

theorem flags_firstChecks_quiz (htag : tagOf? ms = some .quiz) (h : Flags (checkQuiz label ms) []) :
    Flags (firstChecks label (tagOf? ms) ms) [] := by
  rw [firstChecks_eq, htag]
  refine Flags.left ?_ (local_tagChecks label .quiz ms).steady (local_checkLength label ms).steady
  show Flags (tagChecks label .quiz ms) []
  rw [tagChecks_eq, if_pos rfl]
  exact h.left (local_checkQuiz label ms).steady steady_pure

theorem flags_lastCheck {name error : String} (h : Item.ofMembers ms = .malformed name error) :
    Flags (lastCheck label (tagOf? ms) ms) [] := by
  obtain ⟨tag, htag, _⟩ := Item.ofMembers_malformed h
  rw [htag]
  show Flags (checkConversion label tag ms) []
  unfold checkConversion
  rw [h]
  exact flags_record _ _

end Review

/-- Whatever blocking the content of an item reports, one of the first checks of the item fails. -/
theorem flagged_of_content (hnodup : (ms.map Prod.fst).Nodup) {content : Content}
    (htag : tagOf? ms = some content.tag)
    (hread : Content.ofMembers (readableMembers ms) content.tag = .ok (color, content))
    {d : Diagnostic} (hd : content.Reports d) (hb : d.Blocking) :
    Flags (Review.firstChecks label (tagOf? ms) ms) [] := by
  cases hd with
  | link h => exact absurd hb (h.not_blocking (by decide))
  | given h => exact absurd hb (h.not_blocking (by decide))
  | page hname h => exact absurd hb (h.not_blocking hname)
  | @media kind tag f _ hkind h =>
      have hurl := not_isWebAddress_of_media hnodup hread (h.refused f.url rfl)
      refine Review.flags_firstChecks_url htag ?_ (Review.flags_checkUrl hurl)
      cases tag <;> first | rfl | exact absurd hkind (by simp [MediaTag.kind?])
  | @quiz f _ h =>
      -- The review counts the same options and reads the same index, or none.
      obtain ⟨hcount, hindex⟩ := quiz_fields hnodup hread
      refine Review.flags_firstChecks_quiz htag (Review.flags_checkQuiz ?_)
      cases h with
      | link h => exact absurd hb (h.not_blocking (by decide))
      | few h hfew => exact .inl (by rw [hcount]; exact hfew)
      | clamped h hout =>
          refine .inr ?_
          unfold Review.isIndexBelow
          split
          · rename_i n hn
            rw [hindex n hn, hcount]
            rw [Bool.and_eq_false_iff, decide_eq_false_iff_not, decide_eq_false_iff_not]
            exact not_and_or.mp hout
          · rfl

/-- Whatever blocking an item reports about itself, the review flags the item. -/
theorem flagged_of_reports {v : Json} (hnames : v.namesOnce = true) {d : Diagnostic}
    (hd : (Item.ofJson v).Reports d) (hb : d.Blocking) : Flags (Review.item label v) [] := by
  cases v with
  | obj ms =>
      have hnodup := ((Json.namesOnce_obj ms).mp hnames).1
      refine Review.flags_item_own (Review.flags_checkMembers ?_)
      have hd : (Item.ofMembers ms).Reports d := hd
      cases hitem : Item.ofMembers ms with
      | unknown tag text =>
          rw [hitem] at hd
          cases hd with
          | unknown h => exact absurd hb (h.not_blocking (by decide))
      | malformed name error => exact .inr (Review.flags_lastCheck hitem)
      | known color content =>
          rw [hitem] at hd
          obtain ⟨htag, hread⟩ := Item.ofMembers_known hitem
          cases hd with
          | known hd => exact .inl (flagged_of_content hnodup htag hread hd hb)
  | str s =>
      -- A text on its own is a paragraph, which drops links at most.
      have hd : (Item.known none (.text .paragraph { text := .plain s })).Reports d := hd
      cases hd with
      | known hd =>
          cases hd with
          | link h => exact absurd hb (h.not_blocking (by decide))
          | given h => exact absurd hb (h.not_blocking (by decide))
  | null => exact flags_record _ _
  | bool b => exact flags_record _ _
  | int n => exact flags_record _ _
  | float x => exact flags_record _ _
  | arr vs => exact flags_record _ _

end Item

/-! ## §4. Whole courses. -/

theorem Diagnostic.Blocking.of_under {steps : Path} {d : Diagnostic} (h : (d.under steps).Blocking) :
    d.Blocking := by
  cases h with
  | malformed h => exact .malformed h
  | fewOptions h => exact .fewOptions h
  | clampedIndex h => exact .clampedIndex h
  | media kind url h hmessage => exact .media kind url h hmessage

theorem namesOnce_nestedItems {ms : List (String × Json)} (h : (Json.obj ms).namesOnce = true) :
    ∀ v ∈ nestedItems ms, v.namesOnce = true :=
  fun _ hv => Json.namesOnce_items (Json.namesOnce_member h "children") hv

theorem namesOnce_sideItems {ms : List (String × Json)} (h : (Json.obj ms).namesOnce = true)
    (side : String) : ∀ v ∈ sideItems side ms, v.namesOnce = true := by
  intro v hv
  unfold sideItems at hv
  split at hv
  · rename_i inner hlookup
    exact namesOnce_nestedItems (Json.namesOnce_lookup ((Json.namesOnce_obj ms).mp h).2 hlookup) v hv
  · exact absurd hv List.not_mem_nil

/-- Whatever blocking is reported of an item or of what is nested in it, the review flags the place
of the item that it is about. -/
theorem kept_flagged (label : String) : KeptByItems fun v d =>
    v.namesOnce = true → d.Blocking → Flags (Review.item label v) d.path where
  own := by
    intro v d hd hnames hb
    rw [hd.here]
    exact flagged_of_reports hnames hd hb
  child := by
    intro ms _ v i hv d hflag hnames hb
    have hv' := List.fst_mem_of_mem_zipIdx hv
    exact Review.flags_item_child hv (hflag (namesOnce_nestedItems hnames v hv') hb.of_under)
  sideChild := by
    intro ms _ side hside v i hv d hflag hnames hb
    have hv' := List.fst_mem_of_mem_zipIdx hv
    exact Review.flags_item_side hside hv
      (hflag (namesOnce_sideItems hnames side v hv') hb.of_under)
  sideLink := by
    intro ms _ side _ d hlink _ hb
    exact absurd hb.of_under (hlink.not_blocking (by decide))

theorem Course.sections_of_ofJson {course : Json} {c : Course} (h : Course.ofJson course = .ok c) :
    c.sections = (course.member "sections").items.map Section.ofJson := by
  unfold Course.ofJson at h
  cases hminutes : Lenient.minutes? (course.member "estimatedTime") with
  | error e =>
      rw [hminutes] at h
      exact absurd h (by simp [bind, Except.bind])
  | ok minutes =>
      rw [hminutes] at h
      rw [← Except.ok.inj h]

/-- A build of a course reports nothing blocking where the review flags nothing. -/
theorem Course.page_flagged {course : Json} {c : Course} (hnames : course.namesOnce = true)
    (hc : Course.ofJson course = .ok c) :
    Building.Meets (fun d => d.Blocking → Flags (Review.courseParts course) d.path) Form.AreBlocks
      (fun _ => False) (c.page {}) := by
  have hlink : ∀ (steps : Path) (d : Diagnostic), d.DropsLink → (d.under steps).Blocking →
      Flags (Review.courseParts course) (d.under steps).path :=
    fun _ _ hd hb => absurd hb.of_under (hd.not_blocking (by decide))
  refine Course.page_meets (fun d hd => hlink [] d hd) ?_
  intro s i hs
  rw [Course.sections_of_ofJson hc, List.zipIdx_map, List.mem_map] at hs
  obtain ⟨⟨v, k⟩, hv, hvs⟩ := hs
  obtain ⟨hvs, hki⟩ := Prod.mk.inj hvs
  have hv : (v, i) ∈ (course.member "sections").items.zipIdx := hki ▸ hv
  have hvnames : v.namesOnce = true :=
    Json.namesOnce_items (Json.namesOnce_member hnames "sections") (List.fst_mem_of_mem_zipIdx hv)
  rw [← hvs]
  -- From here on the place is that of one section, and of one item in its content.
  refine Section.blocks_meets (fun d hd => hlink _ d hd) ?_
  refine buildFrom_meets Form.AreBlocks.nil (fun _ _ hb hc => hb.append hc) ?_
  intro w k hw
  have hwnames : w.namesOnce = true :=
    Json.namesOnce_items (Json.namesOnce_member hvnames "content") (List.fst_mem_of_mem_zipIdx hw)
  refine (buildItem_meets (kept_flagged s!"Section {i + 1}") w).mono ?_ fun _ h => h
  intro d hflag hb
  exact Review.flags_courseParts hv
    (Review.flags_oneSection hw (hflag hwnames hb.of_under.of_under.of_under))

/-- Every blocking diagnostic of a build stands where the review has an error; so building a valid
course reports nothing blocking, at any depth. -/
theorem review_sound (course : Json) (c : Course) (hnames : course.namesOnce = true)
    (hc : Course.ofJson course = .ok c) :
    let built := ((c.page {}).run.run {}).2.collector.entries
    let reviewed := Review.course course {}
    (∀ d ∈ built, d.Blocking →
        ∃ e ∈ reviewed.2.collector.entries, e.severity = .error ∧ e.path = d.path)
      ∧ (reviewed.1.valid = true → ∀ d ∈ built, ¬ d.Blocking) := by
  intro built reviewed
  obtain ⟨r, n, hr, hn, _⟩ := Course.page_flagged hnames hc
  have hbuilt : built = n.found := by
    show ((c.page {}).run.run {}).2.collector.entries = n.found
    rw [hr {}, Journal.noted_fresh]
  have hreviewed : reviewed.2.collector.entries = (Review.courseParts course).notes.found := by
    show (Review.course course {}).2.collector.entries = _
    rw [Review.gives_course, Journal.noted_fresh]
  rw [hbuilt, hreviewed]
  refine ⟨hn, ?_⟩
  intro hvalid d hd hb
  exact (Review.valid_iff course {}).mp hvalid d.path (hn d hd hb)

/-- A valid course with a quiz whose index is written as a text, inside a toggle. -/
theorem review_sound_quiz :
    let quiz : Json := .obj [("type", .str "quiz"), ("options", .arr [.str "yes", .int 2]),
      ("correctIndex", .str "1")]
    let toggle : Json := .obj [("type", .str "toggle"), ("children", .arr [quiz])]
    let course : Json := .obj [("title", .str "Course"), ("sections", .arr [.obj
      [("title", .str "One"), ("content", .arr [toggle])]])]
    let c : Course := { title := "Course", sections := [{ title := "One", content := [toggle] }] }
    course.namesOnce = true ∧ Course.ofJson course = .ok c
      ∧ (Review.course course {}).1.valid = true
      ∧ ∀ d ∈ ((c.page {}).run.run {}).2.collector.entries, ¬ d.Blocking := by
  intro quiz toggle course c
  have hnames : course.namesOnce = true := by decide
  have hread : Course.ofJson course = .ok c := by rfl
  have hvalid : (Review.course course {}).1.valid = true := by decide +kernel
  exact ⟨hnames, hread, hvalid, (review_sound course c hnames hread).2 hvalid⟩

end Syllabus
