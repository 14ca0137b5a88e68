/-
  Syllabus.Proofs.Item.Isolation
  ──────────────────────────────
  **A FAILURE STAYS WITH THE ITEM THAT IT HAPPENS IN.**

  Take any builders out of order, and run the same items in three ways: with
  failures isolated; with all builders in order, but with stand-ins for the
  lost items; and without isolation.

      Isolates             what these three runs have to do with each other
      Isolates.bind        kept when runs follow each other
      Isolates.scope       kept further in
      isolates_lost        true of a lost item
      Content.isolates     true of content if it is true of what it opens
      isolates_item        so true of every item
      failures_isolated    and of every list of items

  The first run never breaks off, it gives the blocks of the second, and it
  records what the second records and one error for each loss.  The third run
  breaks off at the first loss, if there is one.
-/
import Syllabus.Proofs.Item.Losses

namespace Syllabus

open Form Building

/-! ## §1. Three runs. -/

section Runs

variable {α β : Type} {P : α → Prop} {Q : β → Prop} {ls ls' : List Loss}

/-- With losses `ls`, the isolating run gives what the noticing one gives, and records each loss
besides; the stopping run breaks off at the first loss. -/
def Isolates (P : α → Prop) (isolating noticing stopping : Building α) (ls : List Loss) : Prop :=
  ∃ a n m k, P a ∧ Ends isolating (.ok a) n ∧ Ends noticing (.ok a) m
    ∧ Ends stopping (Loss.outcome a ls) k
    ∧ n.found.filter (fun d => !d.isLoss) = m.found
    ∧ n.found.filter Diagnostic.isLoss = ls.map Loss.diagnostic

/-- A run that knows nothing of losses. -/
theorem isolates_of_meets {b : Building α} (h : Meets (fun d => d.code ≠ Loss.code) P
    (fun _ => False) b) : Isolates P b b b [] := by
  obtain ⟨r, n, hends, hcodes, hresult⟩ := h
  -- No diagnostic of it reports a loss, so one filter keeps all of them and the other one none.
  have hother : ∀ d ∈ n.found, d.isLoss = false := by
    intro d hd
    exact decide_eq_false (hcodes d hd)
  cases r with
  | error e => exact absurd hresult id
  | ok a =>
      refine ⟨a, n, n, n, hresult, hends, hends, hends, ?_, ?_⟩
      · rw [List.filter_eq_self]
        intro d hd
        rw [hother d hd]
        rfl
      · rw [List.map_nil, List.filter_eq_nil_iff]
        intro d hd
        rw [hother d hd]
        exact Bool.false_ne_true

theorem isolates_pure {a : α} (h : P a) : Isolates P (pure a) (pure a) (pure a) [] :=
  isolates_of_meets (meets_pure h)

/-- Runs that follow each other; the stopping one gets to the second part if nothing is lost in the
first. -/
theorem Isolates.bind {b q r : Building α} {f g h : α → Building β} (hfirst : Isolates P b q r ls)
    (hnext : ∀ a, P a → Isolates Q (f a) (g a) (h a) ls') :
    Isolates Q (b >>= f) (q >>= g) (r >>= h) (ls ++ ls') := by
  obtain ⟨a, n, m, k, ha, hb, hq, hr, hkept, hlost⟩ := hfirst
  obtain ⟨c, n', m', k', hc, hb', hq', hr', hkept', hlost'⟩ := hnext a ha
  -- The first loss is in the first part, unless nothing is lost there.
  have hstop : ∃ k, Ends (r >>= h) (Loss.outcome c (ls ++ ls')) k := by
    cases ls with
    | nil => exact ⟨k ++ k', hr.bind hr'⟩
    | cons l ls => exact ⟨k, hr.bind_error h⟩
  obtain ⟨k, hstop⟩ := hstop
  refine ⟨c, n ++ n', m ++ m', k, hc, hb.bind hb', hq.bind hq', hstop, ?_, ?_⟩
  · rw [Notes.found_append, Notes.found_append, List.filter_append, hkept, hkept']
  · rw [Notes.found_append, List.filter_append, hlost, hlost', List.map_append]

/-- At the end comes something that knows nothing of losses. -/
theorem Isolates.bind_last {b q r : Building α} {f g h : α → Building β} (hfirst : Isolates P b q r ls)
    (hlast : ∀ a, P a → Isolates Q (f a) (g a) (h a) []) :
    Isolates Q (b >>= f) (q >>= g) (r >>= h) ls := by
  have hboth := hfirst.bind hlast
  rw [List.append_nil] at hboth
  exact hboth

theorem Loss.outcome_allUnder (a : α) (steps : Path) (ls : List Loss) :
    Loss.outcome a (Loss.allUnder steps ls) = Loss.outcome a ls := by
  cases ls <;> rfl

theorem Loss.diagnostic_allUnder (steps : Path) (ls : List Loss) :
    (Loss.allUnder steps ls).map Loss.diagnostic
      = (ls.map Loss.diagnostic).map (Diagnostic.under steps) := by
  unfold Loss.allUnder
  rw [List.map_map, List.map_map]
  rfl

/-- Runs at a place further in. -/
theorem Isolates.scope {b q r : Building α} (h : Isolates P b q r ls) (steps : Path) :
    Isolates P (Building.scope steps b) (Building.scope steps q) (Building.scope steps r)
      (Loss.allUnder steps ls) := by
  obtain ⟨a, n, m, k, ha, hb, hq, hr, hkept, hlost⟩ := h
  refine ⟨a, n.under steps, m.under steps, k.under steps, ha, hb.scope steps, hq.scope steps, ?_,
    ?_, ?_⟩
  · rw [Loss.outcome_allUnder]
    exact hr.scope steps
  -- Places do not change what a diagnostic reports.
  · rw [Notes.found_under, Notes.found_under, List.filter_map, ← hkept]
    rfl
  · rw [Notes.found_under, List.filter_map, Loss.diagnostic_allUnder, ← hlost]
    rfl

/-- There is nothing to recover from in what is isolated already. -/
theorem Isolates.recover {b q r : Building α} (h : Isolates P b q r ls)
    (handle : Failure → Building α) : Isolates P (Building.recover b handle) q r ls := by
  obtain ⟨a, n, m, k, ha, hb, hrest⟩ := h
  exact ⟨a, n, m, k, ha, hb.recover handle, hrest⟩

end Runs

/-! ## §2. A lost item. -/

theorem ends_leaveNotice (tag : Tag) (message : String) :
    ∃ remarks, Ends (leaveNotice tag ⟨message⟩) (.ok [lostNotice tag])
      ⟨[(Loss.mk [] tag message).diagnostic], remarks⟩ := by
  have hlog := Writing.gives_log .compiler .error ("Failed to build " ++ tag.name ++ " item")
  have hrecord := Writing.gives_record Loss.code
    ("Failed to build " ++ tag.name ++ " item: " ++ message) .error
  have hnotice := hlog.bind (f := fun _ => _) (hrecord.bind (f := fun _ => _)
    (Writing.gives_pure (lostNotice tag)))
  exact ⟨[.plain ⟨.compiler, .error, "Failed to build " ++ tag.name ++ " item"⟩],
    ends_single hnotice⟩

/-- A lost item leaves its paragraph, and one error. -/
theorem isolates_lost (tag : Tag) (message : String) :
    Isolates AreBlocks (Building.recover (Building.fail message) (leaveNotice tag))
      (buildItem {} (standIn tag)) (Building.fail message) [⟨[], tag, message⟩] := by
  obtain ⟨remarks, hnotice⟩ := ends_leaveNotice tag message
  refine ⟨[lostNotice tag], _, {}, {}, AreBlocks.singleton (Block.isBlock_notice _),
    (ends_fail message).recover_error hnotice, ends_standIn tag, ends_fail message, ?_, ?_⟩
  · rfl
  · rfl

/-! ## §3. An item that is not lost. -/

theorem Diagnostic.Warns.not_loss {codes : List String} {d : Diagnostic} (h : d.Warns codes)
    (hcodes : Loss.code ∉ codes) : d.code ≠ Loss.code := by
  intro heq
  rw [← heq] at hcodes
  exact hcodes h.2.2

theorem Content.Reports.not_loss {c : Content} {d : Diagnostic} (h : c.Reports d) :
    d.code ≠ Loss.code := by
  have hurl : ∀ {kind : String} {url : Json}, d.RefusesUrl kind url → d.code ≠ Loss.code := by
    intro kind url hrefuses
    rw [hrefuses.found]
    exact (by decide : "invalid_url" ≠ Loss.code)
  cases h with
  | link hlink => exact hlink.not_loss (by decide)
  | given hgiven => exact hgiven.not_loss (by decide)
  | media hkind hmedia => exact hurl hmedia
  | page hname hpage => exact hurl hpage
  | quiz hquiz =>
      cases hquiz with
      | link hlink => exact hlink.not_loss (by decide)
      | few hfew hcount => exact hfew.not_loss (by decide)
      | clamped hclamped hindex => exact hclamped.not_loss (by decide)

theorem Item.Reports.not_loss {item : Item} {d : Diagnostic} (h : item.Reports d) :
    d.code ≠ Loss.code := by
  cases h with
  | known hcontent => exact hcontent.not_loss
  | unknown hunknown => exact hunknown.not_loss (by decide)
  | malformed => exact (by decide : "malformed_item" ≠ Loss.code)

section Parts

variable {p q r : Nested} {children left right : List Loss}

/-- What is nested, run in three ways. -/
structure Nested.Isolated (p q r : Nested) (children left right : List Loss) : Prop where
  /-- The children. -/
  children : Isolates AreBlocks p.children q.children r.children
    (Loss.allUnder [.key "children"] children)
  /-- The children of the left side. -/
  left : Isolates AreBlocks p.left q.left r.left (Loss.allUnder [.key "children"] left)
  /-- The children of the right side. -/
  right : Isolates AreBlocks p.right q.right r.right (Loss.allUnder [.key "children"] right)

/-- A side loses what is lost in its children. -/
theorem SideFields.isolates (side : SideFields) {b c d : Building (List Block)} {ls : List Loss}
    (h : Isolates AreBlocks b c d ls) :
    Isolates AreBlocks (side.build b) (side.build c) (side.build d) ls := by
  have hpoints := (ListKind.bulleted.entries_meets side.items).mono
    (fun _ hd => hd.not_loss (by decide)) fun _ hbs => hbs
  show Isolates AreBlocks _ _ _ ([] ++ ls)
  refine (isolates_of_meets (meets_ofWriting hpoints)).bind fun points hp => ?_
  exact h.bind_last fun bs hbs => isolates_pure (hp.append hbs)

/-- Content loses what is lost in the places that it opens, and keeps the rest. -/
theorem Content.isolates (c : Content) (color : String)
    (h : Nested.Isolated p q r children left right) :
    Isolates AreBlocks (c.build p color) (c.build q color) (c.build r color)
      (Loss.opened c.opens c.sides?.isSome children left right) := by
  cases hsides : c.sides? with
  | some sides =>
      obtain ⟨l, r'⟩ := sides
      rw [Content.build_sides hsides, Content.build_sides hsides, Content.build_sides hsides,
        Content.opens_of_sides hsides]
      refine ((l.isolates h.left).scope [.key "left"]).bind fun lbs hl => ?_
      refine ((r'.isolates h.right).scope [.key "right"]).bind_last fun rbs hr => ?_
      exact isolates_of_meets
        (Building.single_meets (Template.comparison_meets hl hr l.title r'.title))
  | none =>
      -- With the nested blocks at hand there is one run only, and it knows nothing of losses.
      have hmade : ∀ bs, AreBlocks bs → Isolates AreBlocks (c.build (.made bs) color)
          (c.build (.made bs) color) (c.build (.made bs) color) [] := fun bs hbs =>
        isolates_of_meets ((Content.made_meets hbs hsides).mono (fun _ hd => hd.not_loss) fun _ h => h)
      cases hopens : c.opens with
      | true =>
          rw [Content.build_open hopens, Content.build_open hopens, Content.build_open hopens]
          exact h.children.bind hmade
      | false =>
          have hclosed : ∀ n : Nested, c.build n color = c.build (.made []) color :=
            fun n => Content.build_closed hopens hsides
          rw [hclosed p, hclosed q, hclosed r]
          exact hmade [] AreBlocks.nil

section Builders

variable {options : BuildOptions} {nested : Nested}

theorem Content.buildWith_failing {c : Content} {color : Option String} {message : String}
    (h : options.failing c.tag = some message) :
    c.buildWith options nested color = Building.fail message := by
  unfold Content.buildWith
  rw [h]

theorem Content.buildWith_working {c : Content} {color : Option String}
    (h : options.failing c.tag = none) :
    c.buildWith options nested color = c.build nested (color.getD Color.default) := by
  unfold Content.buildWith
  rw [h]

end Builders

/-- An item that opens nothing knows nothing of losses. -/
theorem Item.meets_of_closed {item : Item} (hopens : item.opens = false)
    (hsides : item.sides? = none) (nested : Nested) :
    Meets (fun d => d.code ≠ Loss.code) AreBlocks (fun _ => False) (item.build {} nested) := by
  have hnone : ¬ item.sides?.isSome = true := by
    rw [hsides]
    decide
  refine Item.build_meets (fun _ hd => hd.not_loss) ?_ ?_ ?_ ?_
  · intro h
    rw [hopens] at h
    exact absurd h (by decide)
  · exact fun h => absurd h hnone
  · exact fun h => absurd h hnone
  · exact fun h => absurd h hnone

variable {failing : Tag → Option String}

/-- An item that is not lost loses what is lost in the places that it opens. -/
theorem Item.isolates {item : Item} (hkept : item.loss? failing = none)
    (h : Nested.Isolated p q r children left right) :
    Isolates AreBlocks (item.build { failing, isolate := true } p) (item.build {} q)
      (item.build { failing } r)
      (Loss.opened item.opens item.sides?.isSome children left right) := by
  cases item with
  | known color content =>
      have hworks : failing content.tag = none := Option.map_eq_none_iff.mp hkept
      show Isolates _ (Building.recover (content.buildWith { failing, isolate := true } p color)
        (leaveNotice content.tag)) (content.buildWith {} q color)
        (content.buildWith { failing } r color) _
      rw [Content.buildWith_working hworks, Content.buildWith_working rfl,
        Content.buildWith_working hworks]
      exact (content.isolates _ h).recover _
  | unknown tag text =>
      have hunknown : (Item.unknown tag text).opens = false := rfl
      exact isolates_of_meets (Item.meets_of_closed hunknown rfl p)
  | malformed tag error =>
      have hmalformed : (Item.malformed tag error).opens = false := rfl
      exact isolates_of_meets (Item.meets_of_closed hmalformed rfl p)

/-- A lost item is not looked into. -/
theorem Item.isolates_lost {item : Item} {l : Loss} (hlost : item.loss? failing = some l) :
    Isolates AreBlocks (item.build { failing, isolate := true } p) (buildItem {} (standIn l.tag))
      (item.build { failing } r) [l] := by
  cases item with
  | known color content =>
      obtain ⟨message, hmessage, hl⟩ := Option.map_eq_some_iff.mp hlost
      show Isolates _ (Building.recover (content.buildWith { failing, isolate := true } p color)
        (leaveNotice content.tag)) _ (content.buildWith { failing } r color) _
      rw [Content.buildWith_failing hmessage, Content.buildWith_failing hmessage, ← hl]
      exact Syllabus.isolates_lost content.tag message
  | unknown tag text => exact nomatch hlost
  | malformed tag error => exact nomatch hlost

end Parts

/-! ## §4. Items in their places. -/

section Places

variable (failing : Tag → Option String)

/-- A list loses what is lost in its items. -/
theorem isolates_from {vs : List Json} (h : ∀ v ∈ vs, Isolates AreBlocks
      (buildItem { failing, isolate := true } v) (buildItem {} (noticed failing v))
      (buildItem { failing } v) (lossesIn failing v)) : ∀ index, Isolates AreBlocks
    (buildFrom { failing, isolate := true } index vs)
    (buildFrom {} index (vs.map (noticed failing))) (buildFrom { failing } index vs)
    (lossesFrom failing index vs) := by
  induction vs with
  | nil =>
      intro index
      rw [lossesFrom]
      exact isolates_pure AreBlocks.nil
  | cons v vs ih =>
      intro index
      rw [lossesFrom, List.map_cons, buildFrom_cons, buildFrom_cons, buildFrom_cons]
      refine ((h v List.mem_cons_self).scope _).bind fun bs hbs => ?_
      have hrest := ih (fun w hw => h w (List.mem_cons_of_mem v hw)) (index + 1)
      exact hrest.bind_last fun cs hcs => isolates_pure (hbs.append hcs)

/-- Every item loses what is lost in it, and keeps everything else. -/
theorem isolates_item (v : Json) : Isolates AreBlocks (buildItem { failing, isolate := true } v)
    (buildItem {} (noticed failing v)) (buildItem { failing } v) (lossesIn failing v) := by
  induction v using item_induction with
  | scalar v hv =>
      rw [buildItem_scalar _ hv, buildItem_scalar _ hv]
      cases hloss : (Item.ofJson v).loss? failing with
      | some l =>
          rw [noticed_lost failing hloss, lossesIn_lost hloss]
          exact Item.isolates_lost hloss
      | none =>
          rw [noticed_scalar failing hv hloss, buildItem_scalar _ hv, lossesIn_scalar failing hv, hloss]
          have hnested : Nested.Isolated Nested.none Nested.none Nested.none [] [] [] :=
            ⟨isolates_pure AreBlocks.nil, isolates_pure AreBlocks.nil, isolates_pure AreBlocks.nil⟩
          have hitem := Item.isolates hloss hnested
          rw [Loss.opened_nil] at hitem
          exact hitem
  | object ms ihchildren ihsides =>
      rw [buildItem_obj, buildItem_obj]
      cases hloss : (Item.ofMembers ms).loss? failing with
      | some l =>
          -- The item itself is lost, so what is nested in it does not matter.
          have hitem : (Item.ofJson (.obj ms)).loss? failing = some l := hloss
          rw [noticed_lost failing hitem, lossesIn_lost hitem]
          exact Item.isolates_lost hloss
      | none =>
          -- The item is kept, and each of the three lists in it is isolated by induction.
          have hlist : ∀ vs : List Json, (∀ v ∈ vs, Isolates AreBlocks
              (buildItem { failing, isolate := true } v) (buildItem {} (noticed failing v))
              (buildItem { failing } v) (lossesIn failing v)) →
              Isolates AreBlocks (Building.scope [.key "children"]
                (buildItems { failing, isolate := true } vs))
                (Building.scope [.key "children"] (buildItems {} (vs.map (noticed failing))))
                (Building.scope [.key "children"] (buildItems { failing } vs))
                (Loss.allUnder [.key "children"] (lossesFrom failing 0 vs)) :=
            fun vs hvs => (isolates_from failing hvs 0).scope _
          have hchildren := hlist _ ihchildren
          have hleft := hlist _ (ihsides "left")
          have hright := hlist _ (ihsides "right")
          -- What is nested in the item with stand-ins is what was nested in it, with stand-ins.
          rw [← nestedItems_withItems] at hchildren
          rw [← sideItems_withItems _ (by decide)] at hleft hright
          rw [noticed_obj failing hloss, buildItem_withItems, lossesIn, hloss]
          exact Item.isolates hloss ⟨hchildren, hleft, hright⟩

/-! ## §5. Lists of items. -/

/-- **Failures are isolated.**  Building with failures isolated never breaks off.  Its blocks are
those of the items with stand-ins for the lost ones, each of which gives its one paragraph; it
records what these record, in the same order, and one error for each loss, at the place of the lost
item.  Without isolation building breaks off if there is a loss, with what is said of the first. -/
theorem failures_isolated (items : List Json) :
    (∃ blocks notes plain stopped,
      Ends (buildItems { failing, isolate := true } items) (.ok blocks) notes
        ∧ Ends (buildItems {} (items.map (noticed failing))) (.ok blocks) plain
        ∧ notes.found.filter (fun d => !d.isLoss) = plain.found
        ∧ notes.found.filter Diagnostic.isLoss = (losses failing items).map Loss.diagnostic
        ∧ Ends (buildItems { failing } items) (Loss.outcome blocks (losses failing items)) stopped)
      ∧ ∀ tag, Ends (buildItem {} (standIn tag)) (.ok [lostNotice tag]) {} := by
  obtain ⟨blocks, notes, plain, stopped, -, hblocks, hplain, hstopped, hkept, hlost⟩ :=
    isolates_from failing (fun v (_ : v ∈ items) => isolates_item failing v) 0
  exact ⟨⟨blocks, notes, plain, stopped, hblocks, hplain, hkept, hlost, hstopped⟩, ends_standIn⟩

end Places

end Syllabus
