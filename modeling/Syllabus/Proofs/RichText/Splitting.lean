/-
  Syllabus.Proofs.RichText.Splitting
  ──────────────────────────────────
  **A TEXT IS CUT UP WITHOUT LOSS, AND THE FIRST FIND WINS.**

  Whatever the marks of a text are and however their finds overlap, cutting
  it up gives consecutive parts that are the whole text again.  A part is
  either plain or the span of a find, and every find is one of the parts
  unless it starts inside a part that comes before it in order.

      allFinds_ordered   finds that start together are in the order of marks
      Part.span          the characters of a part
      Splits             what is promised of the parts of a text
      runs_split         the runs of a text are those of its parts
-/
import Mathlib.Data.List.Chain
import Syllabus.Proofs.RichText.Occurring
import Syllabus.Proofs.RichText.Runs

namespace Syllabus.Markup

/-! ## §1. The order of all finds. -/

/-- One find comes before another: it starts before it, or with it and its mark is the earlier. -/
def Find.Precedes (f g : Find) : Prop :=
  f.start < g.start
    ∨ f.start = g.start ∧ Mark.all.idxOf f.mark < Mark.all.idxOf g.mark

/-- The finds of all marks, as they are collected. -/
def collected (cs : List Char) : List Find := Mark.all.flatMap fun mark => finds mark cs

theorem mem_collected {cs : List Char} {f : Find} : f ∈ collected cs ↔ f ∈ finds f.mark cs := by
  unfold collected
  rw [List.mem_flatMap]
  constructor
  · rintro ⟨mark, -, hf⟩
    rw [(mem_finds_iff.mp hf).1]
    exact hf
  · intro hf
    refine ⟨f.mark, ?_, hf⟩
    cases f.mark <;> decide

theorem mem_allFinds {cs : List Char} {f : Find} : f ∈ allFinds cs ↔ f ∈ finds f.mark cs :=
  List.mem_mergeSort.trans mem_collected

/-- Of two finds as they are collected the first has the earlier mark, or starts earlier. -/
theorem collected_pairwise (cs : List Char) : (collected cs).Pairwise fun f g =>
    Mark.all.idxOf f.mark < Mark.all.idxOf g.mark ∨ f.start < g.start := by
  have hmarks : Mark.all.Pairwise fun m n => Mark.all.idxOf m < Mark.all.idxOf n := by decide
  refine List.pairwise_flatMap.mpr ⟨fun m _ => (finds_increasing m cs).imp Or.inr, ?_⟩
  refine hmarks.imp ?_
  intro m n hmn f hf g hg
  rw [(mem_finds_iff.mp hf).1, (mem_finds_iff.mp hg).1]
  exact Or.inl hmn

/-- Finds that start together stay in the order in which they are collected. -/
theorem filter_allFinds (cs : List Char) (start : Nat) :
    (allFinds cs).filter (fun f => f.start = start)
      = (collected cs).filter fun f => f.start = start := by
  have htogether : ((collected cs).filter fun f => f.start = start).Pairwise
      fun f g => decide (f.start ≤ g.start) = true := by
    refine List.pairwise_of_forall_mem_list ?_
    intro f hf g hg
    have hfstart := of_decide_eq_true (List.mem_filter.mp hf).2
    have hgstart := of_decide_eq_true (List.mem_filter.mp hg).2
    rw [hfstart, hgstart]
    exact decide_eq_true (Nat.le_refl start)
  have hkept := (List.sublist_mergeSort starts_trans starts_total htogether
    List.filter_sublist).filter fun f => decide (f.start = start)
  simp only [List.filter_filter, Bool.and_self] at hkept
  refine (hkept.eq_of_length ?_).symm
  exact ((List.mergeSort_perm (collected cs) _).filter _).length_eq.symm

/-- **All finds are in the order of their starts, and of those that start together the one with the
earlier mark is first.** -/
theorem allFinds_ordered (cs : List Char) : (allFinds cs).Pairwise Find.Precedes := by
  rw [List.pairwise_iff_forall_sublist]
  intro f g hpair
  rcases Nat.eq_or_lt_of_le (List.pairwise_iff_forall_sublist.mp (allFinds_sorted cs) hpair)
    with heq | hlt
  · -- They were collected in this order, and not because of where they start.
    have hkept := hpair.filter fun h => decide (h.start = g.start)
    rw [filter_allFinds, List.filter_eq_self.mpr (by simp [heq])] at hkept
    have hcollected := List.pairwise_iff_forall_sublist.mp (collected_pairwise cs)
      (hkept.trans List.filter_sublist)
    refine Or.inr ⟨heq, hcollected.resolve_right ?_⟩
    rw [heq]
    exact Nat.lt_irrefl g.start
  · exact Or.inl hlt

/-! ## §2. Parts. -/

/-- A part of a text that is cut up. -/
inductive Part where
  /-- Plain text. -/
  | plain (text : List Char)
  /-- What a mark found. -/
  | found (f : Find)

/-- The characters of a part of a text. -/
def Part.span (cs : List Char) : Part → List Char
  | .plain text => text
  | .found f => (cs.drop f.start).take f.length

/-- Whether a part has no mark. -/
def Part.isPlain : Part → Bool
  | .plain _ => true
  | .found _ => false

/-- The piece that a part becomes. -/
def Part.piece : Part → Piece
  | .plain text => .plain text
  | .found f => .marked f.mark f.label f.url

/-- The parts of a text from an offset on, cut up by finds. -/
def partsFrom (cs : List Char) : (offset : Nat) → List Find → List Part
  | offset, [] => if offset < cs.length then [.plain (cs.drop offset)] else []
  | offset, f :: fs =>
      if f.start < offset then partsFrom cs offset fs
      else
        (if offset < f.start then [.plain ((cs.drop offset).take (f.start - offset))] else [])
          ++ .found f :: partsFrom cs f.stop fs

/-- The parts of a text. -/
def parts (cs : List Char) : List Part :=
  if cs = [] then [.plain []] else partsFrom cs 0 (allFinds cs)

theorem piecesFrom_eq (cs : List Char) (offset : Nat) (fs : List Find) :
    piecesFrom cs offset fs = (partsFrom cs offset fs).map Part.piece := by
  induction fs generalizing offset with
  | nil =>
      rw [piecesFrom, partsFrom]
      split <;> rfl
  | cons f fs ih =>
      rw [piecesFrom, partsFrom, ih, ih]
      split
      · rfl
      · split <;> rfl

theorem pieces_eq (cs : List Char) : pieces cs = (parts cs).map Part.piece := by
  unfold parts
  by_cases hcs : cs = []
  · rw [if_pos hcs, hcs]
    unfold pieces allFinds
    rw [show (Mark.all.flatMap fun mark => finds mark []) = [] from rfl, List.mergeSort_nil]
    rfl
  · rw [if_neg hcs, pieces_of_nonempty hcs, piecesFrom_eq]

/-- What is in front of a find is plain. -/
theorem partsFrom_gap {cs : List Char} {offset : Nat} {f : Find} {fs : List Find}
    (h : offset < f.start) :
    partsFrom cs offset (f :: fs)
      = .plain ((cs.drop offset).take (f.start - offset)) :: .found f :: partsFrom cs f.stop fs := by
  rw [partsFrom, if_neg (Nat.lt_asymm h), if_pos h]
  rfl

theorem partsFrom_find {cs : List Char} {f : Find} {fs : List Find} :
    partsFrom cs f.start (f :: fs) = .found f :: partsFrom cs f.stop fs := by
  rw [partsFrom, if_neg (Nat.lt_irrefl _), if_neg (Nat.lt_irrefl _)]
  rfl

theorem partsFrom_inside {cs : List Char} {offset : Nat} {f : Find} {fs : List Find}
    (h : f.start < offset) : partsFrom cs offset (f :: fs) = partsFrom cs offset fs := by
  rw [partsFrom, if_pos h]

/-- To see something of the parts from every offset on, it is enough to see it at the end of the
text and behind it, for a find that is passed over, for one that is taken where it starts, and for
plain text in front of a find. -/
theorem partsFrom_induction {cs : List Char} {C : Nat → List Find → List Part → Prop}
    (stop : ∀ offset, cs.length ≤ offset → C offset [] [])
    (tail : ∀ offset, offset < cs.length → C offset [] [.plain (cs.drop offset)])
    (inside : ∀ offset f fs, f.start < offset → C offset fs (partsFrom cs offset fs) →
      C offset (f :: fs) (partsFrom cs offset fs))
    (find : ∀ f fs, C f.stop fs (partsFrom cs f.stop fs) →
      C f.start (f :: fs) (.found f :: partsFrom cs f.stop fs))
    (gap : ∀ offset f fs, offset < f.start →
      C f.start (f :: fs) (.found f :: partsFrom cs f.stop fs) →
      C offset (f :: fs) (.plain ((cs.drop offset).take (f.start - offset)) :: .found f
        :: partsFrom cs f.stop fs)) :
    ∀ offset fs, C offset fs (partsFrom cs offset fs) := by
  intro offset fs
  induction fs generalizing offset with
  | nil =>
      rw [partsFrom]
      split
      · rename_i hlt
        exact tail offset hlt
      · rename_i hge
        exact stop offset (Nat.le_of_not_lt hge)
  | cons f fs ih =>
      rcases Nat.lt_trichotomy f.start offset with hlt | heq | hgt
      · rw [partsFrom_inside hlt]
        exact inside offset f fs hlt (ih offset)
      · rw [← heq, partsFrom_find]
        exact find f fs (ih f.stop)
      · rw [partsFrom_gap hgt]
        exact gap offset f fs hgt (find f fs (ih f.stop))

/-! ## §3. Nothing is lost. -/

/-- The parts together are the text. -/
theorem span_partsFrom (cs : List Char) (offset : Nat) (fs : List Find) :
    (partsFrom cs offset fs).flatMap (Part.span cs) = cs.drop offset := by
  refine partsFrom_induction (C := fun offset _ ps => ps.flatMap (Part.span cs) = cs.drop offset)
    ?stop ?tail ?inside ?find ?gap offset fs
  case stop =>
    intro offset hle
    exact (List.drop_eq_nil_of_le hle).symm
  case tail =>
    intro offset _
    exact List.append_nil _
  case inside =>
    intro offset f fs _ ih
    exact ih
  case find =>
    intro f fs ih
    rw [List.flatMap_cons, ih]
    show (cs.drop f.start).take f.length ++ cs.drop (f.start + f.length) = _
    rw [← List.drop_drop, List.take_append_drop]
  case gap =>
    intro offset f fs hlt ih
    rw [List.flatMap_cons, ih]
    show (cs.drop offset).take (f.start - offset) ++ cs.drop f.start = _
    have hstart : cs.drop f.start = (cs.drop offset).drop (f.start - offset) := by
      rw [List.drop_drop, Nat.add_sub_cancel' (Nat.le_of_lt hlt)]
    rw [hstart, List.take_append_drop]

theorem length_span_found {cs : List Char} {f : Find} (h : f.Occurs cs) :
    ((Part.found f).span cs).length = f.length := by
  have hstop := h.stop_le
  unfold Find.stop at hstop
  show ((cs.drop f.start).take f.length).length = _
  rw [List.length_take, List.length_drop]
  omega

theorem length_gap {cs : List Char} {f : Find} (h : f.Occurs cs) (offset : Nat) :
    ((cs.drop offset).take (f.start - offset)).length = f.start - offset := by
  have hstop := h.stop_le
  unfold Find.stop at hstop
  rw [List.length_take, List.length_drop]
  omega

/-- No part is empty. -/
theorem span_ne_nil {cs : List Char} {offset : Nat} {fs : List Find} (h : ∀ f ∈ fs, f.Occurs cs) :
    ∀ p ∈ partsFrom cs offset fs, p.span cs ≠ [] := by
  refine partsFrom_induction (C := fun _ fs ps => (∀ f ∈ fs, f.Occurs cs) →
    ∀ p ∈ ps, p.span cs ≠ []) ?stop ?tail ?inside ?find ?gap offset fs h
  case stop =>
    intro offset _ _ p hp
    exact absurd hp List.not_mem_nil
  case tail =>
    intro offset hlt _ p hp
    rw [List.mem_singleton.mp hp]
    show cs.drop offset ≠ []
    rw [ne_eq, List.drop_eq_nil_iff]
    exact Nat.not_le_of_lt hlt
  case inside =>
    intro offset f fs _ ih hfs
    exact ih fun g hg => hfs g (List.mem_cons_of_mem f hg)
  case find =>
    intro f fs ih hfs p hp
    rcases List.mem_cons.mp hp with hhead | hrest
    · have hf := hfs f List.mem_cons_self
      rw [hhead]
      refine List.length_pos_iff.mp ?_
      rw [length_span_found hf]
      exact hf.length_pos
    · exact ih (fun g hg => hfs g (List.mem_cons_of_mem f hg)) p hrest
  case gap =>
    intro offset f fs hlt ih hfs p hp
    rcases List.mem_cons.mp hp with hhead | hrest
    · rw [hhead]
      refine List.length_pos_iff.mp ?_
      show 0 < ((cs.drop offset).take (f.start - offset)).length
      rw [length_gap (hfs f List.mem_cons_self)]
      exact Nat.sub_pos_of_lt hlt
    · exact ih hfs p hrest

/-- What was found stands behind all parts before it. -/
theorem start_eq_of_partsFrom {cs : List Char} {offset : Nat} {fs : List Find}
    (h : ∀ f ∈ fs, f.Occurs cs) : ∀ before f after,
      partsFrom cs offset fs = before ++ .found f :: after →
        f.start = offset + (before.flatMap (Part.span cs)).length := by
  refine partsFrom_induction (C := fun offset fs ps => (∀ f ∈ fs, f.Occurs cs) →
    ∀ before f after, ps = before ++ .found f :: after →
      f.start = offset + (before.flatMap (Part.span cs)).length) ?stop ?tail ?inside ?find ?gap
    offset fs h
  case stop =>
    intro offset _ _ before f after heq
    exact absurd heq.symm (by simp)
  case tail =>
    intro offset _ _ before f after heq
    cases before with
    | nil => cases heq
    | cons p before => exact absurd (List.cons.inj heq).2.symm (by simp)
  case inside =>
    intro offset f fs _ ih hfs
    exact ih fun g hg => hfs g (List.mem_cons_of_mem f hg)
  case find =>
    intro f fs ih hfs before g after heq
    cases before with
    | nil =>
        cases heq
        rfl
    | cons p before =>
        obtain ⟨rfl, hrest⟩ := List.cons.inj heq
        rw [List.flatMap_cons, List.length_append, length_span_found (hfs f List.mem_cons_self),
          ← Nat.add_assoc]
        exact ih (fun g hg => hfs g (List.mem_cons_of_mem f hg)) before g after hrest
  case gap =>
    intro offset f fs hlt ih hfs before g after heq
    cases before with
    | nil => cases heq
    | cons p before =>
        obtain ⟨rfl, hrest⟩ := List.cons.inj heq
        have hgap : ((Part.plain ((cs.drop offset).take (f.start - offset))).span cs).length
            = f.start - offset := length_gap (hfs f List.mem_cons_self) offset
        rw [List.flatMap_cons, List.length_append, hgap, ← Nat.add_assoc,
          Nat.add_sub_cancel' (Nat.le_of_lt hlt)]
        exact ih hfs before g after hrest

/-! ## §4. What is chosen. -/

/-- What is found in a part is one of the finds. -/
theorem mem_of_partsFrom {cs : List Char} {offset : Nat} {fs : List Find} {g : Find} :
    .found g ∈ partsFrom cs offset fs → g ∈ fs := by
  refine partsFrom_induction (C := fun _ fs ps => Part.found g ∈ ps → g ∈ fs)
    ?stop ?tail ?inside ?find ?gap offset fs
  case stop =>
    intro offset _ h
    exact absurd h List.not_mem_nil
  case tail =>
    intro offset _ h
    cases List.mem_singleton.mp h
  case inside =>
    intro offset f fs _ ih h
    exact List.mem_cons_of_mem f (ih h)
  case find =>
    intro f fs ih h
    rcases List.mem_cons.mp h with hhead | hrest
    · cases hhead
      exact List.mem_cons_self
    · exact List.mem_cons_of_mem f (ih hrest)
  case gap =>
    intro offset f fs _ ih h
    rcases List.mem_cons.mp h with hhead | hrest
    · cases hhead
    · exact ih hrest

/-- Between two plain parts there is something that was found. -/
theorem partsFrom_apart (cs : List Char) (offset : Nat) (fs : List Find) :
    (partsFrom cs offset fs).IsChain fun p q => ¬ (p.isPlain = true ∧ q.isPlain = true) := by
  refine partsFrom_induction (C := fun _ _ ps =>
    ps.IsChain fun p q => ¬ (p.isPlain = true ∧ q.isPlain = true))
    ?stop ?tail ?inside ?find ?gap offset fs
  case stop =>
    intro offset _
    exact .nil
  case tail =>
    intro offset _
    exact .singleton _
  case inside =>
    intro offset f fs _ ih
    exact ih
  case find =>
    intro f fs ih
    exact List.isChain_cons.mpr ⟨fun q _ hplain => absurd hplain.1 Bool.false_ne_true, ih⟩
  case gap =>
    intro offset f fs _ ih
    exact List.isChain_cons_cons.mpr ⟨fun hplain => absurd hplain.2 Bool.false_ne_true, ih⟩

/-- A find that is not taken starts before the offset, or inside one that comes before it and is
taken. -/
theorem partsFrom_greedy {cs : List Char} {offset : Nat} {fs : List Find}
    (h : fs.Pairwise Find.Precedes) : ∀ f ∈ fs, .found f ∉ partsFrom cs offset fs →
      f.start < offset
        ∨ ∃ g, .found g ∈ partsFrom cs offset fs ∧ g.Precedes f ∧ f.start < g.stop := by
  refine partsFrom_induction (C := fun offset fs ps => fs.Pairwise Find.Precedes → ∀ f ∈ fs,
    Part.found f ∉ ps → f.start < offset
      ∨ ∃ g, Part.found g ∈ ps ∧ g.Precedes f ∧ f.start < g.stop) ?stop ?tail ?inside ?find ?gap
    offset fs h
  case stop =>
    intro offset _ _ f hf
    exact absurd hf List.not_mem_nil
  case tail =>
    intro offset _ _ f hf
    exact absurd hf List.not_mem_nil
  case inside =>
    intro offset f fs hlt ih hfs g hg hnot
    rcases List.mem_cons.mp hg with hhead | hrest
    · rw [hhead]
      exact Or.inl hlt
    · exact ih hfs.of_cons g hrest hnot
  case find =>
    intro f fs ih hfs g hg hnot
    rw [List.mem_cons, not_or] at hnot
    rcases List.mem_cons.mp hg with hhead | hrest
    · exact absurd (congrArg Part.found hhead) hnot.1
    · -- Either the find here is in its way, or one behind that.
      rcases ih hfs.of_cons g hrest hnot.2 with hinside | ⟨k, hk, hprecedes, hlt⟩
      · exact Or.inr ⟨f, List.mem_cons_self, List.rel_of_pairwise_cons hfs hrest, hinside⟩
      · exact Or.inr ⟨k, List.mem_cons_of_mem _ hk, hprecedes, hlt⟩
  case gap =>
    intro offset f fs hlt ih hfs g hg hnot
    rw [List.mem_cons, not_or] at hnot
    rcases ih hfs g hg hnot.2 with hbefore | ⟨k, hk, hprecedes, hinside⟩
    · -- No find starts before the first of them.
      rcases List.mem_cons.mp hg with hhead | hrest
      · rw [hhead] at hbefore
        exact absurd hbefore (Nat.lt_irrefl f.start)
      · rcases List.rel_of_pairwise_cons hfs hrest with hlater | ⟨hsame, -⟩
        · exact absurd hbefore (Nat.lt_asymm hlater)
        · rw [hsame] at hbefore
          exact absurd hbefore (Nat.lt_irrefl g.start)
    · exact Or.inr ⟨k, List.mem_cons_of_mem _ hk, hprecedes, hinside⟩

/-! ## §5. A whole text. -/

/-- A text is cut up into parts without loss, and a find is only left out for one before it. -/
structure Splits (cs : List Char) (ps : List Part) : Prop where
  /-- The parts together are the text. -/
  whole : ps.flatMap (Part.span cs) = cs
  /-- No part is empty. -/
  nonempty : cs ≠ [] → ∀ p ∈ ps, p.span cs ≠ []
  /-- But the empty text is one empty part. -/
  empty : cs = [] → ps = [.plain []]
  /-- What was found stands behind all parts before it. -/
  placed : ∀ before f after, ps = before ++ .found f :: after →
    f.start = (before.flatMap (Part.span cs)).length
  /-- It was found by its mark. -/
  found : ∀ f, .found f ∈ ps → f ∈ finds f.mark cs
  /-- No two plain parts are next to each other. -/
  apart : ps.IsChain fun p q => ¬ (p.isPlain = true ∧ q.isPlain = true)
  /-- What is left out starts inside a part that comes before it. -/
  greedy : ∀ mark, ∀ f ∈ finds mark cs, .found f ∉ ps →
    ∃ g, .found g ∈ ps ∧ g.Precedes f ∧ f.start < g.stop

theorem parts_split (cs : List Char) : Splits cs (parts cs) := by
  have hoccur : ∀ f ∈ allFinds cs, f.Occurs cs :=
    fun f hf => (mem_finds_iff.mp (mem_allFinds.mp hf)).2.1
  unfold parts
  by_cases hcs : cs = []
  · rw [if_pos hcs, hcs]
    refine ⟨rfl, fun h => absurd rfl h, fun _ => rfl, fun before f after heq => ?_, fun f hf => ?_,
      .singleton _, fun mark f hf => absurd hf List.not_mem_nil⟩
    · cases before with
      | nil => cases heq
      | cons p before => exact absurd (List.cons.inj heq).2.symm (by simp)
    · cases List.mem_singleton.mp hf
  · rw [if_neg hcs]
    refine ⟨span_partsFrom cs 0 _, fun _ => span_ne_nil hoccur, fun h => absurd h hcs, ?_,
      fun f hf => mem_allFinds.mp (mem_of_partsFrom hf), partsFrom_apart cs 0 _, ?_⟩
    · intro before f after heq
      rw [start_eq_of_partsFrom hoccur before f after heq, Nat.zero_add]
    · intro mark f hf hnot
      have hall : f ∈ allFinds cs := by
        rw [mem_allFinds, (mem_finds_iff.mp hf).1]
        exact hf
      exact (partsFrom_greedy (allFinds_ordered cs) f hall hnot).resolve_left (Nat.not_lt_zero _)

/-- The run of a part: its text, or its label in the style of its mark and with the URL, if that is
a web address. -/
def Part.run : Part → Run
  | .plain text => Run.plain (String.ofList text)
  | .found f =>
      Run.of (String.ofList f.label) f.mark.style ((f.url.map String.ofList).filter Url.isWeb)

theorem Part.run_yields (p : Part) : Writing.Yields p.piece.run p.run := by
  cases p with
  | plain text => exact Writing.yields_pure _
  | found f => exact Run.linked_yields _ _ _

theorem runs_yields (text : String) :
    Writing.Yields (runs text) ((parts text.toList).map Part.run) := by
  unfold runs
  rw [pieces_eq, List.mapM_map]
  exact Writing.Yields.mapM fun p _ => p.run_yields

/-- **Cutting a text up at its marks loses nothing**: there is one run for each of its parts, in
order.  What the marks find is where they stand with the shortest label, each from left to right. -/
theorem runs_split (text : String) :
    (∃ ps, Splits text.toList ps ∧ ∀ j, (runs text j).1 = ps.map Part.run)
      ∧ ∀ mark f, f ∈ finds mark text.toList
          ↔ f.mark = mark ∧ f.Occurs text.toList
            ∧ ∀ g ∈ finds mark text.toList, g.start < f.start → g.stop ≤ f.start :=
  ⟨⟨parts text.toList, parts_split text.toList, (runs_yields text).result⟩,
    fun _ _ => mem_finds_iff⟩

end Syllabus.Markup
