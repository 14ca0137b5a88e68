/-
  Syllabus.Proofs.Item.Addresses
  ──────────────────────────────
  **WHERE A PAGE LEADS TO.**

  A block leads somewhere with the address of what it shows, or with the link
  of one of its runs, and so does everything in it.  Whatever the author wrote
  as items, all these are web addresses.  They are written as the author wrote
  them, at most without the blanks around them, so how they open is decided by
  what stands in front.

      Form.Emits            the addresses in a block in its final form
      IsBlock.emits_isWeb   the addresses in what is a block are good
      addresses_open        those in the blocks of any items
-/
import Syllabus.Proofs.Course.Shape
import Syllabus.Proofs.Url.Opening

namespace Syllabus

open Form

namespace Form

/-! ## §1. Addresses. -/

/-- A run has a link to a URL. -/
def LeadsTo (url : String) (run : Json) : Prop :=
  ∃ link, (run.member "text").member? "link" = some link ∧ link.member? "url" = some (.str url)

/-- A block in its final form has a URL in it. -/
inductive Emits (url : String) : Json → Prop
  /-- The address of what is hosted elsewhere. -/
  | hosted {type : String} {ms : List (String × Json)} {place : Json} (htype : type ∈ hostedTypes)
      (hplace : Json.lookup "external" ms = some place)
      (hurl : place.member? "url" = some (.str url)) : Emits url (Block.envelope type ms)
  /-- The address of a page. -/
  | page {type : String} {ms : List (String × Json)} (htype : type ∈ pageTypes)
      (hurl : Json.lookup "url" ms = some (.str url)) : Emits url (Block.envelope type ms)
  /-- The link of a run in the text or in the caption. -/
  | run {type key : String} {ms : List (String × Json)} {runs : List Json} {run : Json}
      (hkey : key ∈ ["rich_text", "caption"]) (hruns : Json.lookup key ms = some (.arr runs))
      (hrun : run ∈ runs) (hlink : LeadsTo url run) : Emits url (Block.envelope type ms)
  /-- The link of a run in a cell. -/
  | cell {type : String} {ms : List (String × Json)} {cells runs : List Json} {run : Json}
      (hcells : Json.lookup "cells" ms = some (.arr cells)) (hcell : .arr runs ∈ cells)
      (hrun : run ∈ runs) (hlink : LeadsTo url run) : Emits url (Block.envelope type ms)
  /-- An address in a child. -/
  | child {type : String} {ms : List (String × Json)} {children : List Json} {v : Json}
      (hchildren : Json.lookup "children" ms = some (.arr children)) (hv : v ∈ children)
      (h : Emits url v) : Emits url (Block.envelope type ms)

/-! ## §2. They are web addresses. -/

theorem envelope_injective {type type' : String} {ms ms' : List (String × Json)}
    (h : Block.envelope type ms = Block.envelope type' ms') : type = type' ∧ ms = ms' := by
  unfold Block.envelope at h
  injection h with h
  simp only [List.cons.injEq, Prod.mk.injEq, Json.obj.injEq, and_true] at h
  exact ⟨h.2.2.1, h.2.2.2⟩

variable {type url : String} {ms : List (String × Json)} {run : Json}

/-- The payload of a block keeps the rules, and its children are blocks. -/
theorem IsBlock.payload (h : IsBlock (Block.envelope type ms)) :
    Fits type ms
      ∧ ∀ vs, Json.lookup "children" ms = some (.arr vs) → ∀ v ∈ vs, IsBlock v := by
  generalize hv : Block.envelope type ms = v at h
  cases h with
  | envelope fits children =>
      obtain ⟨rfl, rfl⟩ := envelope_injective hv
      exact ⟨fits, children⟩

/-- A run that has a link to a URL has one to a web address. -/
theorem IsRun.isWeb (h : IsRun run) (hlink : LeadsTo url run) : Url.isWeb url = true := by
  obtain ⟨link, hmember, hurl⟩ := hlink
  obtain ⟨link', hmember', hgood⟩ := h.link
  rw [hmember] at hmember'
  cases hmember'
  rcases hgood with rfl | ⟨url', rfl, hweb⟩
  · cases hurl
  · cases hurl
    exact hweb

/-- The runs under a name that stands for runs are runs. -/
theorem Fits.runs {key : String} {runs : List Json} (h : Fits type ms)
    (hkey : key ∈ ["rich_text", "caption"]) (hruns : Json.lookup key ms = some (.arr runs)) :
    ∀ run ∈ runs, IsRun run := by
  simp only [List.mem_cons, List.not_mem_nil, or_false] at hkey
  rcases hkey with rfl | rfl
  · obtain ⟨rs, heq, _, hall⟩ := h.text _ hruns
    cases heq
    exact hall
  · obtain ⟨rs, heq, hall⟩ := h.caption _ hruns
    cases heq
    exact hall

theorem Fits.cell_runs {cells runs : List Json} (h : Fits type ms)
    (hcells : Json.lookup "cells" ms = some (.arr cells)) (hcell : .arr runs ∈ cells) :
    ∀ run ∈ runs, IsRun run := by
  obtain ⟨cs, heq, hall⟩ := h.cells _ hcells
  cases heq
  obtain ⟨rs, heq, _, hruns⟩ := hall _ hcell
  cases heq
  exact hruns

/-- The addresses in a block are web addresses. -/
theorem IsBlock.emits_isWeb {v : Json} (hblock : IsBlock v) (h : Emits url v) :
    Url.isWeb url = true := by
  induction h with
  | hosted htype hplace hurl =>
      obtain ⟨place, url', hplace', hurl', hweb⟩ := hblock.payload.1.hosted htype
      rw [hplace] at hplace'
      cases hplace'
      rw [hurl] at hurl'
      cases hurl'
      exact hweb
  | page htype hurl =>
      obtain ⟨url', hurl', hweb⟩ := hblock.payload.1.page htype
      rw [hurl] at hurl'
      cases hurl'
      exact hweb
  | run hkey hruns hrun hlink => exact (hblock.payload.1.runs hkey hruns _ hrun).isWeb hlink
  | cell hcells hcell hrun hlink =>
      exact (hblock.payload.1.cell_runs hcells hcell _ hrun).isWeb hlink
  | child hchildren hv _ ih => exact ih (hblock.payload.2 _ hchildren _ hv)

end Form

/-! ## §3. Items. -/

/-- **The addresses on a page.**

Whatever the author wrote as items, every address in their blocks is a web address: without blanks
around it and control characters in it, it opens with `http://` or `https://`.  As it is written it
opens so exactly if no blank and no control character stands in it up to its second slash. -/
theorem addresses_open (items : List Json) (j : Journal) : ∃ bs after,
    (buildItems {} items).run.run j = (.ok bs, after)
      ∧ ∀ b ∈ bs, ∀ url, Emits url b.toJson →
        Url.isWeb url = true ∧ Url.opensWeb (Url.readable url) = true
          ∧ (Url.opensWeb url.toList = true ↔ Url.Bare url) := by
  obtain ⟨bs, after, hrun, hblocks⟩ := (buildItems_shape items).runs j
  refine ⟨bs, after, hrun, ?_⟩
  intro b hb url hurl
  have hweb := (hblocks b hb).emits_isWeb hurl
  exact ⟨hweb, Url.opensWeb_of_isWeb hweb, Url.opensWeb_iff_bare hweb⟩

/-- A segment with a blank in front of its link is a run with the blank in front of its link. -/
theorem segment_link_blank :
    let items : List Json := [.obj [("type", .str "paragraph"),
      ("text", .arr [.obj [("text", .str "x"), ("link", .str " http://a.b")]])]]
    let run : Json := .obj [("type", .str "text"),
      ("text", .obj [("content", .str "x"), ("link", .obj [("url", .str " http://a.b")])]),
      ("annotations", Run.styleJson {})]
    let block := Block.envelope "paragraph" [("rich_text", .arr [run]), ("color", .str "default")]
    ((buildItems {} items).run.run {}).1.map Block.listToJson = .ok [block]
      ∧ Emits " http://a.b" block ∧ Url.opensWeb " http://a.b".toList = false := by
  intro items run block
  have hbuilt : ((buildItems {} items).run.run {}).1.map Block.listToJson = .ok [block] := by
    decide +kernel
  have hlink : LeadsTo " http://a.b" run := ⟨.obj [("url", .str " http://a.b")], rfl, rfl⟩
  have htext : "rich_text" ∈ ["rich_text", "caption"] := List.mem_cons_self
  exact ⟨hbuilt, .run htext rfl List.mem_cons_self hlink, by decide⟩

end Syllabus
