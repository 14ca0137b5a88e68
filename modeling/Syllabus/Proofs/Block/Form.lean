/-
  Syllabus.Proofs.Block.Form
  ──────────────────────────
  **WHAT THE REMOTE SIDE ACCEPTS AS A BLOCK.**

  A block in its final form is an object, and these are its rules, said about
  that object alone.  `IsRun` is the rule for a run, `Fits` the rules for the
  payload of a block of some type, and `IsBlock` says that the payload fits
  and that everything in its list of children is a block again, all the way
  down.  A `null` among children, an empty text, a row that is too short: none
  of these is a block, and neither is anything that holds one.

  From §3 on blocks are put together: for every constructor of `Block` one
  rule says what its parts need for its final form to be a block.
-/
import Syllabus.Block.Building
import Syllabus.Proofs.Json.Names

namespace Syllabus.Form

/-! ## §1. Runs. -/

/-- The text of a run is short, and visible unless it is one space. -/
def FitsRun (s : String) : Prop :=
  (1 ≤ s.length ∧ s.length ≤ 2000) ∧ (Text.isBlank s = false ∨ s = " ")

/-- No link, or one to an absolute web address. -/
def IsLink (v : Json) : Prop :=
  v = .null ∨ ∃ url, v = .obj [("url", .str url)] ∧ Url.isWeb url = true

/-- A run. -/
structure IsRun (v : Json) : Prop where
  /-- It says that it is a text. -/
  kind : v.member? "type" = some (.str "text")
  /-- It has a text that fits. -/
  content : ∃ s, (v.member "text").member? "content" = some (.str s) ∧ FitsRun s
  /-- It has a link that leads somewhere, or none. -/
  link : ∃ l, (v.member "text").member? "link" = some l ∧ IsLink l
  /-- It has a known color. -/
  color : ∃ c ∈ Color.all, (v.member "annotations").member? "color" = some (.str c)

/-- A list of runs. -/
def IsRuns (v : Json) : Prop := ∃ rs, v = .arr rs ∧ ∀ r ∈ rs, IsRun r

/-- A list of runs that is not empty. -/
def IsText (v : Json) : Prop := ∃ rs, v = .arr rs ∧ rs ≠ [] ∧ ∀ r ∈ rs, IsRun r

/-! ## §2. Blocks. -/

/-- The types of blocks that show a text. -/
def textTypes : List String :=
  ["paragraph", "heading_1", "heading_2", "heading_3", "callout", "quote", "bulleted_list_item",
    "numbered_list_item", "to_do", "toggle", "code"]

/-- The types of blocks that show what is hosted elsewhere. -/
def hostedTypes : List String := ["image", "video", "audio", "pdf", "file"]

/-- The types of blocks that point to a page. -/
def pageTypes : List String := ["embed", "bookmark"]

/-- The types of all other blocks. -/
def plainTypes : List String :=
  ["equation", "divider", "table_of_contents", "breadcrumb", "column_list", "column", "table",
    "table_row", "synced_block"]

/-- Code is in a known language and not too long. -/
def IsCode (ms : List (String × Json)) : Prop :=
  (∃ rs, Json.lookup "rich_text" ms = some (.arr rs) ∧ (Run.plainText rs).length ≤ 50000)
    ∧ ∃ l ∈ Language.all, Json.lookup "language" ms = some (.str l)

/-- What is hosted elsewhere is at a web address. -/
def IsHosted (ms : List (String × Json)) : Prop :=
  ∃ place url, Json.lookup "external" ms = some place ∧ place.member? "url" = some (.str url)
    ∧ Url.isWeb url = true

/-- A page is at a web address. -/
def IsPage (ms : List (String × Json)) : Prop :=
  ∃ url, Json.lookup "url" ms = some (.str url) ∧ Url.isWeb url = true

/-- A table has a width, and each of its rows has as many cells. -/
def IsTable (ms : List (String × Json)) : Prop :=
  ∃ width rows, 1 ≤ width ∧ Json.lookup "table_width" ms = some (.nat width)
    ∧ Json.lookup "children" ms = some (.arr rows)
    ∧ ∀ row ∈ rows, ∃ cells, row = Block.envelope "table_row" [("cells", .arr cells)]
        ∧ cells.length = width

/-- A list of columns has two at least, and each of them something in it. -/
def IsColumnList (ms : List (String × Json)) : Prop :=
  ∃ columns, Json.lookup "children" ms = some (.arr columns) ∧ 2 ≤ columns.length
    ∧ ∀ column ∈ columns, ∃ members first others, column = Block.envelope "column" members
        ∧ Json.lookup "children" members = some (.arr (first :: others))

/-- The rules for the payload of a block of some type. -/
structure Fits (type : String) (ms : List (String × Json)) : Prop where
  /-- The type is known. -/
  known : type ∈ textTypes ++ hostedTypes ++ pageTypes ++ plainTypes
  /-- A block that shows a text has one. -/
  given : type ∈ textTypes → (Json.lookup "rich_text" ms).isSome = true
  /-- A text is a list of runs that is not empty. -/
  text : ∀ v, Json.lookup "rich_text" ms = some v → IsText v
  /-- A caption is a list of runs. -/
  caption : ∀ v, Json.lookup "caption" ms = some v → IsRuns v
  /-- Cells are texts. -/
  cells : ∀ v, Json.lookup "cells" ms = some v → ∃ cs, v = .arr cs ∧ ∀ c ∈ cs, IsText c
  /-- A color is a known one. -/
  color : ∀ v, Json.lookup "color" ms = some v → ∃ c ∈ Color.all, v = .str c
  /-- Children are a list. -/
  children : ∀ v, Json.lookup "children" ms = some v → ∃ vs, v = .arr vs
  /-- The rule for code. -/
  code : type = "code" → IsCode ms
  /-- The rule for what is hosted elsewhere. -/
  hosted : type ∈ hostedTypes → IsHosted ms
  /-- The rule for pages. -/
  page : type ∈ pageTypes → IsPage ms
  /-- The rule for tables. -/
  table : type = "table" → IsTable ms
  /-- The rule for columns. -/
  columns : type = "column_list" → IsColumnList ms

/-- A block in its final form: its payload fits, and its children are blocks. -/
inductive IsBlock : Json → Prop
  /-- A type and a payload in their envelope. -/
  | envelope {type : String} {ms : List (String × Json)} (fits : Fits type ms)
      (children : ∀ vs, Json.lookup "children" ms = some (.arr vs) → ∀ v ∈ vs, IsBlock v) :
      IsBlock (Block.envelope type ms)

/-! ## §3. Parts of payloads. -/

/-- What a payload ends in: the children under their name, or nothing. -/
def IsTail (children : List Block) (tail : List (String × Json)) : Prop :=
  (∀ key, key ≠ "children" → Json.lookup key tail = none)
    ∧ ∀ v, Json.lookup "children" tail = some v → v = .arr (Block.listToJson children)

theorem isTail_children (children : List Block) :
    IsTail children [("children", .arr (Block.listToJson children))] := by
  refine ⟨fun key hkey => if_neg fun hk => hkey hk.symm, ?_⟩
  intro v hv
  have hv : some (Json.arr (Block.listToJson children)) = some v := hv
  injection hv with hv
  exact hv.symm

theorem isTail_childrenMember (children : List Block) :
    IsTail children (Block.childrenMember (Block.listToJson children)) := by
  unfold Block.childrenMember
  split
  · exact ⟨fun _ _ => rfl, fun v hv => absurd hv (by simp [Json.lookup])⟩
  · exact isTail_children children

theorem listToJson_eq_map (bs : List Block) : Block.listToJson bs = bs.map Block.toJson := by
  induction bs with
  | nil => rfl
  | cons b bs ih =>
      show Block.toJson b :: Block.listToJson bs = _
      rw [ih]
      rfl

/-- All of some blocks are blocks in their final form. -/
def AreBlocks (bs : List Block) : Prop := ∀ b ∈ bs, IsBlock b.toJson

theorem AreBlocks.nil : AreBlocks [] := fun _ hb => absurd hb List.not_mem_nil

theorem AreBlocks.cons {b : Block} {bs : List Block} (hb : IsBlock b.toJson) (hbs : AreBlocks bs) :
    AreBlocks (b :: bs) := by
  intro c hc
  rcases List.mem_cons.mp hc with hcb | hcs
  · rw [hcb]; exact hb
  · exact hbs c hcs

theorem AreBlocks.append {bs cs : List Block} (hb : AreBlocks bs) (hc : AreBlocks cs) :
    AreBlocks (bs ++ cs) := by
  intro b hm
  exact (List.mem_append.mp hm).elim (hb b) (hc b)

theorem AreBlocks.singleton {b : Block} (hb : IsBlock b.toJson) : AreBlocks [b] :=
  AreBlocks.cons hb AreBlocks.nil

theorem AreBlocks.final {bs : List Block} (h : AreBlocks bs) :
    ∀ v ∈ Block.listToJson bs, IsBlock v := by
  intro v hv
  rw [listToJson_eq_map, List.mem_map] at hv
  obtain ⟨b, hb, rfl⟩ := hv
  exact h b hb

/-! ## §4. Blocks with a text. -/

/-- A block that shows a text is no other kind of block that has a rule of its own. -/
theorem only_text {type : String} (h : type ∈ textTypes) :
    type ∉ hostedTypes ∧ type ∉ pageTypes ∧ type ≠ "table" ∧ type ≠ "column_list" := by
  have hall : ∀ t ∈ textTypes, t ∉ hostedTypes ∧ t ∉ pageTypes ∧ t ≠ "table" ∧ t ≠ "column_list" := by
    decide
  exact hall type h

section Payload

variable {text : Json} {extra tail : List (String × Json)} {children : List Block} {key : String}

theorem lookup_text :
    Json.lookup "rich_text" (("rich_text", text) :: extra ++ tail) = some text := by
  rw [Json.lookup_append]
  rfl

theorem lookup_beside_text (hkey : key ≠ "rich_text") :
    Json.lookup key (("rich_text", text) :: extra ++ tail)
      = (Json.lookup key extra).or (Json.lookup key tail) := by
  rw [Json.lookup_append]
  congr 1
  exact if_neg fun hk => hkey hk.symm

theorem lookup_nowhere (hkey : key ≠ "rich_text") (hchild : key ≠ "children")
    (htail : IsTail children tail) (hextra : Json.lookup key extra = none) :
    Json.lookup key (("rich_text", text) :: extra ++ tail) = none := by
  rw [lookup_beside_text hkey, hextra, htail.1 key hchild]
  rfl

end Payload

/-- A block that shows a text: besides it the payload has a color, some members that no rule is
about, and the children. -/
theorem isBlock_text (type : String) (extra : List (String × Json)) {color : String}
    {runs : List Run} {tail : List (String × Json)} {children : List Block}
    (htype : type ∈ textTypes) (hcode : type ≠ "code") (hruns : IsText (Run.listJson runs))
    (hcolor : Json.lookup "color" extra = some (.str color)) (hknown : color ∈ Color.all)
    (hcaption : Json.lookup "caption" extra = none) (hcells : Json.lookup "cells" extra = none)
    (hno : Json.lookup "children" extra = none) (htail : IsTail children tail)
    (hchildren : AreBlocks children) :
    IsBlock (Block.envelope type (("rich_text", Run.listJson runs) :: extra ++ tail)) := by
  obtain ⟨hhosted, hpage, htable, hcolumns⟩ := only_text htype
  have hkids : Json.lookup "children" (("rich_text", Run.listJson runs) :: extra ++ tail)
      = Json.lookup "children" tail := by
    rw [lookup_beside_text (by decide), hno]
    rfl
  refine .envelope ?_ ?_
  · refine
      { known := by simp only [List.mem_append]; exact .inl (.inl (.inl htype))
        given := fun _ => by rw [lookup_text]; rfl
        text := fun v hv => ?_
        caption := fun v hv => ?_
        cells := fun v hv => ?_
        color := fun v hv => ?_
        children := fun v hv => by rw [hkids] at hv; exact ⟨_, htail.2 v hv⟩
        code := fun h => absurd h hcode
        hosted := fun h => absurd h hhosted
        page := fun h => absurd h hpage
        table := fun h => absurd h htable
        columns := fun h => absurd h hcolumns }
    · rw [lookup_text] at hv
      rw [← Option.some.inj hv]
      exact hruns
    · rw [lookup_nowhere (by decide) (by decide) htail hcaption] at hv
      exact absurd hv (by simp)
    · rw [lookup_nowhere (by decide) (by decide) htail hcells] at hv
      exact absurd hv (by simp)
    · rw [lookup_beside_text (by decide), hcolor] at hv
      exact ⟨color, hknown, (Option.some.inj hv).symm⟩
  · intro vs hvs
    rw [hkids] at hvs
    -- The children of the payload are those of the tail, which are blocks.
    have heq := htail.2 _ hvs
    injection heq with heq
    rw [heq]
    exact hchildren.final

section Text

variable {runs : List Run} {color : String} {children : List Block}
  (hruns : IsText (Run.listJson runs)) (hcolor : color ∈ Color.all) (hchildren : AreBlocks children)

include hruns hcolor hchildren

theorem isBlock_paragraph : IsBlock (Block.paragraph runs color children).toJson :=
  isBlock_text "paragraph" [("color", .str color)] (by decide) (by decide)
    hruns rfl hcolor rfl rfl rfl (isTail_childrenMember children) hchildren

theorem isBlock_heading (level : HeadingLevel) (toggleable : Bool) :
    IsBlock (Block.heading level runs color toggleable children).toJson := by
  cases level <;>
    exact isBlock_text _ [("color", .str color), ("is_toggleable", .bool toggleable)]
      (by decide) (by decide) hruns rfl hcolor rfl rfl rfl (isTail_childrenMember children) hchildren

theorem isBlock_callout (icon : String) :
    IsBlock (Block.callout runs icon color children).toJson :=
  isBlock_text "callout"
    [("icon", .obj [("type", .str "emoji"), ("emoji", .str icon)]), ("color", .str color)]
    (by decide) (by decide) hruns rfl hcolor rfl rfl rfl (isTail_childrenMember children) hchildren

theorem isBlock_quote : IsBlock (Block.quote runs color children).toJson :=
  isBlock_text "quote" [("color", .str color)] (by decide) (by decide)
    hruns rfl hcolor rfl rfl rfl (isTail_childrenMember children) hchildren

theorem isBlock_entry (marker : Marker) :
    IsBlock (Block.entry marker runs color children).toJson := by
  cases marker with
  | bullet =>
      exact isBlock_text "bulleted_list_item" [("color", .str color)]
        (by decide) (by decide) hruns rfl hcolor rfl rfl rfl (isTail_childrenMember children) hchildren
  | number =>
      exact isBlock_text "numbered_list_item" [("color", .str color)]
        (by decide) (by decide) hruns rfl hcolor rfl rfl rfl (isTail_childrenMember children) hchildren
  | box checked =>
      exact isBlock_text "to_do" [("checked", .bool checked), ("color", .str color)]
        (by decide) (by decide) hruns rfl hcolor rfl rfl rfl (isTail_childrenMember children) hchildren

theorem isBlock_toggle : IsBlock (Block.toggle runs color children).toJson :=
  isBlock_text "toggle" [("color", .str color)] (by decide) (by decide)
    hruns rfl hcolor rfl rfl rfl (isTail_children children) hchildren

end Text

/-! ## §5. Blocks without a text. -/

/-- A payload without children holds no further blocks. -/
theorem isBlock_leaf (type : String) {ms : List (String × Json)} (fits : Fits type ms)
    (hno : Json.lookup "children" ms = none) : IsBlock (Block.envelope type ms) := by
  refine .envelope fits ?_
  intro vs hvs
  rw [hno] at hvs
  exact absurd hvs (by simp)

theorem isBlock_code {runs caption : List Run} {language : String}
    (hruns : IsText (Run.listJson runs)) (hcaption : IsRuns (Run.listJson caption))
    (hlanguage : language ∈ Language.all)
    (hlength : (Run.plainText (runs.map Run.toJson)).length ≤ 50000) :
    IsBlock (Block.code runs language caption).toJson := by
  refine isBlock_leaf "code" ?_ rfl
  exact
    { known := by decide
      given := fun _ => rfl
      text := fun v hv => by injection hv with hv; exact hv ▸ hruns
      caption := fun v hv => by injection hv with hv; exact hv ▸ hcaption
      cells := fun v hv => absurd hv (by simp [Json.lookup])
      color := fun v hv => absurd hv (by simp [Json.lookup])
      children := fun v hv => absurd hv (by simp [Json.lookup])
      code := fun _ => ⟨⟨runs.map Run.toJson, rfl, hlength⟩, language, hlanguage, rfl⟩
      hosted := fun h => absurd h (by decide)
      page := fun h => absurd h (by decide)
      table := fun h => absurd h (by decide)
      columns := fun h => absurd h (by decide) }

/-- A block that has neither a text nor an address nor parts that must be there. -/
theorem fits_plain {type : String} {ms : List (String × Json)}
    (htype : type ∈ ["equation", "divider", "table_of_contents", "breadcrumb", "column", "table_row",
      "synced_block"])
    (hrich : Json.lookup "rich_text" ms = none) (hcaption : Json.lookup "caption" ms = none)
    (hcells : ∀ v, Json.lookup "cells" ms = some v → ∃ cs, v = .arr cs ∧ ∀ c ∈ cs, IsText c)
    (hcolor : ∀ v, Json.lookup "color" ms = some v → ∃ c ∈ Color.all, v = .str c)
    (hchildren : ∀ v, Json.lookup "children" ms = some v → ∃ vs, v = .arr vs) : Fits type ms := by
  have hknown : ∀ t ∈ ["equation", "divider", "table_of_contents", "breadcrumb", "column",
      "table_row", "synced_block"], t ∈ textTypes ++ hostedTypes ++ pageTypes ++ plainTypes
        ∧ t ∉ textTypes ∧ t ∉ hostedTypes ∧ t ∉ pageTypes ∧ t ≠ "code" ∧ t ≠ "table"
        ∧ t ≠ "column_list" := by decide
  obtain ⟨hk, ht, hh, hp, hc, htb, hcl⟩ := hknown type htype
  exact
    { known := hk
      given := fun h => absurd h ht
      text := fun v hv => by rw [hrich] at hv; exact absurd hv (by simp)
      caption := fun v hv => by rw [hcaption] at hv; exact absurd hv (by simp)
      cells := hcells
      color := hcolor
      children := hchildren
      code := fun h => absurd h hc
      hosted := fun h => absurd h hh
      page := fun h => absurd h hp
      table := fun h => absurd h htb
      columns := fun h => absurd h hcl }

theorem isBlock_equation (expression : String) : IsBlock (Block.equation expression).toJson := by
  refine isBlock_leaf "equation" (fits_plain (by decide) rfl rfl ?_ ?_ ?_) rfl <;>
    exact fun v hv => absurd hv (by simp [Json.lookup])

theorem isBlock_divider : IsBlock Block.divider.toJson := by
  refine isBlock_leaf "divider" (fits_plain (by decide) rfl rfl ?_ ?_ ?_) rfl <;>
    exact fun v hv => absurd hv (by simp [Json.lookup])

theorem isBlock_breadcrumb : IsBlock Block.breadcrumb.toJson := by
  refine isBlock_leaf "breadcrumb" (fits_plain (by decide) rfl rfl ?_ ?_ ?_) rfl <;>
    exact fun v hv => absurd hv (by simp [Json.lookup])

theorem isBlock_tableOfContents {color : String} (hcolor : color ∈ Color.all) :
    IsBlock (Block.tableOfContents color).toJson := by
  refine isBlock_leaf "table_of_contents" (fits_plain (by decide) rfl rfl ?_ ?_ ?_) rfl
  · exact fun v hv => absurd hv (by simp [Json.lookup])
  · intro v hv
    injection hv with hv
    exact ⟨color, hcolor, hv.symm⟩
  · exact fun v hv => absurd hv (by simp [Json.lookup])

theorem isBlock_syncedReference (blockId : String) :
    IsBlock (Block.syncedReference blockId).toJson := by
  refine isBlock_leaf "synced_block" (fits_plain (by decide) rfl rfl ?_ ?_ ?_) rfl <;>
    exact fun v hv => absurd hv (by simp [Json.lookup])

theorem isBlock_synced {children : List Block} (h : AreBlocks children) :
    IsBlock (Block.synced children).toJson := by
  refine @IsBlock.envelope "synced_block" _ (fits_plain (by decide) rfl rfl ?_ ?_ ?_) ?_
  · exact fun v hv => absurd hv (by simp [Json.lookup])
  · exact fun v hv => absurd hv (by simp [Json.lookup])
  · intro v hv
    injection hv with hv
    exact ⟨_, hv.symm⟩
  · intro vs hvs
    injection hvs with hvs
    injection hvs with hvs
    exact hvs ▸ h.final

/-! ## §6. Blocks with an address. -/

theorem isBlock_hosted (type : String) (extra : List (String × Json)) {url : String}
    {caption : List Run} (htype : type ∈ hostedTypes) (hurl : Url.isWeb url = true)
    (hcaption : IsRuns (Run.listJson caption))
    (hextra : ∀ key ∈ ["rich_text", "caption", "cells", "color", "children"],
      Json.lookup key extra = none) :
    IsBlock (Block.envelope type (("type", .str "external")
      :: ("external", .obj [("url", .str url)]) :: ("caption", Run.listJson caption) :: extra)) := by
  have hdisjoint : ∀ t ∈ hostedTypes, t ∈ textTypes ++ hostedTypes ++ pageTypes ++ plainTypes
      ∧ t ∉ textTypes ∧ t ∉ pageTypes ∧ t ≠ "code" ∧ t ≠ "table" ∧ t ≠ "column_list" := by decide
  obtain ⟨hk, ht, hp, hc, htb, hcl⟩ := hdisjoint type htype
  have hnone : ∀ key ∈ ["rich_text", "cells", "color", "children"],
      Json.lookup key (("type", Json.str "external")
        :: ("external", .obj [("url", .str url)]) :: ("caption", Run.listJson caption) :: extra)
        = none := by
    intro key hkey
    have hne : key ≠ "type" ∧ key ≠ "external" ∧ key ≠ "caption"
        ∧ key ∈ ["rich_text", "caption", "cells", "color", "children"] := by
      revert key
      decide
    simp only [Json.lookup, if_neg (Ne.symm hne.1), if_neg (Ne.symm hne.2.1),
      if_neg (Ne.symm hne.2.2.1)]
    exact hextra key hne.2.2.2
  refine isBlock_leaf type ?_ (hnone "children" (by decide))
  exact
    { known := hk
      given := fun h => absurd h ht
      text := fun v hv => by rw [hnone "rich_text" (by decide)] at hv; exact absurd hv (by simp)
      caption := fun v hv => by injection hv with hv; exact hv ▸ hcaption
      cells := fun v hv => by rw [hnone "cells" (by decide)] at hv; exact absurd hv (by simp)
      color := fun v hv => by rw [hnone "color" (by decide)] at hv; exact absurd hv (by simp)
      children := fun v hv => by rw [hnone "children" (by decide)] at hv; exact absurd hv (by simp)
      code := fun h => absurd h hc
      hosted := fun _ => ⟨.obj [("url", .str url)], url, rfl, rfl, hurl⟩
      page := fun h => absurd h hp
      table := fun h => absurd h htb
      columns := fun h => absurd h hcl }

theorem isBlock_media (kind : MediaKind) {url : String} {caption : List Run}
    (hurl : Url.isWeb url = true) (hcaption : IsRuns (Run.listJson caption)) :
    IsBlock (Block.media kind url caption).toJson := by
  cases kind <;> exact isBlock_hosted _ [] (by decide) hurl hcaption (by decide)

theorem isBlock_file (name : String) {url : String} {caption : List Run}
    (hurl : Url.isWeb url = true) (hcaption : IsRuns (Run.listJson caption)) :
    IsBlock (Block.file url caption name).toJson := by
  refine isBlock_hosted "file" [("name", .str name)] (by decide) hurl hcaption ?_
  intro key hkey
  have hne : key ≠ "name" := by
    revert key
    decide
  exact if_neg (Ne.symm hne)

theorem isBlock_embed {url : String} (hurl : Url.isWeb url = true) :
    IsBlock (Block.embed url).toJson := by
  refine isBlock_leaf "embed" ?_ rfl
  exact
    { known := by decide
      given := fun h => absurd h (by decide)
      text := fun v hv => absurd hv (by simp [Json.lookup])
      caption := fun v hv => absurd hv (by simp [Json.lookup])
      cells := fun v hv => absurd hv (by simp [Json.lookup])
      color := fun v hv => absurd hv (by simp [Json.lookup])
      children := fun v hv => absurd hv (by simp [Json.lookup])
      code := fun h => absurd h (by decide)
      hosted := fun h => absurd h (by decide)
      page := fun _ => ⟨url, rfl, hurl⟩
      table := fun h => absurd h (by decide)
      columns := fun h => absurd h (by decide) }

theorem isBlock_bookmark {url : String} {caption : List Run} (hurl : Url.isWeb url = true)
    (hcaption : IsRuns (Run.listJson caption)) : IsBlock (Block.bookmark url caption).toJson := by
  refine isBlock_leaf "bookmark" ?_ rfl
  exact
    { known := by decide
      given := fun h => absurd h (by decide)
      text := fun v hv => absurd hv (by simp [Json.lookup])
      caption := fun v hv => by injection hv with hv; exact hv ▸ hcaption
      cells := fun v hv => absurd hv (by simp [Json.lookup])
      color := fun v hv => absurd hv (by simp [Json.lookup])
      children := fun v hv => absurd hv (by simp [Json.lookup])
      code := fun h => absurd h (by decide)
      hosted := fun h => absurd h (by decide)
      page := fun _ => ⟨url, rfl, hurl⟩
      table := fun h => absurd h (by decide)
      columns := fun h => absurd h (by decide) }

/-! ## §7. Tables and columns. -/

theorem isBlock_row {row : List (List Run)} (h : ∀ cell ∈ row, IsText (Run.listJson cell)) :
    IsBlock (Block.rowJson row) := by
  refine isBlock_leaf "table_row" (fits_plain (by decide) rfl rfl ?_ ?_ ?_) rfl
  · intro v hv
    injection hv with hv
    refine ⟨row.map Run.listJson, hv.symm, ?_⟩
    intro c hc
    obtain ⟨cell, hcell, rfl⟩ := List.mem_map.mp hc
    exact h cell hcell
  · exact fun v hv => absurd hv (by simp [Json.lookup])
  · exact fun v hv => absurd hv (by simp [Json.lookup])

theorem isBlock_table {width : Nat} {columnHeader rowHeader : Bool} {rows : List (List (List Run))}
    (hwidth : 1 ≤ width)
    (hrows : ∀ row ∈ rows, row.length = width ∧ ∀ cell ∈ row, IsText (Run.listJson cell)) :
    IsBlock (Block.table width columnHeader rowHeader rows).toJson := by
  refine @IsBlock.envelope "table" _ ?_ ?_
  · exact
      { known := by decide
        given := fun h => absurd h (by decide)
        text := fun v hv => absurd hv (by simp [Json.lookup])
        caption := fun v hv => absurd hv (by simp [Json.lookup])
        cells := fun v hv => absurd hv (by simp [Json.lookup])
        color := fun v hv => absurd hv (by simp [Json.lookup])
        children := fun v hv => by injection hv with hv; exact ⟨_, hv.symm⟩
        code := fun h => absurd h (by decide)
        hosted := fun h => absurd h (by decide)
        page := fun h => absurd h (by decide)
        table := fun _ => by
          refine ⟨width, rows.map Block.rowJson, hwidth, rfl, rfl, ?_⟩
          intro v hv
          obtain ⟨row, hrow, rfl⟩ := List.mem_map.mp hv
          exact ⟨row.map Run.listJson, rfl, by rw [List.length_map]; exact (hrows row hrow).1⟩
        columns := fun h => absurd h (by decide) }
  · intro vs hvs v hv
    injection hvs with hvs
    injection hvs with hvs
    rw [← hvs] at hv
    obtain ⟨row, hrow, rfl⟩ := List.mem_map.mp hv
    exact isBlock_row (hrows row hrow).2

/-- One column, without a width of its own. -/
def columnJson (bs : List Block) : Json :=
  Block.envelope "column" [("children", .arr (Block.listToJson bs))]

theorem columnsToJson_makeColumns (columns : List (List Block)) :
    Block.columnsToJson (columns.map fun c => (c, Json.null)) = columns.map columnJson := by
  induction columns with
  | nil => rfl
  | cons c columns ih =>
      show columnJson c :: Block.columnsToJson (columns.map fun c => (c, Json.null)) = _
      rw [ih]
      rfl

theorem isBlock_column {bs : List Block} (h : AreBlocks bs) : IsBlock (columnJson bs) := by
  refine @IsBlock.envelope "column" _ (fits_plain (by decide) rfl rfl ?_ ?_ ?_) ?_
  · exact fun v hv => absurd hv (by simp [Json.lookup])
  · exact fun v hv => absurd hv (by simp [Json.lookup])
  · intro v hv
    injection hv with hv
    exact ⟨_, hv.symm⟩
  · intro vs hvs
    injection hvs with hvs
    injection hvs with hvs
    exact hvs ▸ h.final

theorem isBlock_columns {columns : List (List Block)} (htwo : 2 ≤ columns.length)
    (hcolumns : ∀ c ∈ columns, c ≠ [] ∧ AreBlocks c) :
    IsBlock (Block.makeColumns columns).toJson := by
  have hjson : (Block.makeColumns columns).toJson
      = Block.envelope "column_list" [("children", .arr (columns.map columnJson))] := by
    rw [← columnsToJson_makeColumns]
    rfl
  rw [hjson]
  refine .envelope ?_ ?_
  · exact
      { known := by decide
        given := fun h => absurd h (by decide)
        text := fun v hv => absurd hv (by simp [Json.lookup])
        caption := fun v hv => absurd hv (by simp [Json.lookup])
        cells := fun v hv => absurd hv (by simp [Json.lookup])
        color := fun v hv => absurd hv (by simp [Json.lookup])
        children := fun v hv => by injection hv with hv; exact ⟨_, hv.symm⟩
        code := fun h => absurd h (by decide)
        hosted := fun h => absurd h (by decide)
        page := fun h => absurd h (by decide)
        table := fun h => absurd h (by decide)
        columns := fun _ => by
          refine ⟨columns.map columnJson, rfl, by rw [List.length_map]; exact htwo, ?_⟩
          intro v hv
          obtain ⟨c, hc, rfl⟩ := List.mem_map.mp hv
          cases c with
          | nil => exact absurd rfl (hcolumns [] hc).1
          | cons b bs => exact ⟨_, b.toJson, Block.listToJson bs, rfl, rfl⟩ }
  · intro vs hvs v hv
    injection hvs with hvs
    injection hvs with hvs
    rw [← hvs] at hv
    obtain ⟨c, hc, rfl⟩ := List.mem_map.mp hv
    exact isBlock_column (hcolumns c hc).2

end Syllabus.Form
