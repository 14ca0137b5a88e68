/-
  Syllabus.Proofs.Service.Detail
  ──────────────────────────────
  **THE NEAREST JSON VALUE IS NEAR.**

  A detail of an error is shown as the nearest JSON value.  This value is well
  formed whatever the detail holds: keys that read alike are one name.  A
  detail that is JSON already stays as it is, and no other detail does; so to
  take the nearest value twice is to take it once.

      Detail.IsJson           a detail that is JSON already
      namesOnce_toJson        the nearest value repeats no name
      ofJson_toJson_iff       a detail is its nearest value exactly if it is JSON
      toJson_ofJson_toJson    the nearest value of the nearest value is itself
-/
import Syllabus.Proofs.Json.Names
import Syllabus.Proofs.Json.Outline
import Syllabus.Service.Detail

namespace Syllabus.Service.Detail

/-! ## §1. Details that are JSON already. -/

/-- A detail that is made of nothing that JSON lacks: its maps have texts as keys, and none of them
twice. -/
inductive IsJson : Detail → Prop
  /-- Nothing. -/
  | null : IsJson .null
  /-- A truth value. -/
  | bool (b) : IsJson (.bool b)
  /-- A whole number. -/
  | int (n) : IsJson (.int n)
  /-- Any other number. -/
  | float (x) : IsJson (.float x)
  /-- A text. -/
  | str (s) : IsJson (.str s)
  /-- A list of such details. -/
  | list {ds} (items : ∀ d ∈ ds, IsJson d) : IsJson (.list ds)
  /-- A map from texts to such details. -/
  | map {es} {names : List String} (keys : es.map Prod.fst = names.map .str) (once : names.Nodup)
      (values : ∀ e ∈ es, IsJson e.2) : IsJson (.map es)

/-! ## §2. There and back, level by level. -/

theorem ofItems_eq (vs : List Json) : ofItems vs = vs.map ofJson := by
  induction vs with
  | nil => rfl
  | cons v vs ih =>
      show ofJson v :: ofItems vs = _
      rw [ih, List.map_cons]

theorem ofMembers_eq (ms : List (String × Json)) :
    ofMembers ms = ms.map fun m => (.str m.1, ofJson m.2) := by
  induction ms with
  | nil => rfl
  | cons m ms ih =>
      show (Detail.str m.1, ofJson m.2) :: ofMembers ms = _
      rw [ih, List.map_cons]

theorem toItems_eq (ds : List Detail) : toItems ds = ds.map toJson := by
  induction ds with
  | nil => rfl
  | cons d ds ih =>
      show toJson d :: toItems ds = _
      rw [ih, List.map_cons]

theorem toMembers_eq (es : List (Detail × Detail)) :
    toMembers es = es.map fun e => (shown e.1, toJson e.2) := by
  induction es with
  | nil => rfl
  | cons e es ih =>
      show (shown e.1, toJson e.2) :: toMembers es = _
      rw [ih, List.map_cons]

theorem ofJson_arr (vs : List Json) : ofJson (.arr vs) = .list (vs.map ofJson) :=
  congrArg Detail.list (ofItems_eq vs)

theorem ofJson_obj (ms : List (String × Json)) :
    ofJson (.obj ms) = .map (ms.map fun m => (.str m.1, ofJson m.2)) :=
  congrArg Detail.map (ofMembers_eq ms)

theorem toJson_list (ds : List Detail) : toJson (.list ds) = .arr (ds.map toJson) :=
  congrArg Json.arr (toItems_eq ds)

theorem toJson_map (es : List (Detail × Detail)) :
    toJson (.map es) = .obj (Json.mergeMembers (es.map fun e => (shown e.1, toJson e.2))) :=
  congrArg (fun ms => Json.obj (Json.mergeMembers ms)) (toMembers_eq es)

/-! ## §3. The nearest value is well formed. -/

mutual

/-- No nearest value repeats a name. -/
theorem namesOnce_toJson : ∀ d : Detail, d.toJson.namesOnce = true
  | .null | .bool _ | .int _ | .float _ | .str _ | .bytes _ | .fault _ _ => rfl
  | .list ds | .tuple ds | .set ds => (Json.namesOnce_arr _).mpr (namesOnce_toItems ds)
  | .map es => Json.namesOnce_mergeMembers (namesOnce_toMembers es)

theorem namesOnce_toItems : ∀ ds : List Detail, ∀ v ∈ toItems ds, v.namesOnce = true
  | [] => fun _ hv => absurd hv List.not_mem_nil
  | d :: ds => List.forall_mem_cons.mpr ⟨namesOnce_toJson d, namesOnce_toItems ds⟩

theorem namesOnce_toMembers :
    ∀ es : List (Detail × Detail), ∀ m ∈ toMembers es, m.2.namesOnce = true
  | [] => fun _ hm => absurd hm List.not_mem_nil
  | (_, d) :: es => List.forall_mem_cons.mpr ⟨namesOnce_toJson d, namesOnce_toMembers es⟩

end

/-- The nearest value of a map is the object of its entries if no two of its keys read alike. -/
theorem toJson_map_of_nodup {es : List (Detail × Detail)} {names : List String}
    (hkeys : es.map (fun e => shown e.1) = names) (honce : names.Nodup) :
    toJson (.map es) = .obj (es.map fun e => (shown e.1, toJson e.2)) := by
  rw [toJson_map, Json.mergeMembers_of_nodup]
  rw [List.map_map]
  exact hkeys ▸ honce

/-- A value that repeats no name is its own nearest value. -/
theorem toJson_ofJson {v : Json} (h : v.namesOnce = true) : (ofJson v).toJson = v := by
  induction v using Json.parts_induction with
  | scalar v harr hobj =>
      cases v with
      | arr vs => cases harr
      | obj ms => cases hobj
      | _ => rfl
  | array vs ih =>
      have hitems := (Json.namesOnce_arr vs).mp h
      rw [ofJson_arr, toJson_list, List.map_map]
      refine congrArg Json.arr ((List.map_congr_left fun v hv => ?_).trans (List.map_id vs))
      exact ih v hv (hitems v hv)
  | object ms ih =>
      obtain ⟨honce, hvalues⟩ := (Json.namesOnce_obj ms).mp h
      have hkeys : (ms.map fun m => (Detail.str m.1, ofJson m.2)).map (fun e => shown e.1)
          = ms.map Prod.fst := List.map_map
      rw [ofJson_obj, toJson_map_of_nodup hkeys honce, List.map_map]
      refine congrArg Json.obj ((List.map_congr_left fun m hm => ?_).trans (List.map_id ms))
      exact congrArg (Prod.mk m.1) (ih m hm (hvalues m hm))

/-- A value that repeats no name is JSON, seen as a detail. -/
theorem isJson_ofJson {v : Json} (h : v.namesOnce = true) : (ofJson v).IsJson := by
  induction v using Json.parts_induction with
  | scalar v harr hobj =>
      cases v with
      | arr vs => cases harr
      | obj ms => cases hobj
      | null => exact .null
      | bool b => exact .bool b
      | int n => exact .int n
      | float x => exact .float x
      | str s => exact .str s
  | array vs ih =>
      have hitems := (Json.namesOnce_arr vs).mp h
      rw [ofJson_arr]
      exact .list (List.forall_mem_map.mpr fun v hv => ih v hv (hitems v hv))
  | object ms ih =>
      obtain ⟨honce, hvalues⟩ := (Json.namesOnce_obj ms).mp h
      have hkeys : (ms.map fun m => (Detail.str m.1, ofJson m.2)).map Prod.fst
          = (ms.map Prod.fst).map Detail.str := by
        rw [List.map_map, List.map_map]
        rfl
      rw [ofJson_obj]
      exact .map hkeys honce (List.forall_mem_map.mpr fun m hm => ih m hm (hvalues m hm))

/-- A detail that is JSON already stays as it is. -/
theorem IsJson.ofJson_toJson {d : Detail} (h : d.IsJson) : ofJson d.toJson = d := by
  induction h with
  | null | bool _ | int _ | float _ | str _ => rfl
  | @list ds _ ih =>
      rw [toJson_list, ofJson_arr, List.map_map]
      exact congrArg Detail.list ((List.map_congr_left ih).trans (List.map_id ds))
  | @map es names hkeys honce _ ih =>
      have hshown : es.map (fun e => shown e.1) = names := by
        have hread : (es.map Prod.fst).map shown = (names.map Detail.str).map shown :=
          congrArg _ hkeys
        rw [List.map_map, List.map_map] at hread
        exact hread.trans (List.map_id names)
      rw [toJson_map_of_nodup hshown honce, ofJson_obj, List.map_map]
      refine congrArg Detail.map ((List.map_congr_left fun e he => ?_).trans (List.map_id es))
      obtain ⟨name, -, hname⟩ := List.mem_map.mp (hkeys ▸ List.mem_map_of_mem he)
      have hkey : Detail.str (shown e.1) = e.1 := by
        rw [← hname]
        rfl
      exact Prod.ext hkey (ih e he)

/-- A detail is its nearest value exactly if it is JSON already. -/
theorem ofJson_toJson_iff (d : Detail) : ofJson d.toJson = d ↔ d.IsJson :=
  ⟨fun h => h ▸ isJson_ofJson (namesOnce_toJson d), IsJson.ofJson_toJson⟩

/-- The nearest value of the nearest value is itself. -/
theorem toJson_ofJson_toJson (d : Detail) : (ofJson d.toJson).toJson = d.toJson :=
  toJson_ofJson (namesOnce_toJson d)

end Syllabus.Service.Detail
