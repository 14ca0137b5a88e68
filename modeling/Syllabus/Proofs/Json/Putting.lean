/-
  Syllabus.Proofs.Json.Putting
  ────────────────────────────
  **ANOTHER VALUE AT THE END OF A PATH.**

  A path that can be followed leads to a place in a value, and something else
  can be put there.  Everything that does not go through this place stays as
  it is: the other members of an object, the other items of an array.

      Json.modifyMember   members with the value under a name changed
      Json.put            a value with something else at the end of a path
      put_append          a path is followed in two parts
      put_self            nothing is changed by what is there already
      at?_put_of_apart    places outside of each other do not depend on each other
      namesOnce_put       no object repeats a name if none does in both
-/
import Syllabus.Proofs.Json.Names
import Syllabus.Proofs.Json.Places

namespace Syllabus.Json

/-! ## §1. One member. -/

/-- Members with the value under a name changed, if there is one. -/
def modifyMember (name : String) (f : Json → Json) : List (String × Json) → List (String × Json)
  | [] => []
  | (k, v) :: rest => if k = name then (k, f v) :: rest else (k, v) :: modifyMember name f rest

section Members

variable {name : String} {f : Json → Json}

theorem modifyMember_cons_self (name : String) (f : Json → Json) (v : Json)
    (ms : List (String × Json)) :
    modifyMember name f ((name, v) :: ms) = (name, f v) :: ms := if_pos rfl

theorem modifyMember_cons_of_ne {key : String} (h : key ≠ name) (f : Json → Json) (v : Json)
    (ms : List (String × Json)) :
    modifyMember name f ((key, v) :: ms) = (key, v) :: modifyMember name f ms := if_neg h

theorem lookup_modifyMember (name : String) (f : Json → Json) (ms : List (String × Json)) :
    lookup name (modifyMember name f ms) = (lookup name ms).map f := by
  induction ms with
  | nil => rfl
  | cons m ms ih =>
      obtain ⟨k, v⟩ := m
      unfold modifyMember
      by_cases hk : k = name
      · rw [if_pos hk, lookup, lookup, if_pos hk, if_pos hk]
        rfl
      · rw [if_neg hk, lookup, lookup, if_neg hk, if_neg hk]
        exact ih

theorem lookup_modifyMember_of_ne {other : String} (h : other ≠ name) (ms : List (String × Json)) :
    lookup other (modifyMember name f ms) = lookup other ms := by
  induction ms with
  | nil => rfl
  | cons m ms ih =>
      obtain ⟨k, v⟩ := m
      unfold modifyMember
      by_cases hk : k = name
      · rw [if_pos hk, lookup, lookup, if_neg (hk.trans_ne h.symm), if_neg (hk.trans_ne h.symm)]
      · rw [if_neg hk, lookup, lookup, ih]

/-- Only what a change makes of the value that is there counts. -/
theorem modifyMember_congr {g : Json → Json} {ms : List (String × Json)}
    (h : ∀ v, lookup name ms = some v → f v = g v) :
    modifyMember name f ms = modifyMember name g ms := by
  induction ms with
  | nil => rfl
  | cons m ms ih =>
      obtain ⟨k, v⟩ := m
      unfold modifyMember
      by_cases hk : k = name
      · rw [if_pos hk, if_pos hk, h v (if_pos hk)]
      · rw [if_neg hk, if_neg hk, ih fun w hw => h w ((if_neg hk).trans hw)]

theorem modifyMember_id (name : String) (ms : List (String × Json)) :
    modifyMember name id ms = ms := by
  induction ms with
  | nil => rfl
  | cons m ms ih =>
      obtain ⟨k, v⟩ := m
      unfold modifyMember
      rw [ih]
      exact ite_self _

/-- What does not see the change of a member sees none. -/
theorem map_modifyMember {g : String → Json → Json} (h : ∀ v, g name (f v) = g name v)
    (ms : List (String × Json)) :
    (modifyMember name f ms).map (fun (k, v) => (k, g k v)) = ms.map fun (k, v) => (k, g k v) := by
  induction ms with
  | nil => rfl
  | cons m ms ih =>
      obtain ⟨k, v⟩ := m
      unfold modifyMember
      by_cases hk : k = name
      · subst hk
        rw [if_pos rfl]
        show (k, g k (f v)) :: _ = (k, g k v) :: _
        rw [h]
      · rw [if_neg hk, List.map_cons, List.map_cons, ih]

/-- Nor does what leaves the member out. -/
theorem filter_modifyMember (ms : List (String × Json)) :
    (modifyMember name f ms).filter (fun m => m.1 ≠ name) = ms.filter fun m => m.1 ≠ name := by
  induction ms with
  | nil => rfl
  | cons m ms ih =>
      obtain ⟨k, v⟩ := m
      unfold modifyMember
      by_cases hk : k = name
      · rw [if_pos hk, List.filter_cons_of_neg (by simpa using hk),
          List.filter_cons_of_neg (by simpa using hk)]
      · rw [if_neg hk, List.filter_cons_of_pos (by simpa using hk),
          List.filter_cons_of_pos (by simpa using hk), ih]

end Members

/-! ## §2. At the end of a path. -/

/-- A value with another one in the place that a path leads to.  A path that cannot be followed
changes nothing. -/
def put : Json → Path → Json → Json
  | _, [], new => new
  | .obj ms, .key name :: rest, new => .obj (modifyMember name (fun v => v.put rest new) ms)
  | .arr vs, .index i :: rest, new => .arr (vs.modify i fun v => v.put rest new)
  | v, _ :: _, _ => v

@[simp] theorem put_nil (v new : Json) : v.put [] new = new := by
  cases v <;> rfl

variable {v w : Json} {p q : Path}

/-- What a longer path leads to is behind what its beginning leads to. -/
theorem at?_append_iff : v.at? (p ++ q) = some w ↔ ∃ u, v.at? p = some u ∧ u.at? q = some w := by
  constructor
  · intro h
    induction p generalizing v with
    | nil => exact ⟨v, rfl, h⟩
    | cons step p ih =>
        obtain ⟨u, hstep, hrest⟩ := Option.bind_eq_some_iff.mp h
        obtain ⟨x, hx, hq⟩ := ih hrest
        refine ⟨x, ?_, hq⟩
        show (step.follow? v).bind (fun w => w.at? p) = some x
        rw [hstep]
        exact hx
  · rintro ⟨u, hu, hq⟩
    rw [at?_append hu, hq]

theorem at?_key {name : String} (h : v.at? (.key name :: p) = some w) :
    ∃ ms u, v = .obj ms ∧ lookup name ms = some u ∧ u.at? p = some w := by
  obtain ⟨u, hstep, hrest⟩ := Option.bind_eq_some_iff.mp h
  cases v with
  | obj ms => exact ⟨ms, u, rfl, hstep, hrest⟩
  | _ => cases hstep

theorem at?_index {i : Nat} (h : v.at? (.index i :: p) = some w) :
    ∃ vs u, v = .arr vs ∧ vs[i]? = some u ∧ u.at? p = some w := by
  obtain ⟨u, hstep, hrest⟩ := Option.bind_eq_some_iff.mp h
  cases v with
  | arr vs => exact ⟨vs, u, rfl, hstep, hrest⟩
  | _ => cases hstep

theorem modify_congr {f g : Json → Json} {vs : List Json} {i : Nat}
    (h : ∀ v, vs[i]? = some v → f v = g v) : vs.modify i f = vs.modify i g := by
  refine List.ext_getElem? fun k => ?_
  rw [List.getElem?_modify, List.getElem?_modify]
  refine Option.map_congr fun v hv => ?_
  by_cases hk : i = k
  · subst hk
    rw [if_pos rfl, if_pos rfl, h v hv]
  · rw [if_neg hk, if_neg hk]

/-- To put something behind a place is to put it into what is there. -/
theorem put_append (h : v.at? p = some w) (q : Path) (new : Json) :
    v.put (p ++ q) new = v.put p (w.put q new) := by
  induction p generalizing v with
  | nil =>
      cases h
      exact (put_nil w _).symm
  | cons step p ih =>
      cases step with
      | key name =>
          obtain ⟨ms, u, rfl, hu, hrest⟩ := at?_key h
          refine congrArg Json.obj (modifyMember_congr fun x hx => ?_)
          cases hu.symm.trans hx
          exact ih hrest
      | index i =>
          obtain ⟨vs, u, rfl, hu, hrest⟩ := at?_index h
          refine congrArg Json.arr (modify_congr fun x hx => ?_)
          cases hu.symm.trans hx
          exact ih hrest

/-- Nothing is changed by what is there already. -/
theorem put_self (h : v.at? p = some w) : v.put p w = v := by
  induction p generalizing v with
  | nil =>
      exact (put_nil v w).trans (Option.some.inj h).symm
  | cons step p ih =>
      cases step with
      | key name =>
          obtain ⟨ms, u, rfl, hu, hrest⟩ := at?_key h
          show Json.obj (modifyMember name (fun x => x.put p w) ms) = .obj ms
          rw [modifyMember_congr (g := id), modifyMember_id]
          intro x hx
          cases hu.symm.trans hx
          exact ih hrest
      | index i =>
          obtain ⟨vs, u, rfl, hu, hrest⟩ := at?_index h
          show Json.arr (vs.modify i fun x => x.put p w) = .arr vs
          rw [modify_congr (g := id), List.modify_id]
          intro x hx
          cases hu.symm.trans hx
          exact ih hrest

/-- What a step leads to after something was put behind a step. -/
theorem follow?_put (v : Json) (step other : Step) (p : Path) (new : Json) :
    other.follow? (v.put (step :: p) new)
      = if other = step then (step.follow? v).map fun w => w.put p new else other.follow? v := by
  by_cases h : other = step
  · subst h
    rw [if_pos rfl]
    cases other with
    | key name =>
        cases v with
        | obj ms => exact lookup_modifyMember name _ ms
        | _ => rfl
    | index i =>
        cases v with
        | arr vs =>
            exact List.getElem?_modify_eq ..
        | _ => rfl
  · rw [if_neg h]
    cases step with
    | key name =>
        cases v with
        | obj ms =>
            cases other with
            | key other => exact lookup_modifyMember_of_ne (fun heq => h (congrArg Step.key heq)) ms
            | index i => rfl
        | _ => rfl
    | index i =>
        cases v with
        | arr vs =>
            cases other with
            | key name => rfl
            | index k => exact List.getElem?_modify_ne _ vs fun heq => h (congrArg Step.index heq.symm)
        | _ => rfl

/-- Two places that do not contain each other are of no consequence to each other. -/
theorem at?_put_of_apart {v new : Json} (h : ¬ p <+: q) (h' : ¬ q <+: p) :
    (v.put p new).at? q = v.at? q := by
  induction p generalizing v q with
  | nil => exact absurd List.nil_prefix h
  | cons step p ih =>
      cases q with
      | nil => exact absurd List.nil_prefix h'
      | cons other q =>
          show (other.follow? (v.put (step :: p) new)).bind (fun w => w.at? q)
            = (other.follow? v).bind fun w => w.at? q
          rw [follow?_put]
          by_cases hstep : other = step
          · subst hstep
            rw [List.cons_prefix_cons] at h h'
            rw [if_pos rfl]
            cases other.follow? v with
            | none => rfl
            | some w => exact ih (fun hpq => h ⟨rfl, hpq⟩) fun hqp => h' ⟨rfl, hqp⟩
          · rw [if_neg hstep]

theorem at?_put_self {v w : Json} (h : v.at? p = some w) (new : Json) :
    (v.put p new).at? p = some new := by
  induction p generalizing v with
  | nil =>
      rw [put_nil]
      rfl
  | cons step p ih =>
      obtain ⟨u, hstep, hrest⟩ := Option.bind_eq_some_iff.mp h
      show (step.follow? (v.put (step :: p) new)).bind (fun w => w.at? p) = some new
      rw [follow?_put, if_pos rfl, hstep]
      exact ih hrest

/-! ## §3. Members after something was put. -/

theorem member_put_of_ne {name other : String} (h : other ≠ name) (v : Json) (p : Path)
    (new : Json) : (v.put (.key name :: p) new).member other = v.member other := by
  cases v with
  | obj ms => exact congrArg (fun w => w.getD null) (lookup_modifyMember_of_ne h ms)
  | _ => rfl

/-- The items of a member after something was put into one of them. -/
theorem items_member_put (v : Json) (name : String) (i : Nat) (p : Path) (new : Json) :
    ((v.put (.key name :: .index i :: p) new).member name).items
      = (v.member name).items.modify i fun w => w.put p new := by
  have hitems : ∀ w : Json, (w.put (.index i :: p) new).items
      = w.items.modify i fun u => u.put p new := by
    intro w
    cases w with
    | arr vs => rfl
    | _ => exact (List.modify_nil _ _).symm
  cases v with
  | obj ms =>
      show ((lookup name (modifyMember name (fun w => w.put (.index i :: p) new) ms)).getD null).items
        = ((lookup name ms).getD null).items.modify i _
      rw [lookup_modifyMember]
      cases lookup name ms with
      | none => exact (List.modify_nil _ _).symm
      | some w => exact hitems w
  | _ => exact (List.modify_nil _ _).symm

/-- An item of a member is found after another value was put into it. -/
theorem at?_item {v w : Json} {name : String} {i : Nat} {p : Path}
    (h : v.at? (.key name :: .index i :: p) = some w) :
    ∃ u, (v.member name).items[i]? = some u ∧ u.at? p = some w := by
  obtain ⟨ms, x, rfl, hx, hrest⟩ := at?_key h
  obtain ⟨vs, u, rfl, hu, hp⟩ := at?_index hrest
  refine ⟨u, ?_, hp⟩
  show (((lookup name ms).getD null).items)[i]? = some u
  rw [hx]
  exact hu

/-! ## §4. Names after something was put. -/

theorem namesOnce_at? (hv : v.namesOnce = true) (h : v.at? p = some w) : w.namesOnce = true := by
  induction p generalizing v with
  | nil =>
      cases h
      exact hv
  | cons step p ih =>
      cases step with
      | key name =>
          obtain ⟨ms, u, rfl, hu, hrest⟩ := at?_key h
          exact ih (namesOnce_lookup ((namesOnce_obj ms).mp hv).2 hu) hrest
      | index i =>
          obtain ⟨vs, u, rfl, hu, hrest⟩ := at?_index h
          exact ih ((namesOnce_arr vs).mp hv u (List.mem_of_getElem? hu)) hrest

theorem map_fst_modifyMember (name : String) (f : Json → Json) (ms : List (String × Json)) :
    (modifyMember name f ms).map Prod.fst = ms.map Prod.fst := by
  induction ms with
  | nil => rfl
  | cons m ms ih =>
      obtain ⟨k, v⟩ := m
      unfold modifyMember
      split
      · rfl
      · rw [List.map_cons, List.map_cons, ih]

theorem namesOnce_modifyMember {f : Json → Json} (hf : ∀ v, v.namesOnce = true → (f v).namesOnce = true)
    (name : String) {ms : List (String × Json)} (h : (Json.obj ms).namesOnce = true) :
    (Json.obj (modifyMember name f ms)).namesOnce = true := by
  obtain ⟨hnodup, hvalues⟩ := (namesOnce_obj ms).mp h
  refine (namesOnce_obj _).mpr ⟨by rw [map_fst_modifyMember]; exact hnodup, ?_⟩
  clear h hnodup
  induction ms with
  | nil => exact hvalues
  | cons m ms ih =>
      obtain ⟨k, v⟩ := m
      rw [List.forall_mem_cons] at hvalues
      unfold modifyMember
      split
      · exact List.forall_mem_cons.mpr ⟨hf v hvalues.1, hvalues.2⟩
      · exact List.forall_mem_cons.mpr ⟨hvalues.1, ih hvalues.2⟩

/-- No object repeats a name if none does in the value and in what is put into it. -/
theorem namesOnce_put {new : Json} (hnew : new.namesOnce = true) (p : Path) :
    ∀ {v : Json}, v.namesOnce = true → (v.put p new).namesOnce = true := by
  induction p with
  | nil =>
      intro v _
      rw [put_nil]
      exact hnew
  | cons step p ih =>
      intro v hv
      cases step with
      | key name =>
          cases v with
          | obj ms => exact namesOnce_modifyMember (fun w hw => ih hw) name hv
          | _ => exact hv
      | index i =>
          cases v with
          | arr vs =>
              refine (namesOnce_arr _).mpr fun w hw => ?_
              obtain ⟨k, hk⟩ := List.mem_iff_getElem?.mp hw
              rw [List.getElem?_modify] at hk
              obtain ⟨u, hu, rfl⟩ := Option.map_eq_some_iff.mp hk
              have hold := (namesOnce_arr vs).mp hv u (List.mem_of_getElem? hu)
              split
              · exact ih hold
              · exact hold
          | _ => exact hv

end Syllabus.Json
