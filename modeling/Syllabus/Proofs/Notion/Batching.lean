/-
  Syllabus.Proofs.Notion.Batching
  ───────────────────────────────
  **TWO WAYS OF CUTTING.**

  What is appended to a page is cut into batches by a size that is brought
  into the range from one to a hundred first.  What the page is created with is
  cut off by the size as it is: above a hundred it lets too much through, zero
  sends nothing along, and below zero it counts from the end of the blocks.

      AgreeOn               the two ways agree on so many blocks
      FirstFits             what is cut off first can be sent
      parcels_eq_batches    a delivery sends the batches exactly if they agree,
      parcels_fit           and nothing else than it may exactly if the first fits
      deliver_batches       the run of a delivery, whatever the batch size
-/
import Syllabus.Proofs.Notion.Delivery

namespace Syllabus.Notion

/-! ## §1. Cutting. -/

variable {α : Type}

theorem batchLimit_pos (size : Int) : 1 ≤ batchLimit size := by
  unfold batchLimit
  omega

theorem batchLimit_le (size : Int) : batchLimit size ≤ maxBatchSize := by
  unfold batchLimit maxBatchSize
  omega

theorem batches_eq_cons (size : Int) {xs : List α} (h : xs ≠ []) :
    batches size xs = xs.take (batchLimit size) :: batches size (xs.drop (batchLimit size)) :=
  Block.chunks_eq_cons (batchLimit_pos size) h

theorem cutList_eq (index : Int) (xs : List α) :
    cutList index xs = (xs.take (cutIndex xs.length index), xs.drop (cutIndex xs.length index)) :=
  List.splitAt_eq

/-- No batch is empty or too large. -/
theorem mem_batches {size : Int} {xs batch : List α} (h : batch ∈ batches size xs) :
    1 ≤ batch.length ∧ batch.length ≤ maxBatchSize := by
  obtain ⟨hne, hlength⟩ := Block.mem_chunks (batchLimit_pos size) h
  exact ⟨List.length_pos_iff.mpr hne, hlength.trans (batchLimit_le size)⟩

/-- Of so many blocks a size cuts off as many as it would after it is brought into range. -/
def AgreeOn (size : Int) (count : Nat) : Prop :=
  (1 ≤ size ∧ (size ≤ maxBatchSize ∨ count ≤ maxBatchSize)) ∨ (size < 0 ∧ size + count = 1)

/-- Of so many blocks a size cuts off as many as a request may bring, and at least one. -/
def FirstFits (size : Int) (count : Nat) : Prop :=
  (1 ≤ size ∧ (size ≤ maxBatchSize ∨ count ≤ maxBatchSize))
    ∨ (size < 0 ∧ 1 ≤ size + count ∧ size + count ≤ maxBatchSize)

theorem agreeOn_iff (size : Int) {count : Nat} (h : 1 ≤ count) :
    AgreeOn size count ↔ min (cutIndex count size) count = min (batchLimit size) count := by
  unfold AgreeOn cutIndex batchLimit maxBatchSize
  by_cases hneg : size < 0
  · -- Counted from the end; the size in range is one.
    rw [if_pos hneg]
    omega
  · rw [if_neg hneg]
    omega

theorem firstFits_iff (size : Int) {count : Nat} (h : 1 ≤ count) :
    FirstFits size count
      ↔ 1 ≤ min (cutIndex count size) count ∧ min (cutIndex count size) count ≤ maxBatchSize := by
  unfold FirstFits cutIndex maxBatchSize
  by_cases hneg : size < 0
  · rw [if_pos hneg]
    omega
  · rw [if_neg hneg]
    omega

/-- Where the ways agree, what is cut off first fits. -/
theorem AgreeOn.firstFits {size : Int} {count : Nat} (h : AgreeOn size count) :
    FirstFits size count := by
  rcases h with h | ⟨hneg, hone⟩
  · exact .inl h
  · exact .inr ⟨hneg, by omega, by unfold maxBatchSize; omega⟩

namespace Client

variable (client : Client) {xs : List α}

/-- What a delivery sends are the batches exactly if the two ways of cutting agree. -/
theorem parcels_eq_batches (h : xs ≠ []) :
    client.parcels xs = batches client.batchSize xs ↔ AgreeOn client.batchSize xs.length := by
  have hcount : 1 ≤ xs.length := List.length_pos_iff.mpr h
  rw [agreeOn_iff client.batchSize hcount, parcels, cutList_eq, batches_eq_cons _ h, List.cons.injEq]
  constructor
  · intro hparts
    have hfirst := congrArg List.length hparts.1
    rw [List.length_take, List.length_take] at hfirst
    exact hfirst
  · intro hmin
    have htake : xs.take (cutIndex xs.length client.batchSize)
        = xs.take (batchLimit client.batchSize) := by
      rw [List.take_eq_take_min, hmin, ← List.take_eq_take_min]
    -- Both ways lose no block, so behind the same first parcel the same blocks are left.
    have hdrop : xs.drop (cutIndex xs.length client.batchSize)
        = xs.drop (batchLimit client.batchSize) := by
      have hwhole := List.take_append_drop (cutIndex xs.length client.batchSize) xs
      rw [htake] at hwhole
      exact List.append_cancel_left
        (hwhole.trans (List.take_append_drop (batchLimit client.batchSize) xs).symm)
    exact ⟨htake, congrArg _ hdrop⟩

/-- Every request of a delivery brings what it may exactly if what is cut off first fits. -/
theorem parcels_fit (h : xs ≠ []) :
    (∀ parcel ∈ client.parcels xs, 1 ≤ parcel.length ∧ parcel.length ≤ maxBatchSize)
      ↔ FirstFits client.batchSize xs.length := by
  have hcount : 1 ≤ xs.length := List.length_pos_iff.mpr h
  rw [firstFits_iff client.batchSize hcount, parcels, List.forall_mem_cons, cutList_eq,
    List.length_take]
  exact and_iff_left fun batch hbatch => mem_batches hbatch

end Client

/-! ## §2. What a delivery sends. -/

/-- **WHAT A DELIVERY SENDS, WHATEVER THE BATCH SIZE.**

The page is created with the first parcel of the blocks and the others are appended, until a request
fails.  If none fails, and nothing else is in the way, all parcels are sent.  They are the batches of
the blocks exactly if both ways of cutting agree; and each of them has at least one block and at most
as many as the remote side takes exactly if the first one does. -/
theorem deliver_batches (c : Connection) (course : Course) {blocks : List Json}
    (hblocks : blocks ≠ []) :
    ∃ r sent fault, Session.Ends (c.deliver course blocks) [] r sent ∧ c.Ships blocks sent fault
      ∧ ((∀ o ∈ c.outcomes [] sent, ∃ v, o = .ok v) →
          (∃ d, r = .ok d ∧ sent.map Request.children = c.client.parcels blocks
            ∧ (sent.map Request.children = batches c.client.batchSize blocks
                ↔ AgreeOn c.client.batchSize blocks.length)
            ∧ ((∀ q ∈ sent, 1 ≤ q.children.length ∧ q.children.length ≤ maxBatchSize)
                ↔ FirstFits c.client.batchSize blocks.length))
          ∨ ∃ e, r = .error e ∧ c.Hindered blocks sent e) := by
  obtain ⟨r, sent, fault, hends, hships, hsettled⟩ := c.deliver_ships course blocks
  refine ⟨r, sent, fault, hends, hships, ?_⟩
  intro hall
  have hnone := hships.answered.fault_eq_none hall
  cases hsettled with
  | failed e => cases hnone
  | withheld he => exact .inr ⟨_, rfl, he⟩
  | complete hdone =>
      have hchildren : sent.map Request.children = c.client.parcels blocks := by
        rw [hships.children, hdone.2, List.take_length]
      refine .inl ⟨_, rfl, hchildren, ?_, ?_⟩
      · rw [hchildren]
        exact c.client.parcels_eq_batches hblocks
      · rw [← c.client.parcels_fit hblocks, ← hchildren, List.forall_mem_map]

/-- Five blocks, two at a time. -/
theorem deliver_batches_of_two :
    let client : Client :=
      { token := "ntn_1", base := ⟨"https://api.notion.com".toList, "/v1/".toList⟩,
        version := interfaceVersion, timeout := Decimal.scaled false 30 0, batchSize := 2 }
    let c : Connection := ⟨client, fun _ _ => .answer 200 (.ok (.obj [("id", .str "p1")])), 1⟩
    let blocks := [1, 2, 3, 4, 5].map Json.nat
    let run := (c.deliver { title := "Course", parentId := "p0" } blocks).run.run {}
    run.2.requests.map Request.children = batches 2 blocks
      ∧ ∀ q ∈ run.2.requests, 1 ≤ q.children.length ∧ q.children.length ≤ maxBatchSize := by
  intro client c blocks run
  have hblocks : blocks ≠ [] := by decide
  obtain ⟨r, sent, fault, hends, -, hsent⟩ :=
    deliver_batches c { title := "Course", parentId := "p0" } hblocks
  obtain ⟨hresult, rfl⟩ := hends.of_run (Prod.eta run).symm
  have hall : ∀ o ∈ c.outcomes [] run.2.requests, ∃ v, o = .ok v := by
    have hok : ∀ o ∈ c.outcomes [] run.2.requests, o.isOk = true := by decide +kernel
    intro o ho
    cases o with
    | ok v => exact ⟨v, rfl⟩
    | error e => cases hok _ ho
  have hdone : run.1.isOk = true := by decide +kernel
  rcases hsent hall with ⟨d, -, -, hbatches, hfits⟩ | ⟨e, he, -⟩
  · have hsize : AgreeOn 2 5 := .inl (by decide)
    exact ⟨hbatches.mpr hsize, hfits.mpr hsize.firstFits⟩
  · rw [hresult, he] at hdone
    cases hdone

/-- A hundred and one blocks, a hundred and one at a time: they are all in the request that creates
the page. -/
theorem deliver_batches_too_large :
    let client : Client :=
      { token := "ntn_1", base := ⟨"https://api.notion.com".toList, "/v1/".toList⟩,
        version := interfaceVersion, timeout := Decimal.scaled false 30 0, batchSize := 101 }
    let c : Connection := ⟨client, fun _ _ => .answer 200 (.ok (.obj [("id", .str "p1")])), 1⟩
    let blocks := (List.range 101).map fun i => .obj [("type", .str "divider"), ("n", .nat i)]
    let run := (c.deliver { title := "Course", parentId := "p0" } blocks).run.run {}
    (∀ o ∈ c.outcomes [] run.2.requests, o.isOk = true)
      ∧ (run.2.requests.map fun q => q.children.length) = [101]
      ∧ (batches 101 blocks).map List.length = [100, 1]
      ∧ run.2.requests.map Request.children ≠ batches 101 blocks := by
  decide +kernel

end Syllabus.Notion
