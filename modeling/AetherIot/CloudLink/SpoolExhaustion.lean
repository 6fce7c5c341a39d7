import AetherIot.CloudLink.SpoolInvariant

/-!
# A run that exhausts its positions

A spool with a single slot takes alternating batches until the position counter reaches its last
value.  The next batch is then an exhausted eviction.
-/

namespace AetherIot.CloudLink

open MachineText OrderedMap GuardedRun

namespace CloudLinkSpoolState

variable {state : CloudLinkSpoolState}

/-- A fresh spool that retains a single record. -/
def singleSlot : CloudLinkSpoolState where
  streamId := "telemetry"
  streamEpoch := 1
  nextPosition := 1
  capacity := 1
  records := ∅
  lastAck := none
  lastAcknowledgedPosition := 0
  dataLoss := none

theorem new_singleSlot : new "telemetry" 1 = .ok singleSlot := by
  decide

/-- Valid content whose batch identity differs from that of its predecessor. -/
def alternatingBatch (count : Nat) : CloudLinkEnqueue where
  messageKind := .telemetryBatch
  batchId := if count % 2 = 0 then "even" else "odd"
  digest := "sha256:0000000000000000000000000000000000000000000000000000000000000000"
  payload := [0x7b, 0x7d]
  createdAt := 0
  expiresAt := none

/-- The first `count` alternating batches, enqueued in order. -/
def alternatingRun (count : Nat) : List SpoolOperation :=
  (List.range count).map fun index => .enqueue (alternatingBatch index)

theorem alternatingRun_succ (count : Nat) :
    alternatingRun (count + 1) = alternatingRun count ++ [.enqueue (alternatingBatch count)] := by
  simp [alternatingRun, List.range_succ]

theorem alternatingBatch_valid (count : Nat) : validateEnqueue (alternatingBatch count) = .ok () := by
  rcases Nat.mod_two_eq_zero_or_one count with even | odd
  · simp only [alternatingBatch, even]
    decide
  · simp only [alternatingBatch, odd]
    decide

theorem alternatingBatch_succ_ne (count : Nat) :
    (alternatingBatch count).batchId ≠ (alternatingBatch (count + 1)).batchId := by
  rcases Nat.mod_two_eq_zero_or_one count with even | odd
  · have next : (count + 1) % 2 = 1 := by omega
    simp [alternatingBatch, even, next]
  · have next : (count + 1) % 2 = 0 := by omega
    simp [alternatingBatch, odd, next]

/-- The single slot is taken by batch `count`, stored at position `count + 1`. -/
structure SlotTaken (state : CloudLinkSpoolState) (count : Nat) : Prop where
  capacity : state.capacity = 1
  next : state.nextPosition.toNat = count + 2
  slot : ∃ (position : UInt64) (record : CloudLinkRecord),
    state.records = (∅ : BTreeMap UInt64 CloudLinkRecord).insert position record ∧
      record.batchId = (alternatingBatch count).batchId

namespace SlotTaken

variable {count : Nat}

section

variable (taken : state.SlotTaken count)

include taken

theorem full : state.records.size = state.capacity.toNat := by
  obtain ⟨_, _, single, -⟩ := taken.slot
  rw [single, taken.capacity, Std.ExtTreeMap.size_insert]
  simp

theorem fresh : state.FreshBatch (alternatingBatch (count + 1)) := by
  obtain ⟨_, record, single, batch⟩ := taken.slot
  intro _ retained found
  rw [single] at found
  have same : retained = record := by grind
  rw [same, batch]
  exact alternatingBatch_succ_ne count

theorem oldest : ∃ position, firstKey state.records = some position ∧
      state.records.erase position = ∅ := by
  obtain ⟨position, _, single, -⟩ := taken.slot
  refine ⟨position, ?_, ?_⟩
  · rw [single, firstKey_eq_some_iff]
    refine ⟨by grind, fun other member => ?_⟩
    have same : position = other := by grind
    simp [same]
  · rw [single]
    apply Std.ExtTreeMap.ext_getElem?
    intro _
    grind

theorem step (room : count + 3 < 2 ^ 64) :
    (state.step (.enqueue (alternatingBatch (count + 1)))).SlotTaken (count + 1) := by
  obtain ⟨position, oldest, vacated⟩ := taken.oldest
  have successor : (state.nextPosition + 1).toNat = state.nextPosition.toNat + 1 := by
    have := taken.next
    rw [UInt64.toNat_add]
    exact Nat.mod_eq_of_lt (by simp; omega)
  have increasing : state.nextPosition < state.nextPosition + 1 := by
    rw [UInt64.lt_iff_toNat_lt]
    omega
  simp only [CloudLinkSpoolState.step, perform]
  rw [enqueue_displaced (alternatingBatch_valid (count + 1)) taken.fresh oldest
    ⟨increasing, rfl⟩ taken.full]
  refine ⟨taken.capacity, successor.trans (by rw [taken.next]), state.nextPosition,
    state.nextRecord (alternatingBatch (count + 1)), ?_, rfl⟩
  · change (state.records.erase position).insert _ _ = _
    rw [vacated]
    rfl

end

end SlotTaken

theorem slotTaken_alternatingRun (count : Nat) (room : count + 2 < 2 ^ 64) :
    (run step singleSlot (alternatingRun (count + 1))).SlotTaken count := by
  induction count with
  | zero => exact ⟨rfl, rfl, 1, _, rfl, rfl⟩
  | succ _ ih =>
    rw [alternatingRun_succ, run_snoc]
    exact (ih (by omega)).step room

theorem wellFormed_alternatingRun (count : Nat) (room : count + 1 < 2 ^ 64) :
    (run step singleSlot (alternatingRun count)).WellFormed := by
  induction count with
  | zero => exact new_wellFormed new_singleSlot
  | succ count ih =>
    have before := ih (by omega)
    rw [alternatingRun_succ, run_snoc]
    refine before.step fun exhausts => ?_
    have overflow := exhausts.2.2.2
    cases count with
    | zero => simp [alternatingRun, singleSlot] at overflow
    | succ count =>
      rw [(slotTaken_alternatingRun count (by omega)).next] at overflow
      omega

/-- The alternating run splits before a call that is an exhausted eviction. -/
theorem alternatingRun_exhausts :
    ∃ front operation, alternatingRun (2 ^ 64 - 1) = front ++ [operation] ∧
      (run step singleSlot front).WellFormed ∧
      (run step singleSlot front).Exhausts operation := by
  have taken := slotTaken_alternatingRun (2 ^ 64 - 3) (by norm_num)
  refine ⟨alternatingRun (2 ^ 64 - 3 + 1), .enqueue (alternatingBatch (2 ^ 64 - 3 + 1)), ?_,
    wellFormed_alternatingRun _ (by norm_num), ?_⟩
  · rw [← alternatingRun_succ]
    norm_num
  · refine ⟨alternatingBatch_valid _, taken.fresh, taken.full, ?_⟩
    rw [taken.next]
    norm_num

end CloudLinkSpoolState

end AetherIot.CloudLink
