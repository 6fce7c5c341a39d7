import AetherIot.CloudLink.SpoolState
import AetherIot.Foundation.GuardedRun

/-!
# Well-formed spool states

The effect of each spool operation is classified once.  Every successful operation preserves the
well-formedness of the state; a failing operation leaves the state alone, except for the one
enqueue that evicts a record and then finds the position counter exhausted.
-/

namespace AetherIot.CloudLink

open MachineText OrderedMap GuardedRun

namespace CloudLinkSpoolState

variable {state : CloudLinkSpoolState} {input : CloudLinkEnqueue}

section

variable (state)

section

variable (input)

/-- No retained record carries the batch identity of `input`. -/
def FreshBatch : Prop :=
  ∀ (position : UInt64) (record : CloudLinkRecord),
    state.records[position]? = some record → record.batchId ≠ input.batchId

/-- A new batch is offered to a full spool whose position counter is exhausted. -/
def ExhaustedEviction : Prop :=
  validateEnqueue input = .ok () ∧ state.FreshBatch input ∧
    state.records.size = state.capacity.toNat ∧ state.nextPosition.toNat + 1 = 2 ^ 64

/-- The record stored for `input` at the next position. -/
def nextRecord : CloudLinkRecord :=
  .fromEnqueue ⟨state.streamId, state.streamEpoch, state.nextPosition⟩ input

end

/-- The state after storing `input` at the next position. -/
def stored (nextPosition : UInt64) (input : CloudLinkEnqueue) : CloudLinkSpoolState :=
  { state with
    nextPosition
    records := state.records.insert state.nextPosition (state.nextRecord input) }

/-- The state after removing the record at `position`. -/
def evict (position : UInt64) : CloudLinkSpoolState :=
  { state with records := state.records.erase position }

/-- The state after `position` was evicted to make room for `input`. -/
def displaced (position nextPosition : UInt64) (input : CloudLinkEnqueue) : CloudLinkSpoolState :=
  let after := (state.evict position).stored nextPosition input
  { after with dataLoss := some (after.overflowEvidence position input.createdAt) }

/-- Everything an enqueue can do. -/
inductive EnqueueEffect (input : CloudLinkEnqueue) :
    CloudLinkSpoolState × Except CloudLinkSpoolError CloudLinkRecord → Prop where
  | rejected (failure : CloudLinkSpoolError) : EnqueueEffect input (state, .error failure)
  | repeated {position : UInt64} {existing : CloudLinkRecord}
      (retained : state.records[position]? = some existing)
      (sameBatch : existing.batchId = input.batchId) (sameDigest : existing.digest = input.digest)
      (sameKind : existing.messageKind = input.messageKind)
      (samePayload : existing.payload = input.payload) :
      EnqueueEffect input (state, .ok existing)
  | exhausted {position : UInt64} (failure : CloudLinkSpoolError)
      (stuck : state.ExhaustedEviction input) (oldest : firstKey state.records = some position) :
      EnqueueEffect input (state.evict position, .error failure)
  | appended {nextPosition : UInt64} (valid : validateEnqueue input = .ok ())
      (fresh : state.FreshBatch input) (room : state.records.size ≠ state.capacity.toNat)
      (successor : state.nextPosition < nextPosition ∧ nextPosition = state.nextPosition + 1) :
      EnqueueEffect input (state.stored nextPosition input, .ok (state.nextRecord input))
  | displaced {position nextPosition : UInt64} (valid : validateEnqueue input = .ok ())
      (fresh : state.FreshBatch input) (full : state.records.size = state.capacity.toNat)
      (oldest : firstKey state.records = some position)
      (successor : state.nextPosition < nextPosition ∧ nextPosition = state.nextPosition + 1) :
      EnqueueEffect input
        (state.displaced position nextPosition input, .ok (state.nextRecord input))

end

theorem freshBatch_iff : state.FreshBatch input ↔
      ((valueList state.records).find? fun record => record.batchId == input.batchId) = none := by
  rw [valueList_find?_eq_none]
  simp [FreshBatch]

theorem enqueue_effect (state : CloudLinkSpoolState) (input : CloudLinkEnqueue) :
    EnqueueEffect state input (state.enqueue input) := by
  unfold enqueue
  cases valid : validateEnqueue input with
  | error failure => exact .rejected failure
  | ok =>
    simp only
    split
    · rename_i found
      obtain ⟨same, _, retained⟩ := of_valueList_find?_eq_some found
      split
      · rename_i equal
        exact .repeated retained (by simpa using same) equal.1 equal.2.1 equal.2.2
      · exact .rejected _
    · rename_i absent
      have fresh : state.FreshBatch input := freshBatch_iff.mpr absent
      split
      · rename_i full
        split
        · exact .rejected _
        · rename_i oldest
          unfold allocate
          simp only
          split
          · rename_i overflow
            exact .exhausted _ ⟨valid, fresh, full, checkedAdd_one_eq_none.mp overflow⟩ oldest
          · rename_i room
            exact .displaced valid fresh full oldest (checkedAdd_one_eq_some.mp room)
      · rename_i room
        unfold allocate
        split
        · exact .rejected _
        · rename_i successor
          exact .appended valid fresh room (checkedAdd_one_eq_some.mp successor)

variable {nextPosition position : UInt64} {streamId : String} {operation : SpoolOperation}
  (valid : validateEnqueue input = .ok ()) (fresh : state.FreshBatch input)
  (first : firstKey state.records = some position)
  (successor : state.nextPosition < nextPosition ∧ nextPosition = state.nextPosition + 1)

include valid fresh successor in
theorem enqueue_appended (room : state.records.size ≠ state.capacity.toNat) :
    state.enqueue input = (state.stored nextPosition input, .ok (state.nextRecord input)) := by
  have absent := freshBatch_iff.mp fresh
  have next := checkedAdd_one_eq_some.mpr successor
  simp [enqueue, valid, absent, room, allocate, next, stored, nextRecord]

include valid fresh first successor in
theorem enqueue_displaced (full : state.records.size = state.capacity.toNat) :
    state.enqueue input =
      (state.displaced position nextPosition input, .ok (state.nextRecord input)) := by
  have absent := freshBatch_iff.mp fresh
  have next := checkedAdd_one_eq_some.mpr successor
  simp [enqueue, valid, absent, full, first, allocate, next, displaced, stored, evict, nextRecord]

include first in
/-- A full spool that can no longer allocate a position still evicts its oldest record. -/
theorem enqueue_exhausted (stuck : state.ExhaustedEviction input) :
    (state.enqueue input).1 = state.evict position := by
  obtain ⟨valid, fresh, full, overflow⟩ := stuck
  have absent := freshBatch_iff.mp fresh
  have exhausted := checkedAdd_one_eq_none.mpr overflow
  simp [enqueue, valid, absent, full, first, allocate, exhausted, evict]

/-- Everything a session-bound update of one retained record can do. -/
inductive MarkEffect (state : CloudLinkSpoolState) (identity : CloudLinkRecordIdentity)
    (update : CloudLinkRecord → CloudLinkRecord) :
    CloudLinkSpoolState × Except CloudLinkSpoolError Unit → Prop where
  | rejected (failure : CloudLinkSpoolError) :
      MarkEffect state identity update (state, .error failure)
  | marked {record : CloudLinkRecord}
      (retained : state.records[identity.position]? = some record) :
      MarkEffect state identity update (state.storeRecord identity (update record), .ok ())

theorem recordMut_eq_ok {identity : CloudLinkRecordIdentity} {record : CloudLinkRecord}
    (found : state.recordMut identity = .ok record) :
    state.records[identity.position]? = some record := by
  unfold recordMut at found
  split at found
  · cases found
  · split at found
    · rename_i retained
      cases found
      exact retained
    · cases found

section

variable (state)

section

variable (identity : CloudLinkRecordIdentity) (session : CloudLinkSessionBinding)

theorem markOffered_effect :
    MarkEffect state identity (·.setOffered session) (state.markOffered identity session) := by
  unfold markOffered
  split
  · exact .rejected _
  · split
    · exact .rejected _
    · rename_i found
      exact .marked (recordMut_eq_ok found)

theorem markTransportPublished_effect : MarkEffect state identity (·.setTransportPublished session)
      (state.markTransportPublished identity session) := by
  unfold markTransportPublished
  split
  · exact .rejected _
  · split
    · exact .rejected _
    · rename_i found
      split
      · exact .rejected _
      · exact .marked (recordMut_eq_ok found)

end

section

variable (ack : CloudLinkDurableAck)

/-- The state after an acknowledgement has been applied. -/
def acknowledged : CloudLinkSpoolState :=
  { state with
    records := removeAll state.records (keysThrough state.records ack.acknowledgedPosition)
    lastAcknowledgedPosition := ack.acknowledgedPosition
    lastAck := some ack }

/-- Everything an acknowledgement can do. -/
inductive AcknowledgeEffect :
    CloudLinkSpoolState × Except CloudLinkSpoolError DurableAckOutcome → Prop where
  | rejected (failure : CloudLinkSpoolError) : AcknowledgeEffect (state, .error failure)
  | duplicate (replayed : state.lastAck = some ack) :
      AcknowledgeEffect (state, .ok .duplicate)
  | applied {record : CloudLinkRecord} (stream : ack.streamId = state.streamId)
      (epoch : ack.streamEpoch = state.streamEpoch)
      (advances : state.lastAcknowledgedPosition < ack.acknowledgedPosition)
      (retained : state.records[ack.acknowledgedPosition]? = some record)
      (offered : record.offeredSession = some ack.session)
      (batch : record.batchId = ack.batchId) (digest : record.digest = ack.digest) :
      AcknowledgeEffect (state.acknowledged ack,
          .ok (.applied (keysThrough state.records ack.acknowledgedPosition).length))

end

theorem acknowledge_effect (ack : CloudLinkDurableAck) :
    AcknowledgeEffect state ack (state.acknowledge ack) := by
  unfold acknowledge
  split
  · exact .rejected _
  · split
    · rename_i replayed
      exact .duplicate replayed
    · split
      · exact .rejected _
      · rename_i sameStream
        split
        · exact .rejected _
        · rename_i advances
          split
          · exact .rejected _
          · split
            · exact .rejected _
            · rename_i retained
              split
              · exact .rejected _
              · rename_i offered
                split
                · exact .rejected _
                · rename_i sameContent
                  simp only [not_or, not_not] at sameStream offered sameContent
                  exact .applied sameStream.1 sameStream.2 (UInt64.not_le.mp advances) retained
                    offered sameContent.1 sameContent.2

def rotated (state : CloudLinkSpoolState) (streamEpoch : UInt64) : CloudLinkSpoolState :=
  { state with
    streamEpoch
    nextPosition := 1
    lastAck := none
    lastAcknowledgedPosition := 0
    dataLoss := none }

/-- Everything a rotation can do. -/
inductive RotateEffect (state : CloudLinkSpoolState) :
    CloudLinkSpoolState × Except CloudLinkSpoolError UInt64 → Prop where
  | rejected (failure : CloudLinkSpoolError) : RotateEffect state (state, .error failure)
  | rotated {streamEpoch : UInt64} (vacant : state.records = ∅)
      (successor : state.streamEpoch < streamEpoch) :
      RotateEffect state (state.rotated streamEpoch, .ok streamEpoch)

theorem rotateStreamEpoch_effect : RotateEffect state state.rotateStreamEpoch := by
  unfold rotateStreamEpoch
  split
  · exact .rejected _
  · rename_i vacant
    split
    · exact .rejected _
    · rename_i successor
      refine .rotated ?_ (checkedAdd_one_eq_some.mp successor).1
      rw [← Std.ExtTreeMap.isEmpty_iff, Std.ExtTreeMap.isEmpty_eq_size_beq_zero]
      simpa using vacant

/-- Everything a reconfiguration can do. -/
inductive ValidateOpenEffect (state : CloudLinkSpoolState) (capacity : UInt64) :
    CloudLinkSpoolState × Except CloudLinkSpoolError Bool → Prop where
  | rejected (failure : CloudLinkSpoolError) :
      ValidateOpenEffect state capacity (state, .error failure)
  | resized (positive : capacity ≠ 0) (limited : capacity.toNat ≤ maxSpoolRecords)
      (fits : state.records.size ≤ capacity.toNat) :
      ValidateOpenEffect state capacity ({ state with capacity }, .ok (state.capacity != capacity))

theorem validateOpen_effect (streamId : String) (capacity : UInt64) :
    ValidateOpenEffect state capacity (state.validateOpen streamId capacity) := by
  unfold validateOpen
  split
  · exact .rejected _
  · split
    · exact .rejected _
    · split
      · exact .rejected _
      · rename_i allowed
        simp only [not_or, not_lt, gt_iff_lt] at allowed
        exact .resized allowed.1 allowed.2.1 allowed.2.2

end

/-- Every record is stored under its own identity, is valid, and has its own batch identity. -/
structure RecordsSound (streamId : String) (streamEpoch : UInt64)
    (records : BTreeMap UInt64 CloudLinkRecord) : Prop where
  identified : ∀ (position : UInt64) (record : CloudLinkRecord),
    records[position]? = some record → record.identity = ⟨streamId, streamEpoch, position⟩
  validContent : ∀ (position : UInt64) (record : CloudLinkRecord),
    records[position]? = some record → validateEnqueue record.content = .ok ()
  distinctBatches : ∀ (left right : UInt64) (first second : CloudLinkRecord),
    records[left]? = some first → records[right]? = some second →
      first.batchId = second.batchId → left = right

namespace RecordsSound

variable {streamEpoch : UInt64} {records : BTreeMap UInt64 CloudLinkRecord}

theorem empty (streamId : String) (streamEpoch : UInt64) : RecordsSound streamId streamEpoch ∅ where
  identified := by simp
  validContent := by simp
  distinctBatches := by simp

/-- Removing records keeps the remaining ones sound. -/
theorem submap {fewer : BTreeMap UInt64 CloudLinkRecord}
    (sound : RecordsSound streamId streamEpoch records)
    (included : ∀ (position : UInt64) (record : CloudLinkRecord),
      fewer[position]? = some record → records[position]? = some record) :
    RecordsSound streamId streamEpoch fewer where
  identified position record retained :=
    sound.identified position record (included position record retained)
  validContent position record retained :=
    sound.validContent position record (included position record retained)
  distinctBatches left right first second atLeft atRight :=
    sound.distinctBatches left right first second (included left first atLeft)
      (included right second atRight)

theorem insert (sound : RecordsSound streamId streamEpoch records) {record : CloudLinkRecord}
    {position : UInt64} (identity : record.identity = ⟨streamId, streamEpoch, position⟩)
    (valid : validateEnqueue record.content = .ok ())
    (fresh : ∀ (other : UInt64) (retained : CloudLinkRecord), other ≠ position →
      records[other]? = some retained → retained.batchId ≠ record.batchId) :
    RecordsSound streamId streamEpoch (records.insert position record) := by
  have lookup : ∀ other : UInt64, (records.insert position record)[other]? =
      if position = other then some record else records[other]? := by
    intro other
    simp [Std.ExtTreeMap.getElem?_insert]
  refine ⟨?_, ?_, ?_⟩
  · intro other retained found
    rw [lookup] at found
    split at found
    · rename_i same
      cases found
      rw [identity, same]
    · exact sound.identified other retained found
  · intro other retained found
    rw [lookup] at found
    split at found
    · cases found
      exact valid
    · exact sound.validContent other retained found
  · intro left right first second atLeft atRight same
    rw [lookup] at atLeft atRight
    split at atLeft <;> split at atRight
    · grind
    · rename_i elsewhere
      cases atLeft
      exact absurd same.symm (fresh right second (Ne.symm elsewhere) atRight)
    · rename_i elsewhere _
      cases atRight
      exact absurd same (fresh left first (Ne.symm elsewhere) atLeft)
    · exact sound.distinctBatches left right first second atLeft atRight same

end RecordsSound

/-- Loss evidence belongs to the stream and lies wholly below the retained window. -/
structure EvidenceFits (state : CloudLinkSpoolState) (evidence : CloudLinkDataLossEvidence) :
    Prop where
  stream : evidence.streamId = state.streamId
  epoch : evidence.streamEpoch = state.streamEpoch
  positive : 0 < evidence.firstLostPosition
  ordered : evidence.firstLostPosition ≤ evidence.lastLostPosition
  recorded : evidence.lastLostPosition < evidence.earliestRetainedPosition
  below : evidence.lastLostPosition < state.earliestRetained

/-- Evidence keeps fitting a stream whose window has moved up. -/
theorem EvidenceFits.advance {evidence : CloudLinkDataLossEvidence} {after : CloudLinkSpoolState}
    (fits : state.EvidenceFits evidence) (stream : after.streamId = state.streamId)
    (epoch : after.streamEpoch = state.streamEpoch)
    (higher : state.earliestRetained ≤ after.earliestRetained) : after.EvidenceFits evidence where
  stream := fits.stream.trans stream.symm
  epoch := fits.epoch.trans epoch.symm
  positive := fits.positive
  ordered := fits.ordered
  recorded := fits.recorded
  below := UInt64.lt_of_lt_of_le fits.below higher

section

variable (state)

/-- The last acknowledgement, when there is one, is the one whose position is recorded. -/
def AckConsistent : Prop :=
  match state.lastAck with
  | none => state.lastAcknowledgedPosition = 0
  | some ack =>
    ack.streamId = state.streamId ∧ ack.streamEpoch = state.streamEpoch ∧
      ack.acknowledgedPosition = state.lastAcknowledgedPosition

/-- The evidence reaches from the first unacknowledged position up to the retained window. -/
def Bridges (evidence : CloudLinkDataLossEvidence) : Prop :=
  evidence.firstLostPosition ≤ state.lastAcknowledgedPosition + 1 ∧
    evidence.lastLostPosition + 1 = state.earliestRetained

/-- The clauses that survive even an eviction without evidence. -/
structure Consistent : Prop where
  streamValid : validIdentifier state.streamId 128 = true
  epochPositive : 0 < state.streamEpoch
  capacityPositive : state.capacity ≠ 0
  capacityLimited : state.capacity.toNat ≤ maxSpoolRecords
  bounded : state.records.size ≤ state.capacity.toNat
  window : Window state.records state.earliestRetained state.nextPosition
  acknowledgedBelow : state.lastAcknowledgedPosition < state.earliestRetained
  sound : RecordsSound state.streamId state.streamEpoch state.records
  ackConsistent : state.AckConsistent
  evidenceFits : ∀ evidence, state.dataLoss = some evidence → state.EvidenceFits evidence

/-- Invariant of every state produced by successful spool operations. -/
structure WellFormed : Prop extends Consistent state where
  covered : state.earliestRetained ≠ state.lastAcknowledgedPosition + 1 →
    ∃ evidence, state.dataLoss = some evidence ∧ state.Bridges evidence

end

theorem earliestRetained_eq {first : UInt64}
    (window : Window state.records first state.nextPosition) : state.earliestRetained = first :=
  window.firstKey_getD

theorem validateStreamId_eq_ok :
    validateStreamId streamId = .ok () ↔ validIdentifier streamId 128 = true := by
  unfold validateStreamId
  split <;> simp_all

theorem validateEnqueue_eq_ok {input : CloudLinkEnqueue} : validateEnqueue input = .ok () ↔
      validIdentifier input.batchId 128 = true ∧ digestValid input.digest = true ∧
        input.payload ≠ [] ∧ input.payload.length ≤ maxSpoolPayloadBytes ∧
        input.expiresAt.any (· ≤ input.createdAt) = false := by
  unfold validateEnqueue
  split_ifs with identifier digest payload expiry
  · simp_all
  · simp_all
  · simp only [Bool.or_eq_true, List.isEmpty_iff, decide_eq_true_eq] at payload
    grind
  · simp_all
  · simp_all

theorem new_wellFormed {capacity : UInt64} (created : new streamId capacity = .ok state) :
    state.WellFormed := by
  unfold new at created
  split at created
  · cases created
  · rename_i accepted
    split at created
    · cases created
    · rename_i allowed
      simp only [not_or, not_lt, gt_iff_lt] at allowed
      cases created
      exact
        { streamValid := validateStreamId_eq_ok.mp accepted
          epochPositive := by simp
          capacityPositive := allowed.1
          capacityLimited := allowed.2
          bounded := by simp
          window := Window.empty 1
          acknowledgedBelow := by
            change (0 : UInt64) < 1
            decide
          sound := RecordsSound.empty streamId 1
          ackConsistent := rfl
          evidenceFits := by simp
          covered := fun gap => absurd rfl gap }

namespace Consistent

variable {record : CloudLinkRecord}

section

variable (consistent : state.Consistent)

include consistent

theorem bounds (retained : state.records[position]? = some record) :
    state.earliestRetained ≤ position ∧ position < state.nextPosition := by
  rw [← consistent.window.mem_iff, Std.ExtTreeMap.mem_iff_isSome_getElem?, retained]
  rfl

/-- New records keep every clause when their window starts no lower than the present one. -/
theorem replace {records : BTreeMap UInt64 CloudLinkRecord} {first : UInt64}
    (window : Window records first nextPosition) (higher : state.earliestRetained ≤ first)
    (bounded : records.size ≤ state.capacity.toNat)
    (sound : RecordsSound state.streamId state.streamEpoch records) :
    ({ state with nextPosition, records } : CloudLinkSpoolState).Consistent := by
  have earliest : ({ state with nextPosition, records } : CloudLinkSpoolState).earliestRetained =
      first := earliestRetained_eq window
  exact
    { consistent with
      bounded
      window := earliest ▸ window
      acknowledgedBelow := earliest ▸ UInt64.lt_of_lt_of_le consistent.acknowledgedBelow higher
      sound
      evidenceFits := fun evidence present =>
        (consistent.evidenceFits evidence present).advance rfl rfl (earliest ▸ higher) }

/-- Storing a batch moves only the upper end of the window. -/
theorem earliestRetained_stored
    (successor : state.nextPosition < nextPosition ∧ nextPosition = state.nextPosition + 1)
    (input : CloudLinkEnqueue) :
    (state.stored nextPosition input).earliestRetained = state.earliestRetained :=
  earliestRetained_eq (consistent.window.insert_next successor (state.nextRecord input))

include valid fresh successor in
theorem stored (room : state.records.size < state.capacity.toNat) :
    (state.stored nextPosition input).Consistent :=
  consistent.replace (consistent.window.insert_next successor (state.nextRecord input))
    (UInt64.le_refl _) (Std.ExtTreeMap.size_insert_le.trans room)
    (consistent.sound.insert rfl valid fun other retained _ found => fresh other retained found)

section

include first

theorem oldest :
    position = state.earliestRetained ∧ state.earliestRetained < state.nextPosition :=
  consistent.window.firstKey_eq_some first

/-- Evicting the oldest record moves only the lower end of the window. -/
theorem earliestRetained_evict :
    (state.evict position).earliestRetained = position + 1 := by
  obtain ⟨rfl, nonempty⟩ := consistent.oldest first
  exact earliestRetained_eq (consistent.window.erase_first nonempty)

theorem evict :
    (state.evict position).Consistent := by
  obtain ⟨rfl, nonempty⟩ := consistent.oldest first
  refine consistent.replace (consistent.window.erase_first nonempty) (by grind)
    (Std.ExtTreeMap.size_erase_le.trans consistent.bounded) (consistent.sound.submap ?_)
  intro _ _ found
  rw [Std.ExtTreeMap.getElem?_erase] at found
  grind

theorem size_evict :
    (state.evict position).records.size < state.capacity.toNat := by
  have member : position ∈ state.records := (firstKey_eq_some_iff.mp first).1
  have shrinks : (state.evict position).records.size = state.records.size - 1 := by
    simp only [CloudLinkSpoolState.evict, Std.ExtTreeMap.size_erase]
    rw [if_pos (Std.ExtTreeMap.contains_iff_mem.mpr member)]
  have nonempty : state.records.size ≠ 0 := by
    intro vacant
    have : state.records = ∅ := by
      rw [← Std.ExtTreeMap.isEmpty_iff, Std.ExtTreeMap.isEmpty_eq_size_beq_zero]
      simpa using vacant
    simp [this] at member
  have := consistent.bounded
  omega

end

/-- Rewriting the delivery state of a retained record keeps every clause. -/
theorem storeRecord {identity : CloudLinkRecordIdentity} {marked : CloudLinkRecord}
    (retained : state.records[identity.position]? = some record)
    (sameIdentity : marked.identity = record.identity)
    (sameContent : marked.content = record.content) :
    (state.storeRecord identity marked).Consistent ∧
      (state.storeRecord identity marked).earliestRetained = state.earliestRetained := by
  have member : identity.position ∈ state.records := by
    rw [Std.ExtTreeMap.mem_iff_isSome_getElem?, retained]
    rfl
  have window := consistent.window.insert_present member marked
  have sameBatch : marked.batchId = record.batchId := congrArg CloudLinkEnqueue.batchId sameContent
  refine ⟨consistent.replace window (UInt64.le_refl _) ?_ (consistent.sound.insert ?_ ?_ ?_),
    earliestRetained_eq window⟩
  · rw [Std.ExtTreeMap.size_insert, if_pos (Std.ExtTreeMap.contains_iff_mem.mpr member)]
    exact consistent.bounded
  · rw [sameIdentity]
    exact consistent.sound.identified _ _ retained
  · rw [sameContent]
    exact consistent.sound.validContent _ _ retained
  · intro _ _ elsewhere found same
    exact elsewhere (consistent.sound.distinctBatches _ _ _ _ found retained
      (same.trans sameBatch))

/-- An applied acknowledgement starts the window right after the acknowledged position. -/
theorem acknowledged {ack : CloudLinkDurableAck} (stream : ack.streamId = state.streamId)
    (epoch : ack.streamEpoch = state.streamEpoch)
    (retained : state.records[ack.acknowledgedPosition]? = some record) :
    (state.acknowledged ack).Consistent ∧
      (state.acknowledged ack).earliestRetained = ack.acknowledgedPosition + 1 := by
  obtain ⟨lower, upper⟩ := consistent.bounds retained
  have window := consistent.window.removeThrough lower upper
  have earliest : (state.acknowledged ack).earliestRetained = ack.acknowledgedPosition + 1 :=
    earliestRetained_eq window
  have advance : state.earliestRetained < (state.acknowledged ack).earliestRetained := by grind
  have included : ∀ (position : UInt64) (kept : CloudLinkRecord),
      (state.acknowledged ack).records[position]? = some kept →
        state.records[position]? = some kept := by
    intro position kept found
    simp only [CloudLinkSpoolState.acknowledged, getElem?_removeAll] at found
    grind
  have fewer : (state.acknowledged ack).records.size ≤ state.records.size := by
    rw [← Std.ExtTreeMap.length_keys, ← Std.ExtTreeMap.length_keys]
    apply List.Subperm.length_le
    apply List.subperm_of_subset (Std.ExtTreeMap.nodup_keys)
    intro position member
    rw [Std.ExtTreeMap.mem_keys, Std.ExtTreeMap.mem_iff_isSome_getElem?,
      Option.isSome_iff_exists] at member ⊢
    obtain ⟨kept, found⟩ := member
    exact ⟨kept, included position kept found⟩
  refine ⟨?_, earliest⟩
  exact
    { consistent with
      bounded := fewer.trans consistent.bounded
      window := earliest ▸ window
      acknowledgedBelow := by
        rw [earliest]
        change ack.acknowledgedPosition < ack.acknowledgedPosition + 1
        grind
      sound := consistent.sound.submap included
      ackConsistent := ⟨stream, epoch, rfl⟩
      evidenceFits := fun evidence present =>
        (consistent.evidenceFits evidence present).advance rfl rfl (UInt64.le_of_lt advance) }

end

end Consistent

namespace WellFormed

variable {record : CloudLinkRecord}

section

variable (wellFormed : state.WellFormed)

include wellFormed

/-- Evidence for the gap serves every state with the same gap. -/
theorem of_earliestRetained {after : CloudLinkSpoolState} (consistent : after.Consistent)
    (loss : after.dataLoss = state.dataLoss)
    (last : after.lastAcknowledgedPosition = state.lastAcknowledgedPosition)
    (earliest : after.earliestRetained = state.earliestRetained) : after.WellFormed where
  toConsistent := consistent
  covered := by
    rw [earliest, last, loss]
    intro gap
    obtain ⟨evidence, present, bridges⟩ := wellFormed.covered gap
    exact ⟨evidence, present, last.symm ▸ bridges.1, earliest.symm ▸ bridges.2⟩

include valid fresh successor in
theorem stored (room : state.records.size ≠ state.capacity.toNat) :
    (state.stored nextPosition input).WellFormed :=
  wellFormed.of_earliestRetained (wellFormed.toConsistent.stored valid fresh
    successor (lt_of_le_of_ne wellFormed.bounded room)) rfl rfl
    (wellFormed.toConsistent.earliestRetained_stored successor input)

/-- Without bridging evidence the window starts right after the last acknowledgement. -/
theorem contiguous_of_not_bridged (open_gap : ∀ evidence, state.dataLoss = some evidence →
      evidence.lastLostPosition + 1 ≠ state.earliestRetained) :
    state.earliestRetained = state.lastAcknowledgedPosition + 1 := by
  by_contra gap
  obtain ⟨evidence, present, bridges⟩ := wellFormed.covered gap
  exact open_gap evidence present bridges.2

include first in
/-- The evidence written for an eviction ends at the evicted position and reaches back to the
first unacknowledged one. -/
theorem overflowEvidence_spec (after : CloudLinkSpoolState) (stream : after.streamId = state.streamId)
    (epoch : after.streamEpoch = state.streamEpoch) (loss : after.dataLoss = state.dataLoss)
    (earliest : after.earliestRetained = position + 1) (recordedAt : UInt64) :
    (after.overflowEvidence position recordedAt).streamId = state.streamId ∧
      (after.overflowEvidence position recordedAt).streamEpoch = state.streamEpoch ∧
      (after.overflowEvidence position recordedAt).lastLostPosition = position ∧
      (after.overflowEvidence position recordedAt).earliestRetainedPosition = position + 1 ∧
      0 < (after.overflowEvidence position recordedAt).firstLostPosition ∧
      (after.overflowEvidence position recordedAt).firstLostPosition ≤ position ∧
      (after.overflowEvidence position recordedAt).firstLostPosition ≤
        state.lastAcknowledgedPosition + 1 := by
  obtain ⟨place, -⟩ := wellFormed.oldest first
  have acknowledged := wellFormed.acknowledgedBelow
  unfold overflowEvidence
  rw [loss, stream, epoch, earliest]
  cases present : state.dataLoss with
  | none =>
    have contiguous := wellFormed.contiguous_of_not_bridged (by simp [present])
    grind
  | some evidence =>
    have fits := wellFormed.evidenceFits evidence present
    have ordered := fits.ordered
    have below := fits.below
    have positive := fits.positive
    have sameStream := fits.stream
    have sameEpoch := fits.epoch
    have step : checkedAdd evidence.lastLostPosition 1 = some position ↔
        evidence.lastLostPosition + 1 = position := by
      rw [checkedAdd_one_eq_some]
      grind
    simp only [step, sameEpoch, true_and]
    split
    · rename_i adjacent
      have reaches : evidence.firstLostPosition ≤ state.lastAcknowledgedPosition + 1 := by
        by_cases contiguous : state.earliestRetained = state.lastAcknowledgedPosition + 1
        · grind
        · obtain ⟨_, found, bridges⟩ := wellFormed.covered contiguous
          rw [present] at found
          cases found
          exact bridges.1
      simp only [CloudLinkDataLossEvidence.extendOverflow]
      grind
    · rename_i apart
      have contiguous := wellFormed.contiguous_of_not_bridged (by
        intro _ found
        rw [present] at found
        cases found
        rw [← place]
        exact apart)
      grind

include first successor in
theorem earliestRetained_displaced (input : CloudLinkEnqueue) :
    ((state.evict position).stored nextPosition input).earliestRetained = position + 1 :=
  ((wellFormed.toConsistent.evict first).earliestRetained_stored successor input).trans
    (wellFormed.toConsistent.earliestRetained_evict first)

include valid fresh first successor in
theorem displaced :
    (state.displaced position nextPosition input).WellFormed := by
  have evicted := wellFormed.toConsistent.evict first
  have freshAfter : (state.evict position).FreshBatch input := by
    intro other record found
    simp only [evict, Std.ExtTreeMap.getElem?_erase] at found
    exact fresh other record (by grind)
  have stored := evicted.stored valid freshAfter successor
    (wellFormed.toConsistent.size_evict first)
  have earliest := wellFormed.earliestRetained_displaced first successor input
  obtain ⟨_, _⟩ := wellFormed.oldest first
  obtain ⟨stream, epoch, last, retained, positive, ordered, reaches⟩ :=
    wellFormed.overflowEvidence_spec first ((state.evict position).stored nextPosition input)
      rfl rfl rfl earliest input.createdAt
  exact
    { stored with
      evidenceFits := by
        intro _ present
        cases present
        have below : (state.displaced position nextPosition input).earliestRetained =
            position + 1 := earliest
        exact ⟨stream, epoch, positive, last.symm ▸ ordered, by rw [last, retained]; grind,
          by rw [last, below]; grind⟩
      covered := fun _ => ⟨_, rfl, reaches, by
        rw [last]
        exact earliest.symm⟩ }

theorem storeRecord {identity : CloudLinkRecordIdentity} {marked : CloudLinkRecord}
    (retained : state.records[identity.position]? = some record)
    (sameIdentity : marked.identity = record.identity)
    (sameContent : marked.content = record.content) :
    (state.storeRecord identity marked).WellFormed := by
  obtain ⟨consistent, earliest⟩ :=
    wellFormed.toConsistent.storeRecord retained sameIdentity sameContent
  exact wellFormed.of_earliestRetained consistent rfl rfl earliest

theorem acknowledged {ack : CloudLinkDurableAck} (stream : ack.streamId = state.streamId)
    (epoch : ack.streamEpoch = state.streamEpoch)
    (retained : state.records[ack.acknowledgedPosition]? = some record) :
    (state.acknowledged ack).WellFormed := by
  obtain ⟨consistent, earliest⟩ := wellFormed.toConsistent.acknowledged stream epoch retained
  exact ⟨consistent, fun gap => absurd earliest gap⟩

theorem rotated {streamEpoch : UInt64} (vacant : state.records = ∅)
    (successor : state.streamEpoch < streamEpoch) :
    (state.rotated streamEpoch).WellFormed := by
  have window : Window (state.rotated streamEpoch).records 1 1 := by
    simp only [CloudLinkSpoolState.rotated, vacant]
    exact Window.empty 1
  have earliest : (state.rotated streamEpoch).earliestRetained = 1 := earliestRetained_eq window
  exact
    { wellFormed with
      epochPositive := UInt64.lt_trans wellFormed.epochPositive successor
      window := earliest ▸ window
      acknowledgedBelow := by
        rw [earliest]
        change (0 : UInt64) < 1
        decide
      sound := by
        simp only [CloudLinkSpoolState.rotated, vacant]
        exact RecordsSound.empty _ _
      ackConsistent := rfl
      evidenceFits := by simp [CloudLinkSpoolState.rotated]
      covered := fun gap => absurd earliest gap }

theorem resized {capacity : UInt64} (positive : capacity ≠ 0)
    (limited : capacity.toNat ≤ maxSpoolRecords) (fits : state.records.size ≤ capacity.toNat) :
    ({ state with capacity } : CloudLinkSpoolState).WellFormed :=
  { wellFormed with
    capacityPositive := positive
    capacityLimited := limited
    bounded := fits
    evidenceFits := fun evidence present =>
      (wellFormed.evidenceFits evidence present).advance rfl rfl (UInt64.le_refl _) }

end

end WellFormed

/-- A call of one spool operation. -/
inductive SpoolOperation where
  | enqueue (input : CloudLinkEnqueue)
  | markOffered (identity : CloudLinkRecordIdentity) (session : CloudLinkSessionBinding)
  | markTransportPublished (identity : CloudLinkRecordIdentity)
      (session : CloudLinkSessionBinding)
  | acknowledge (ack : CloudLinkDurableAck)
  | rotateStreamEpoch
  | validateOpen (streamId : String) (capacity : UInt64)
  deriving DecidableEq

/-- The value a successful call returns. -/
inductive SpoolReply where
  | record (record : CloudLinkRecord)
  | unit
  | outcome (outcome : DurableAckOutcome)
  | streamEpoch (streamEpoch : UInt64)
  | changed (changed : Bool)
  deriving DecidableEq

section

variable (state)

/-- Perform one call, keeping the state it leaves behind and its result. -/
def perform : SpoolOperation → CloudLinkSpoolState × Except CloudLinkSpoolError SpoolReply
  | .enqueue input => (state.enqueue input).map id (Except.map .record)
  | .markOffered identity session =>
    (state.markOffered identity session).map id (Except.map fun _ => .unit)
  | .markTransportPublished identity session =>
    (state.markTransportPublished identity session).map id (Except.map fun _ => .unit)
  | .acknowledge ack => (state.acknowledge ack).map id (Except.map .outcome)
  | .rotateStreamEpoch => state.rotateStreamEpoch.map id (Except.map .streamEpoch)
  | .validateOpen streamId capacity =>
    (state.validateOpen streamId capacity).map id (Except.map .changed)

/-- The state after one call, whether or not it succeeded. -/
def step (operation : SpoolOperation) : CloudLinkSpoolState :=
  (state.perform operation).1

/-- The call evicts a record for a position that can no longer be allocated. -/
def Exhausts : SpoolOperation → Prop
  | .enqueue input => state.ExhaustedEviction input
  | _ => False

/-- Everything one call can do to the state. -/
inductive StepEffect :
    SpoolOperation → CloudLinkSpoolState × Except CloudLinkSpoolError SpoolReply → Prop where
  | rejected (operation : SpoolOperation) (failure : CloudLinkSpoolError) :
      StepEffect operation (state, .error failure)
  | repeated {input : CloudLinkEnqueue} {existing : CloudLinkRecord} :
      StepEffect (.enqueue input) (state, .ok (.record existing))
  | exhausted {input : CloudLinkEnqueue} {position : UInt64} (failure : CloudLinkSpoolError)
      (stuck : state.ExhaustedEviction input) (oldest : firstKey state.records = some position) :
      StepEffect (.enqueue input) (state.evict position, .error failure)
  | appended {input : CloudLinkEnqueue} {nextPosition : UInt64}
      (valid : validateEnqueue input = .ok ()) (fresh : state.FreshBatch input)
      (room : state.records.size ≠ state.capacity.toNat)
      (successor : state.nextPosition < nextPosition ∧ nextPosition = state.nextPosition + 1) :
      StepEffect (.enqueue input)
        (state.stored nextPosition input, .ok (.record (state.nextRecord input)))
  | displaced {input : CloudLinkEnqueue} {position nextPosition : UInt64}
      (valid : validateEnqueue input = .ok ()) (fresh : state.FreshBatch input)
      (full : state.records.size = state.capacity.toNat)
      (oldest : firstKey state.records = some position)
      (successor : state.nextPosition < nextPosition ∧ nextPosition = state.nextPosition + 1) :
      StepEffect (.enqueue input)
        (state.displaced position nextPosition input, .ok (.record (state.nextRecord input)))
  | marked {operation : SpoolOperation} {identity : CloudLinkRecordIdentity}
      {record marked : CloudLinkRecord}
      (retained : state.records[identity.position]? = some record)
      (sameIdentity : marked.identity = record.identity)
      (sameContent : marked.content = record.content) :
      StepEffect operation (state.storeRecord identity marked, .ok .unit)
  | duplicate {ack : CloudLinkDurableAck} (replayed : state.lastAck = some ack) :
      StepEffect (.acknowledge ack) (state, .ok (.outcome .duplicate))
  | applied {ack : CloudLinkDurableAck} {record : CloudLinkRecord} {removed : Nat}
      (stream : ack.streamId = state.streamId) (epoch : ack.streamEpoch = state.streamEpoch)
      (advances : state.lastAcknowledgedPosition < ack.acknowledgedPosition)
      (retained : state.records[ack.acknowledgedPosition]? = some record)
      (offered : record.offeredSession = some ack.session)
      (batch : record.batchId = ack.batchId) (digest : record.digest = ack.digest) :
      StepEffect (.acknowledge ack)
        (state.acknowledged ack, .ok (.outcome (.applied removed)))
  | rotated {streamEpoch : UInt64} (vacant : state.records = ∅)
      (successor : state.streamEpoch < streamEpoch) :
      StepEffect .rotateStreamEpoch
        (state.rotated streamEpoch, .ok (.streamEpoch streamEpoch))
  | resized {streamId : String} {capacity : UInt64} (positive : capacity ≠ 0)
      (limited : capacity.toNat ≤ maxSpoolRecords) (fits : state.records.size ≤ capacity.toNat) :
      StepEffect (.validateOpen streamId capacity)
        ({ state with capacity }, .ok (.changed (state.capacity != capacity)))

theorem perform_effect (operation : SpoolOperation) :
    StepEffect state operation (state.perform operation) := by
  cases operation with
  | enqueue input =>
    simp only [perform]
    have effect := state.enqueue_effect input
    generalize state.enqueue input = result at effect ⊢
    cases effect with
    | rejected failure => exact .rejected _ failure
    | repeated => exact .repeated
    | exhausted failure stuck oldest => exact .exhausted failure stuck oldest
    | appended valid fresh room successor => exact .appended valid fresh room successor
    | displaced valid fresh full oldest successor =>
      exact .displaced valid fresh full oldest successor
  | markOffered identity session =>
    simp only [perform]
    have effect := state.markOffered_effect identity session
    generalize state.markOffered identity session = result at effect ⊢
    cases effect with
    | rejected failure => exact .rejected _ failure
    | marked retained => exact .marked retained rfl rfl
  | markTransportPublished identity session =>
    simp only [perform]
    have effect := state.markTransportPublished_effect identity session
    generalize state.markTransportPublished identity session = result at effect ⊢
    cases effect with
    | rejected failure => exact .rejected _ failure
    | marked retained => exact .marked retained rfl rfl
  | acknowledge ack =>
    simp only [perform]
    have effect := state.acknowledge_effect ack
    generalize state.acknowledge ack = result at effect ⊢
    cases effect with
    | rejected failure => exact .rejected _ failure
    | duplicate replayed => exact .duplicate replayed
    | applied stream epoch advances retained offered batch digest =>
      exact .applied stream epoch advances retained offered batch digest
  | rotateStreamEpoch =>
    simp only [perform]
    have effect := state.rotateStreamEpoch_effect
    generalize state.rotateStreamEpoch = result at effect ⊢
    cases effect with
    | rejected failure => exact .rejected _ failure
    | rotated vacant successor => exact .rotated vacant successor
  | validateOpen streamId capacity =>
    simp only [perform]
    have effect := state.validateOpen_effect streamId capacity
    generalize state.validateOpen streamId capacity = result at effect ⊢
    cases effect with
    | rejected failure => exact .rejected _ failure
    | resized positive limited fits => exact .resized positive limited fits

end

/-- A call keeps the invariant, or it is the exhausted eviction. -/
theorem WellFormed.perform (wellFormed : state.WellFormed) (operation : SpoolOperation) :
    (state.step operation).WellFormed ∨
      ∃ input position failure, operation = .enqueue input ∧ state.ExhaustedEviction input ∧
        firstKey state.records = some position ∧
        state.perform operation = (state.evict position, .error failure) := by
  unfold CloudLinkSpoolState.step
  have effect := state.perform_effect operation
  generalize state.perform operation = result at effect ⊢
  cases effect with
  | rejected | repeated | duplicate => exact .inl wellFormed
  | exhausted failure stuck oldest => exact .inr ⟨_, _, failure, rfl, stuck, oldest, rfl⟩
  | appended valid fresh room successor =>
    exact .inl (wellFormed.stored valid fresh successor room)
  | displaced valid fresh _ oldest successor =>
    exact .inl (wellFormed.displaced valid fresh oldest successor)
  | marked retained sameIdentity sameContent =>
    exact .inl (wellFormed.storeRecord retained sameIdentity sameContent)
  | applied stream epoch _ retained =>
    exact .inl (wellFormed.acknowledged stream epoch retained)
  | rotated vacant successor => exact .inl (wellFormed.rotated vacant successor)
  | resized positive limited fits => exact .inl (wellFormed.resized positive limited fits)

/-- The invariant is kept by every call that is not an exhausted eviction. -/
theorem WellFormed.step (wellFormed : state.WellFormed) (guard : ¬ state.Exhausts operation) :
    (state.step operation).WellFormed := by
  rcases wellFormed.perform operation with kept | ⟨_, _, _, rfl, stuck, -, -⟩
  · exact kept
  · exact absurd stuck guard

/-- A successful call keeps the invariant. -/
theorem WellFormed.of_ok (wellFormed : state.WellFormed) {after : CloudLinkSpoolState}
    {reply : SpoolReply} (performed : state.perform operation = (after, .ok reply)) :
    after.WellFormed := by
  rcases wellFormed.perform operation with kept | ⟨_, _, _, -, -, -, failed⟩
  · simpa only [CloudLinkSpoolState.step, performed] using kept
  · rw [performed] at failed
    cases failed

/-- The invariant holds after every run without an exhausted eviction. -/
theorem WellFormed.run {initial : CloudLinkSpoolState} (start : initial.WellFormed)
    {operations : List SpoolOperation}
    (guarded : Guarded CloudLinkSpoolState.step (fun state operation => ¬ state.Exhausts operation)
      initial operations) : (run CloudLinkSpoolState.step initial operations).WellFormed :=
  invariant (fun _ _ now guard => now.step guard) start guarded

theorem Consistent.exhausts_evicts (consistent : state.Consistent)
    (stuck : state.ExhaustedEviction input) :
    ∃ position, firstKey state.records = some position ∧
      state.step (.enqueue input) = state.evict position := by
  have positive : 0 < state.records.size := by
    rw [stuck.2.2.1]
    exact Nat.pos_of_ne_zero fun zero => consistent.capacityPositive (UInt64.toNat_inj.mp zero)
  obtain ⟨position, oldest⟩ := exists_firstKey positive
  exact ⟨position, oldest, enqueue_exhausted oldest stuck⟩

end CloudLinkSpoolState

end AetherIot.CloudLink
