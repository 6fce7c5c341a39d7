import AetherIot.CloudLink.SpoolReplay

/-!
# Offering the records of a spool

The clauses of a spool on which a publisher relies: the retained positions form a window above the
last acknowledged one, every record has the identity of its position, and the last acknowledgement is
the one whose position is recorded.  Every operation of a session keeps them, with or without success.
-/

namespace AetherIot.CloudLink

open MachineText OrderedMap

namespace CloudLinkSpoolState

variable {state : CloudLinkSpoolState}

structure Aligned (state : CloudLinkSpoolState) : Prop where
  window : Window state.records state.earliestRetained state.nextPosition
  acknowledgedBelow : state.lastAcknowledgedPosition < state.earliestRetained
  identified : ∀ (position : UInt64) (record : CloudLinkRecord),
    state.records[position]? = some record →
      record.identity = ⟨state.streamId, state.streamEpoch, position⟩
  acknowledgedLast : ∀ ack, state.lastAck = some ack →
    ack.acknowledgedPosition = state.lastAcknowledgedPosition

/-- The spool states of the durable store are aligned. -/
theorem Consistent.aligned (consistent : state.Consistent) : state.Aligned where
  window := consistent.window
  acknowledgedBelow := consistent.acknowledgedBelow
  identified := consistent.sound.identified
  acknowledgedLast ack last := by
    have same := consistent.ackConsistent
    rw [AckConsistent, last] at same
    exact same.2.2

namespace Aligned

variable {position : UInt64} {record : CloudLinkRecord} {identity : CloudLinkRecordIdentity}
  {ack : CloudLinkDurableAck}

section

variable (aligned : state.Aligned)

include aligned

theorem bounds (retained : state.records[position]? = some record) :
    state.earliestRetained ≤ position ∧ position < state.nextPosition := by
  rw [← aligned.window.mem_iff, Std.ExtTreeMap.mem_iff_isSome_getElem?, retained]
  rfl

theorem stored {nextPosition : UInt64} {input : CloudLinkEnqueue}
    (successor : state.nextPosition < nextPosition ∧ nextPosition = state.nextPosition + 1) :
    (state.stored nextPosition input).Aligned := by
  have window := aligned.window.insert_next successor (state.nextRecord input)
  have earliest : (state.stored nextPosition input).earliestRetained = state.earliestRetained :=
    earliestRetained_eq window
  refine ⟨earliest ▸ window, earliest ▸ aligned.acknowledgedBelow, ?_, aligned.acknowledgedLast⟩
  intro position record found
  simp only [CloudLinkSpoolState.stored, Std.ExtTreeMap.getElem?_insert] at found
  split at found
  · rename_i same
    rw [Std.compare_eq_iff_eq] at same
    cases found
    rw [← same]
    rfl
  · exact aligned.identified position record found

theorem evict (first : firstKey state.records = some position) :
    (state.evict position).Aligned := by
  obtain ⟨rfl, nonempty⟩ := aligned.window.firstKey_eq_some first
  have window := aligned.window.erase_first nonempty
  have earliest : (state.evict state.earliestRetained).earliestRetained =
      state.earliestRetained + 1 := earliestRetained_eq window
  refine ⟨earliest ▸ window, ?_, ?_, aligned.acknowledgedLast⟩
  · have below := aligned.acknowledgedBelow
    rw [earliest]
    change state.lastAcknowledgedPosition < _
    grind
  · intro position record found
    refine aligned.identified position record ?_
    simp only [CloudLinkSpoolState.evict, Std.ExtTreeMap.getElem?_erase] at found
    grind

/-- Every enqueue keeps the clauses. -/
theorem enqueue (input : CloudLinkEnqueue) : (state.enqueue input).1.Aligned := by
  have effect := state.enqueue_effect input
  generalize state.enqueue input = result at effect ⊢
  cases effect with
  | rejected | repeated => exact aligned
  | exhausted _ _ oldest => exact aligned.evict oldest
  | appended _ _ _ successor => exact aligned.stored successor
  | displaced _ _ _ oldest successor =>
    have kept : ((state.evict _).stored _ input).Aligned := (aligned.evict oldest).stored successor
    exact ⟨kept.window, kept.acknowledgedBelow, kept.identified, kept.acknowledgedLast⟩

/-- Writing a record back under its identity keeps the clauses. -/
theorem storeRecord {marked : CloudLinkRecord}
    (retained : state.records[identity.position]? = some record)
    (sameIdentity : marked.identity = record.identity) :
    (state.storeRecord identity marked).Aligned ∧
      (state.storeRecord identity marked).earliestRetained = state.earliestRetained := by
  have member : identity.position ∈ state.records := by
    rw [Std.ExtTreeMap.mem_iff_isSome_getElem?, retained]
    rfl
  have window := aligned.window.insert_present member marked
  have earliest : (state.storeRecord identity marked).earliestRetained = state.earliestRetained :=
    earliestRetained_eq window
  refine ⟨⟨earliest ▸ window, earliest ▸ aligned.acknowledgedBelow, ?_,
    aligned.acknowledgedLast⟩, earliest⟩
  intro position kept found
  simp only [CloudLinkSpoolState.storeRecord, Std.ExtTreeMap.getElem?_insert] at found
  split at found
  · rename_i same
    rw [Std.compare_eq_iff_eq] at same
    cases found
    rw [← same, sameIdentity]
    exact aligned.identified _ _ retained
  · exact aligned.identified position kept found

theorem acknowledged (retained : state.records[ack.acknowledgedPosition]? = some record) :
    (state.acknowledged ack).Aligned := by
  obtain ⟨lower, upper⟩ := aligned.bounds retained
  have window := aligned.window.removeThrough lower upper
  have earliest : (state.acknowledged ack).earliestRetained = ack.acknowledgedPosition + 1 :=
    earliestRetained_eq window
  refine ⟨earliest ▸ window, ?_, ?_, ?_⟩
  · rw [earliest]
    change ack.acknowledgedPosition < _
    grind
  · intro position kept found
    refine aligned.identified position kept ?_
    simp only [CloudLinkSpoolState.acknowledged, getElem?_removeAll] at found
    grind
  · intro _ same
    cases same
    rfl

/-- Every mark of a record in a session keeps the clauses and the window. -/
theorem mark {update : CloudLinkRecord → CloudLinkRecord}
    {result : CloudLinkSpoolState × Except CloudLinkSpoolError Unit}
    (effect : MarkEffect state identity update result)
    (sameIdentity : ∀ record, (update record).identity = record.identity) :
    result.1.Aligned ∧ result.1.earliestRetained = state.earliestRetained := by
  cases effect with
  | rejected => exact ⟨aligned, rfl⟩
  | marked retained => exact aligned.storeRecord retained (sameIdentity _)

/-- Marking a retained record as offered keeps the clauses and the window. -/
theorem storeOffered (retained : state.records[record.identity.position]? = some record)
    (session : CloudLinkSessionBinding) :
    (state.storeRecord record.identity (record.setOffered session)).Aligned ∧
      (state.storeRecord record.identity (record.setOffered session)).earliestRetained =
        state.earliestRetained :=
  aligned.storeRecord retained rfl

theorem markOffered {session : CloudLinkSessionBinding} (valid : validateSession session = .ok ())
    (retained : state.records[record.identity.position]? = some record) :
    state.markOffered record.identity session =
      (state.storeRecord record.identity (record.setOffered session), .ok ()) := by
  have identity := aligned.identified _ _ retained
  have found : state.recordMut record.identity = .ok record := by
    rw [recordMut, if_neg (by rw [identity]; simp), retained]
  rw [CloudLinkSpoolState.markOffered, valid]
  simp only [found]

/-- A page of records is read without loss. -/
theorem replayFrom {cursor : UInt64} {limit : Nat} (positive : 0 < limit)
    (lower : state.earliestRetained ≤ cursor) (upper : cursor ≤ state.nextPosition) :
    ∃ records, state.replayFrom cursor limit = .ok ⟨records, none⟩ ∧
      state.Consecutive cursor limit ⟨records, none⟩ := by
  have nonzero : 0 < cursor := by
    have := aligned.acknowledgedBelow
    grind
  exact ⟨_, replayFrom_retained nonzero positive lower upper,
    consecutive_of_window aligned.window aligned.identified lower⟩

theorem acknowledge_offered (session : validateSession ack.session = .ok ())
    (receipt : validIdentifier ack.receiptId 128 = true)
    (retained : state.records[ack.acknowledgedPosition]? = some record)
    (stream : ack.streamId = state.streamId) (epoch : ack.streamEpoch = state.streamEpoch)
    (offered : record.offeredSession = some ack.session) (batch : record.batchId = ack.batchId)
    (digest : record.digest = ack.digest) :
    (state.acknowledge ack).1 = state.acknowledged ack := by
  have above : state.lastAcknowledgedPosition < ack.acknowledgedPosition := by
    have lower := (aligned.bounds retained).1
    have below := aligned.acknowledgedBelow
    grind
  have fresh : state.lastAck ≠ some ack := by
    intro last
    have same := aligned.acknowledgedLast ack last
    grind
  have advances : ¬ ack.acknowledgedPosition ≤ state.lastAcknowledgedPosition := by grind
  simp [acknowledge, session, fresh, stream, epoch, advances, receipt, retained, offered, batch,
    digest, CloudLinkSpoolState.acknowledged]

end

end Aligned

variable {record : CloudLinkRecord} {position : UInt64}

/-- What a record written back leaves. -/
theorem getElem?_storeRecord {identity : CloudLinkRecordIdentity} {marked : CloudLinkRecord} :
    (state.storeRecord identity marked).records[position]? = some record ↔
      (position = identity.position ∧ record = marked) ∨
        (position ≠ identity.position ∧ state.records[position]? = some record) := by
  simp only [CloudLinkSpoolState.storeRecord, Std.ExtTreeMap.getElem?_insert, Std.compare_eq_iff_eq]
  grind

/-- What an acknowledgement leaves. -/
theorem getElem?_acknowledged {ack : CloudLinkDurableAck} :
    (state.acknowledged ack).records[position]? = some record ↔
      state.records[position]? = some record ∧ ack.acknowledgedPosition < position := by
  simp only [CloudLinkSpoolState.acknowledged, getElem?_removeAll, mem_keysThrough,
    Std.isLE_compare, Std.ExtTreeMap.mem_iff_isSome_getElem?]
  grind

end CloudLinkSpoolState

end AetherIot.CloudLink
