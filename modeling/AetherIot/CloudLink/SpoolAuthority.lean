import AetherIot.CloudLink.SpoolExhaustion

/-!
# Who may remove a record

A retained record keeps its identity and its business content, and leaves the spool only as the
oldest record of an overflow that is recorded as lost, or through a matching acknowledgement.  The
one exception is the exhausted eviction, and a run obeys the rule exactly when it performs none.
-/

namespace AetherIot.CloudLink

open MachineText OrderedMap GuardedRun

namespace CloudLinkSpoolState

variable {state : CloudLinkSpoolState} {input : CloudLinkEnqueue}

/-- Identity and business content agree; only the delivery state may differ. -/
def SameRecord (before after : CloudLinkRecord) : Prop :=
  after.identity = before.identity ∧ after.content = before.content

/-- `after` is a later state of the same stream epoch, or belongs to a later epoch. -/
inductive Continues (before after : CloudLinkSpoolState) : Prop where
  | laterEpoch (advanced : before.streamEpoch < after.streamEpoch)
  | sameEpoch (epoch : after.streamEpoch = before.streamEpoch)
      (positions : before.nextPosition ≤ after.nextPosition)
      (acknowledged : before.lastAcknowledgedPosition ≤ after.lastAcknowledgedPosition)
      (kept : ∀ (position : UInt64) (record : CloudLinkRecord), position < before.nextPosition →
        after.records[position]? = some record →
          ∃ original, before.records[position]? = some original ∧ SameRecord original record)

namespace Continues

theorem refl (state : CloudLinkSpoolState) : Continues state state :=
  .sameEpoch rfl (UInt64.le_refl _) (UInt64.le_refl _)
    fun _ record _ retained => ⟨record, retained, rfl, rfl⟩

theorem trans {first second third : CloudLinkSpoolState} (early : Continues first second)
    (late : Continues second third) : Continues first third := by
  cases early with
  | laterEpoch advanced =>
    cases late with
    | laterEpoch further => exact .laterEpoch (UInt64.lt_trans advanced further)
    | sameEpoch epoch => exact .laterEpoch (by rwa [epoch])
  | sameEpoch epoch positions acknowledged kept =>
    cases late with
    | laterEpoch => exact .laterEpoch (by rwa [← epoch])
    | sameEpoch laterEpoch laterPositions laterAcknowledged laterKept =>
      refine .sameEpoch (laterEpoch.trans epoch) (UInt64.le_trans positions laterPositions)
        (UInt64.le_trans acknowledged laterAcknowledged) ?_
      intro position record below retained
      obtain ⟨middle, found, same⟩ := laterKept position record (by grind) retained
      obtain ⟨original, present, earlier⟩ := kept position middle below found
      exact ⟨original, present, same.1.trans earlier.1, same.2.trans earlier.2⟩

theorem of_submap {after : CloudLinkSpoolState} (epoch : after.streamEpoch = state.streamEpoch)
    (positions : after.nextPosition = state.nextPosition)
    (acknowledged : state.lastAcknowledgedPosition ≤ after.lastAcknowledgedPosition)
    (included : ∀ (position : UInt64) (record : CloudLinkRecord),
      after.records[position]? = some record → state.records[position]? = some record) :
    Continues state after :=
  .sameEpoch epoch (positions ▸ UInt64.le_refl _) acknowledged
    fun position record _ retained => ⟨record, included position record retained, rfl, rfl⟩

/-- Storing a record at the next position leaves the earlier ones alone. -/
theorem stored (state : CloudLinkSpoolState) {nextPosition : UInt64}
    (successor : state.nextPosition < nextPosition ∧ nextPosition = state.nextPosition + 1)
    (input : CloudLinkEnqueue) : Continues state (state.stored nextPosition input) := by
  refine .sameEpoch rfl (UInt64.le_of_lt successor.1) (UInt64.le_refl _) ?_
  intro _ record _ retained
  simp only [CloudLinkSpoolState.stored] at retained
  exact ⟨record, by grind, rfl, rfl⟩

theorem step (state : CloudLinkSpoolState) (operation : SpoolOperation) :
    Continues state (state.step operation) := by
  unfold CloudLinkSpoolState.step
  have effect := state.perform_effect operation
  generalize state.perform operation = result at effect ⊢
  cases effect with
  | rejected | repeated | duplicate => exact refl state
  | exhausted =>
    refine of_submap rfl rfl (UInt64.le_refl _) ?_
    intro _ record retained
    simp only [evict] at retained
    grind
  | appended _ _ _ successor => exact stored state successor _
  | @displaced input position nextPosition _ _ _ _ successor =>
    have evicted : Continues state (state.evict position) := by
      refine of_submap rfl rfl (UInt64.le_refl _) ?_
      intro _ record retained
      simp only [evict] at retained
      grind
    have added := stored (state.evict position) successor input
    have recorded : Continues ((state.evict position).stored nextPosition input)
        (state.displaced position nextPosition input) :=
      of_submap rfl rfl (UInt64.le_refl _) fun _ _ retained => retained
    exact evicted.trans (added.trans recorded)
  | @marked _ _ record _ retained sameIdentity sameContent =>
    refine .sameEpoch rfl (UInt64.le_refl _) (UInt64.le_refl _) ?_
    intro _ kept _ found
    simp only [storeRecord, Std.ExtTreeMap.getElem?_insert, Std.compare_eq_iff_eq] at found
    split at found
    · rename_i same
      cases found
      exact ⟨record, same ▸ retained, sameIdentity, sameContent⟩
    · exact ⟨kept, found, rfl, rfl⟩
  | applied _ _ advances =>
    refine of_submap rfl rfl (UInt64.le_of_lt advances) ?_
    intro _ _ found
    simp only [acknowledged, getElem?_removeAll] at found
    grind
  | rotated _ successor => exact .laterEpoch successor
  | resized => exact of_submap rfl rfl (UInt64.le_refl _) fun _ _ found => found

theorem run (initial : CloudLinkSpoolState) (operations : List SpoolOperation) :
    Continues initial (run CloudLinkSpoolState.step initial operations) := by
  induction operations generalizing initial with
  | nil => exact refl initial
  | cons operation _ ih => exact (step initial operation).trans (ih _)

end Continues

variable (initial : CloudLinkSpoolState)

/-- The acknowledgement was accepted by an earlier call of the run. -/
def AcceptedEarlier (operations : List SpoolOperation) (ack : CloudLinkDurableAck) : Prop :=
  ∃ front back outcome, operations = front ++ .acknowledge ack :: back ∧
    ((run step initial front).perform (.acknowledge ack)).2 = .ok (.outcome outcome)

/-- The record at `position` is the oldest of a full spool and is recorded as lost. -/
def RemovedAsLost (before : CloudLinkSpoolState) (operation : SpoolOperation)
    (position : UInt64) : Prop :=
  (∃ input, operation = .enqueue input) ∧ firstKey before.records = some position ∧
    before.records.size = before.capacity.toNat ∧
    ∃ evidence, (before.step operation).dataLoss = some evidence ∧
      evidence.streamEpoch = before.streamEpoch ∧
      evidence.firstLostPosition ≤ position ∧ position ≤ evidence.lastLostPosition

/-- The record at `position` is covered by an acknowledgement of a retained record, under that
record's current offer and beyond every position acknowledged before in the epoch. -/
def RemovedByAck (earlier : List SpoolOperation) (operation : SpoolOperation) (position : UInt64) :
    Prop :=
  ∃ (ack : CloudLinkDurableAck) (record : CloudLinkRecord), operation = .acknowledge ack ∧
    (run step initial earlier).records[ack.acknowledgedPosition]? = some record ∧
    record.identity = ⟨ack.streamId, ack.streamEpoch, ack.acknowledgedPosition⟩ ∧
    record.batchId = ack.batchId ∧ record.digest = ack.digest ∧
    record.offeredSession = some ack.session ∧ position ≤ ack.acknowledgedPosition ∧
    ∀ previous, AcceptedEarlier initial earlier previous → previous.streamEpoch = ack.streamEpoch →
        previous.acknowledgedPosition < ack.acknowledgedPosition

/-- Records enter by an enqueue and leave by an authorised removal only. -/
structure StepAuthorized (earlier : List SpoolOperation) (operation : SpoolOperation) : Prop where
  entered : ∀ (position : UInt64) (record : CloudLinkRecord),
    position ∉ (run step initial earlier).records →
      ((run step initial earlier).step operation).records[position]? = some record →
        ∃ input, operation = .enqueue input ∧ record = (run step initial earlier).nextRecord input
  left : ∀ position ∈ (run step initial earlier).records,
    position ∉ ((run step initial earlier).step operation).records →
      RemovedAsLost (run step initial earlier) operation position ∨
        RemovedByAck initial earlier operation position
  published : ∀ identity session, operation = .markTransportPublished identity session →
    ∀ position ∈ (run step initial earlier).records,
      position ∈ ((run step initial earlier).step operation).records

/-- Every removal of a run is authorised, and retained records keep their content and have
pairwise distinct batch identities. -/
structure RemovalAuthorized (operations : List SpoolOperation) :
    Prop where
  steps : ∀ front operation back, operations = front ++ operation :: back →
    StepAuthorized initial front operation
  immutable : ∀ front middle back, operations = front ++ middle ++ back →
    (run step initial front).streamEpoch = (run step initial (front ++ middle)).streamEpoch →
    ∀ (position : UInt64) (before after : CloudLinkRecord),
      (run step initial front).records[position]? = some before →
      (run step initial (front ++ middle)).records[position]? = some after → SameRecord before after
  distinct : ∀ front back, operations = front ++ back →
    ∀ (left right : UInt64) (first second : CloudLinkRecord),
      (run step initial front).records[left]? = some first →
      (run step initial front).records[right]? = some second →
        first.batchId = second.batchId → left = right

variable {position : UInt64} {ack : CloudLinkDurableAck} {initial : CloudLinkSpoolState}
  {record : CloudLinkRecord} {operation : SpoolOperation} {earlier : List SpoolOperation}

theorem WellFormed.displaced_lost (wellFormed : state.WellFormed) {nextPosition : UInt64}
    (oldest : firstKey state.records = some position)
    (successor : state.nextPosition < nextPosition ∧ nextPosition = state.nextPosition + 1) :
    ∃ evidence, (state.displaced position nextPosition input).dataLoss = some evidence ∧
      evidence.streamEpoch = state.streamEpoch ∧
      evidence.firstLostPosition ≤ position ∧ position ≤ evidence.lastLostPosition := by
  obtain ⟨-, epoch, last, -, -, first, -⟩ :=
    wellFormed.overflowEvidence_spec oldest ((state.evict position).stored nextPosition input)
      rfl rfl rfl (wellFormed.earliestRetained_displaced oldest successor input) input.createdAt
  exact ⟨_, rfl, epoch, first, last.symm ▸ UInt64.le_refl _⟩

/-- An accepted acknowledgement leaves its own epoch and position behind. -/
theorem WellFormed.accepted (wellFormed : state.WellFormed) {outcome : DurableAckOutcome}
    (accepted : (state.perform (.acknowledge ack)).2 = .ok (.outcome outcome)) :
    (state.step (.acknowledge ack)).streamEpoch = ack.streamEpoch ∧
      (state.step (.acknowledge ack)).lastAcknowledgedPosition = ack.acknowledgedPosition := by
  unfold CloudLinkSpoolState.step
  have effect := state.perform_effect (.acknowledge ack)
  generalize state.perform (.acknowledge ack) = result at effect accepted ⊢
  cases effect with
  | rejected | marked => cases accepted
  | duplicate replayed =>
    have consistent := wellFormed.ackConsistent
    simp only [AckConsistent, replayed] at consistent
    exact ⟨consistent.2.1.symm, consistent.2.2.symm⟩
  | applied _ epoch => exact ⟨epoch.symm, rfl⟩

theorem acceptedEarlier_le {operations : List SpoolOperation}
    (reached : ∀ front back, operations = front ++ back → (run step initial front).WellFormed)
    (earlier : AcceptedEarlier initial operations ack)
    (epoch : ack.streamEpoch = (run step initial operations).streamEpoch) :
    ack.acknowledgedPosition ≤ (run step initial operations).lastAcknowledgedPosition := by
  obtain ⟨front, back, _, rfl, accepted⟩ := earlier
  obtain ⟨sameEpoch, samePosition⟩ := (reached front _ rfl).accepted accepted
  rw [run_append, run_cons] at epoch ⊢
  have later := Continues.run ((run step initial front).step (.acknowledge ack)) back
  rw [← sameEpoch] at epoch
  cases later with
  | laterEpoch advanced => exact absurd epoch (UInt64.ne_of_lt advanced)
  | sameEpoch _ _ acknowledged => rwa [samePosition] at acknowledged

theorem mem_storeRecord {identity : CloudLinkRecordIdentity} (marked : CloudLinkRecord)
    (retained : state.records[identity.position]? = some record) :
    position ∈ (state.storeRecord identity marked).records ↔ position ∈ state.records := by
  have member : identity.position ∈ state.records := by
    rw [Std.ExtTreeMap.mem_iff_isSome_getElem?, retained]
    rfl
  simp only [storeRecord, Std.ExtTreeMap.mem_insert, Std.compare_eq_iff_eq]
  grind

theorem entered_of_step (absent : position ∉ state.records)
    (found : (state.step operation).records[position]? = some record) :
    ∃ input, operation = .enqueue input ∧ record = state.nextRecord input := by
  have vacant : state.records[position]? ≠ some record := by
    rw [Std.ExtTreeMap.getElem?_eq_none absent]
    simp
  unfold step at found
  have effect := state.perform_effect operation
  generalize state.perform operation = result at effect found
  cases effect with
  | rejected | repeated | duplicate | rotated | resized =>
    exact absurd found vacant
  | exhausted =>
    simp only [evict] at found
    grind
  | @appended input =>
    refine ⟨input, rfl, ?_⟩
    simp only [stored] at found
    grind
  | @displaced input evicted =>
    refine ⟨input, rfl, ?_⟩
    have found : ((state.records.erase evicted).insert state.nextPosition
      (state.nextRecord input))[position]? = some record := found
    grind
  | @marked _ identity _ marked retained =>
    have member : position ∈ (state.storeRecord identity marked).records := by
      rw [Std.ExtTreeMap.mem_iff_isSome_getElem?, found]
      rfl
    exact absurd ((mem_storeRecord _ retained).mp member) absent
  | applied =>
    simp only [acknowledged, getElem?_removeAll] at found
    grind

theorem WellFormed.left_of_step (wellFormed : state.WellFormed) (guard : ¬ state.Exhausts operation)
    (present : position ∈ state.records) (removed : position ∉ (state.step operation).records) :
    RemovedAsLost state operation position ∨
      ∃ (ack : CloudLinkDurableAck) (record : CloudLinkRecord), operation = .acknowledge ack ∧
        state.records[ack.acknowledgedPosition]? = some record ∧
        record.identity = ⟨ack.streamId, ack.streamEpoch, ack.acknowledgedPosition⟩ ∧
        record.batchId = ack.batchId ∧ record.digest = ack.digest ∧
        record.offeredSession = some ack.session ∧ position ≤ ack.acknowledgedPosition ∧
        ack.streamEpoch = state.streamEpoch ∧
        state.lastAcknowledgedPosition < ack.acknowledgedPosition := by
  unfold RemovedAsLost
  unfold CloudLinkSpoolState.step at removed ⊢
  have effect := state.perform_effect operation
  generalize state.perform operation = result at effect removed ⊢
  cases effect with
  | rejected | repeated | duplicate | rotated | resized =>
    exact absurd present removed
  | exhausted _ stuck => exact absurd stuck guard
  | appended =>
    simp only [CloudLinkSpoolState.stored, Std.ExtTreeMap.mem_insert] at removed
    exact absurd (.inr present) removed
  | @displaced input evicted _ _ _ full oldest successor =>
    have same : evicted = position := by
      simp only [CloudLinkSpoolState.displaced, CloudLinkSpoolState.stored, evict,
        Std.ExtTreeMap.mem_insert, Std.ExtTreeMap.mem_erase] at removed
      grind
    subst same
    exact .inl ⟨⟨input, rfl⟩, oldest, full, wellFormed.displaced_lost oldest successor⟩
  | marked retained =>
    exact absurd ((mem_storeRecord _ retained).mpr present) removed
  | @applied ack record _ stream epoch advances retained offered batch digest =>
    refine .inr ⟨ack, record, rfl, retained, ?_, batch, digest, offered, ?_, epoch, advances⟩
    · rw [wellFormed.sound.identified _ _ retained, stream, epoch]
    · rw [Std.ExtTreeMap.mem_iff_isSome_getElem?] at removed
      simp only [CloudLinkSpoolState.acknowledged, getElem?_removeAll, mem_keysThrough,
        Std.isLE_compare] at removed
      grind

/-- Transport publication removes nothing. -/
theorem mem_markTransportPublished (state : CloudLinkSpoolState)
    (identity : CloudLinkRecordIdentity) (session : CloudLinkSessionBinding)
    (present : position ∈ state.records) :
    position ∈ (state.step (.markTransportPublished identity session)).records := by
  simp only [step, perform]
  have effect := state.markTransportPublished_effect identity session
  generalize state.markTransportPublished identity session = result at effect ⊢
  cases effect with
  | rejected => exact present
  | marked retained => exact (mem_storeRecord _ retained).mpr present

/-- Every call that is not an exhausted eviction is authorised. -/
theorem stepAuthorized
    (reached : ∀ front back, earlier = front ++ back → (run step initial front).WellFormed)
    (guard : ¬ (run step initial earlier).Exhausts operation) :
    StepAuthorized initial earlier operation where
  entered position record absent found := entered_of_step absent found
  left := by
    intro _ present removed
    rcases (reached earlier [] (by simp)).left_of_step guard present removed with
      lost | ⟨ack, record, rfl, retained, identity, batch, digest, offered, covered, epoch,
        advances⟩
    · exact .inl lost
    · refine .inr ⟨ack, record, rfl, retained, identity, batch, digest, offered, covered, ?_⟩
      intro _ accepted sameEpoch
      have bounded := acceptedEarlier_le reached accepted (sameEpoch.trans epoch)
      exact UInt64.lt_of_le_of_lt bounded advances
  published := by
    rintro identity session rfl _ present
    exact mem_markTransportPublished _ identity session present

/-- An exhausted eviction removes a record without authority. -/
theorem not_stepAuthorized (before : (run step initial earlier).WellFormed)
    (exhausts : (run step initial earlier).Exhausts operation) :
    ¬ StepAuthorized initial earlier operation := by
  intro authorized
  cases operation with
  | enqueue input =>
    obtain ⟨position, oldest, stepped⟩ := before.toConsistent.exhausts_evicts exhausts
    have present : position ∈ (run step initial earlier).records :=
      (firstKey_eq_some_iff.mp oldest).1
    have removed : position ∉ ((run step initial earlier).step (.enqueue input)).records := by
      rw [stepped]
      simp [evict]
    rcases authorized.left position present removed with
      ⟨-, -, -, evidence, recorded, -, -, last⟩ | ⟨ack, record, other, -⟩
    · rw [stepped] at recorded
      have below := (before.evidenceFits evidence recorded).below
      have place := (before.oldest oldest).1
      grind
    · cases other
  | _ => exact exhausts.elim

/-- Records keep their content and leave only by authorised removals throughout a run exactly when
no call of the run enqueues a new valid batch into a full spool whose position counter is
exhausted. -/
theorem removal_authority {streamId : String} {capacity : UInt64} {initial : CloudLinkSpoolState}
    (created : new streamId capacity = .ok initial) (operations : List SpoolOperation) :
    RemovalAuthorized initial operations ↔
      Guarded step (fun state operation => ¬ state.Exhausts operation) initial operations := by
  have start := new_wellFormed created
  constructor
  · intro authorized
    by_contra violated
    obtain ⟨front, operation, back, rfl, earlier, breaks⟩ := exists_first_violation violated
    exact not_stepAuthorized (start.run earlier) (not_not.mp breaks)
      (authorized.steps front operation back rfl)
  · intro guarded
    have reached : ∀ front back, operations = front ++ back →
        (run step initial front).WellFormed := by
      rintro front back rfl
      exact start.run (guarded_append.mp guarded).1
    refine ⟨?_, ?_, ?_⟩
    · rintro front operation back rfl
      refine stepAuthorized ?_ (guarded_append.mp guarded).2.1
      rintro early late rfl
      exact reached early (late ++ operation :: back) (by simp)
    · rintro front middle back rfl epoch position _ after found later
      have below := ((reached front (middle ++ back) (by simp)).toConsistent.bounds found).2
      rw [run_append] at epoch later
      cases Continues.run (run step initial front) middle with
      | laterEpoch advanced => exact absurd epoch (UInt64.ne_of_lt advanced)
      | sameEpoch _ _ _ kept =>
        obtain ⟨_, present, same⟩ := kept position after below later
        rw [found] at present
        cases present
        exact same
    · rintro front back rfl left right first second atLeft atRight
      exact (reached front back rfl).sound.distinctBatches left right first second atLeft atRight

/-- A displacement with positions left is an authorised removal. -/
theorem removal_authority_overflow :
    new "telemetry" 1 = .ok singleSlot ∧ RemovalAuthorized singleSlot (alternatingRun 2) := by
  refine ⟨new_singleSlot, (removal_authority new_singleSlot (alternatingRun 2)).mpr ?_⟩
  refine ⟨fun exhausts => ?_, fun exhausts => ?_, trivial⟩
  · exact absurd exhausts.2.2.2 (by decide)
  · exact absurd exhausts.2.2.2 (by decide)

/-- Enqueueing alternating batches until the positions run out removes the record at position
`2 ^ 64 - 2` in a call that fails and records no loss. -/
theorem exhausted_enqueue_unauthorized : new "telemetry" 1 = .ok singleSlot ∧
      ¬ RemovalAuthorized singleSlot (alternatingRun (2 ^ 64 - 1)) := by
  refine ⟨new_singleSlot, fun authorized => ?_⟩
  obtain ⟨front, operation, split, before, exhausts⟩ := alternatingRun_exhausts
  exact not_stepAuthorized before exhausts (authorized.steps front operation [] split)

end CloudLinkSpoolState

end AetherIot.CloudLink
