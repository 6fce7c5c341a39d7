import AetherIot.IntegrationControl.LedgerEffect

/-!
# The receipt spool of a ledger

Deliveries are stored by receipt under distinct positions below the next one, every terminal receipt
has its delivery, and exactly the deliveries above the last acknowledgement are pending.  All
effects of ledger operations keep this, except that completing a job with the identifier of another
job's receipt may not.
-/

namespace AetherIot.IntegrationControl

open MachineText OrderedMap CloudLink Bytes SpooledActionReceipt

variable {digests : CanonicalDigests}

theorem SpooledActionReceipt.new_eq_ok {position : UInt64} {payload : ActionReceiptPayload}
    {delivery : SpooledActionReceipt}
    (sealed : new digests position payload = .ok delivery) :
    delivery.position = position ∧ delivery.payload = payload ∧ position ≠ 0 ∧
      payload.validateContract = .ok () := by
  simp only [new, Attempt.bind_eq_ok, Attempt.refuse_eq_ok] at sealed
  obtain ⟨positive, _, contract, _, -, _, -, built⟩ := sealed
  cases built
  refine ⟨rfl, rfl, positive, ?_⟩
  cases checked : payload.validateContract with
  | error => simp [checked, storeResult] at contract
  | ok => rfl

namespace MemoryState

/-- The invariant of the spool. -/
structure Spooled (state : MemoryState) : Prop where
  keyed : ∀ (id : String) (delivery : SpooledActionReceipt),
    state.deliveries[id]? = some delivery → delivery.payload.receiptId = id
  assigned : ∀ (id : String) (delivery : SpooledActionReceipt),
    state.deliveries[id]? = some delivery → delivery.position < state.nextPosition
  distinct : ∀ (id other : String) (left right : SpooledActionReceipt),
    state.deliveries[id]? = some left → state.deliveries[other]? = some right →
      left.position = right.position → id = other
  delivered : ∀ (key : LedgerJobKey) (intentDigest : String) (receipt : ActionReceiptPayload),
    state.Completed key intentDigest receipt →
      ∃ delivery, state.deliveries[receipt.receiptId]? = some delivery ∧ delivery.payload = receipt
  queued : ∀ (position : UInt64) (delivery : SpooledActionReceipt),
    state.pending[position]? = some delivery ↔ delivery.position = position ∧
      state.deliveries[delivery.payload.receiptId]? = some delivery ∧
      state.acknowledges position = false
  behind : ∀ ack, state.lastAck = some ack → ack.acknowledgedPosition < state.nextPosition

theorem acknowledges_eq_false {state : MemoryState} {position : UInt64} :
    state.acknowledges position = false ↔
      ∀ ack, state.lastAck = some ack → ack.acknowledgedPosition < position := by
  simp only [acknowledges, Option.any_eq_false, decide_eq_false_iff_not, UInt64.not_le]

theorem deliveries_spooled (state : MemoryState) (receipt : ActionReceiptPayload)
    (delivery : SpooledActionReceipt) (after : UInt64) (id : String) :
    (state.spooled receipt delivery after).deliveries[id]? =
      if receipt.receiptId = id then some delivery else state.deliveries[id]? := by
  simp [MemoryState.spooled, Std.ExtTreeMap.getElem?_insert]

theorem pending_queue (state : MemoryState) (delivery : SpooledActionReceipt) (place : UInt64) :
    (state.queue delivery).pending[place]? =
      if delivery.position = place then some delivery else state.pending[place]? := by
  simp [queue, Std.ExtTreeMap.getElem?_insert]

theorem completed_finish (state : MemoryState) (key : LedgerJobKey) (intentDigest : String)
    (receipt : ActionReceiptPayload) :
    (state.finish key intentDigest receipt).Completed key intentDigest receipt := by
  simp [Completed, finish]

theorem spooled_empty : MemoryState.empty.Spooled where
  keyed id delivery present := by simp [empty] at present
  assigned id delivery present := by simp [empty] at present
  distinct id other left right present := by simp [empty] at present
  delivered key intentDigest receipt stored := by simp [Completed, empty] at stored
  queued position delivery := by simp [empty]
  behind ack last := by simp [empty] at last

namespace Spooled

variable {state : MemoryState} {after : UInt64} {receipt : ActionReceiptPayload}
  {delivery : SpooledActionReceipt}

section

variable (spooled : state.Spooled)

include spooled

/-- Skipping positions keeps the spool. -/
theorem skip (monotone : state.nextPosition ≤ after) :
    { state with nextPosition := after }.Spooled where
  keyed := spooled.keyed
  assigned id delivery present :=
    UInt64.lt_of_lt_of_le (spooled.assigned id delivery present) monotone
  distinct := spooled.distinct
  delivered := spooled.delivered
  queued := spooled.queued
  behind ack last := UInt64.lt_of_lt_of_le (spooled.behind ack last) monotone

theorem claimed {claim : LedgerClaim} :
    { state with jobs := state.jobs.insert claim.key (.inProgress claim) }.Spooled where
  __ := spooled
  delivered key intentDigest receipt stored := by
    simp only [Completed, Std.ExtTreeMap.getElem?_insert] at stored
    split at stored
    · cases stored
    · exact spooled.delivered key intentDigest receipt stored

theorem finish {key : LedgerJobKey} {intentDigest : String}
    (present : state.deliveries[receipt.receiptId]? = some delivery)
    (contents : delivery.payload = receipt) : (state.finish key intentDigest receipt).Spooled where
  __ := spooled
  delivered other digest stored completed := by
    simp only [Completed, MemoryState.finish, Std.ExtTreeMap.getElem?_insert] at completed
    split at completed
    · cases completed
      exact ⟨delivery, present, contents⟩
    · exact spooled.delivered other digest stored completed

/-- Queueing a delivery above the last acknowledgement changes nothing. -/
theorem queue_eq {id : String} (present : state.deliveries[id]? = some delivery)
    (above : state.acknowledges delivery.position = false) : state.queue delivery = state := by
  have pending : state.pending[delivery.position]? = some delivery := by
    rw [spooled.queued, spooled.keyed id delivery present]
    exact ⟨rfl, present, above⟩
  have same : state.pending.insert delivery.position delivery = state.pending := by
    apply Std.ExtTreeMap.ext_getElem?
    intro _
    rw [Std.ExtTreeMap.getElem?_insert]
    split
    · rename_i equal
      rw [← Std.compare_eq_iff_eq.mp equal, pending]
    · rfl
  simp [queue, same]

theorem respool_queued (position : delivery.position = state.nextPosition)
    (payload : delivery.payload = receipt) (after : UInt64)
    (stale : ∀ old, state.deliveries[receipt.receiptId]? = some old →
      state.acknowledges old.position = true) (place : UInt64) (other : SpooledActionReceipt) :
    ((state.spooled receipt delivery after).queue delivery).pending[place]? = some other ↔
      other.position = place ∧
        (state.spooled receipt delivery after).deliveries[other.payload.receiptId]? = some other ∧
        state.acknowledges place = false := by
  rw [pending_queue, deliveries_spooled]
  by_cases here : delivery.position = place
  · subst here
    have above : state.acknowledges delivery.position = false := by
      rw [acknowledges_eq_false, position]
      exact spooled.behind
    rw [if_pos rfl]
    constructor
    · intro equal
      cases equal
      exact ⟨rfl, by rw [if_pos (by rw [payload])], above⟩
    · rintro ⟨same, present, -⟩
      split at present
      · exact present
      · have := spooled.assigned _ other present
        rw [same, position] at this
        exact absurd this (UInt64.lt_irrefl _)
  · rw [if_neg here]
    constructor
    · intro pending
      obtain ⟨same, present, above⟩ := (spooled.queued place other).mp pending
      refine ⟨same, ?_, above⟩
      rw [if_neg]
      · exact present
      · intro equal
        rw [← equal] at present
        have covered := stale other present
        rw [same, above] at covered
        cases covered
    · rintro ⟨same, present, above⟩
      split at present
      · cases present
        exact absurd same here
      · exact (spooled.queued place other).mpr ⟨same, present, above⟩

theorem respool (spools : state.Spools digests receipt delivery after)
    (stale : ∀ old, state.deliveries[receipt.receiptId]? = some old →
      old.payload = receipt ∧ state.acknowledges old.position = true) :
    ((state.spooled receipt delivery after).queue delivery).Spooled := by
  obtain ⟨position, payload, -, -⟩ := new_eq_ok spools.sealed
  have later := (checkedAdd_one_eq_some.mp spools.successor).1
  have lookup := deliveries_spooled state receipt delivery after
  refine ⟨fun id other present => ?_, fun id other present => ?_,
    fun id other left right leftPresent rightPresent same => ?_,
    fun key intentDigest stored completed => ?_,
    spooled.respool_queued position payload after fun old present => (stale old present).2,
    fun ack last => UInt64.lt_trans (spooled.behind ack last) later⟩
  · rw [queue, lookup] at present
    split at present
    · rename_i equal
      cases present
      rw [payload, equal]
    · exact spooled.keyed id other present
  · rw [queue, lookup] at present
    split at present
    · cases present
      rw [position]
      exact later
    · exact UInt64.lt_trans (spooled.assigned id other present) later
  · rw [queue, lookup] at leftPresent rightPresent
    split at leftPresent
    · rename_i first
      split at rightPresent
      · rename_i second
        exact first.symm.trans second
      · cases leftPresent
        have := spooled.assigned other right rightPresent
        rw [← same, position] at this
        exact absurd this (UInt64.lt_irrefl _)
    · split at rightPresent
      · cases rightPresent
        have := spooled.assigned id left leftPresent
        rw [same, position] at this
        exact absurd this (UInt64.lt_irrefl _)
      · exact spooled.distinct id other left right leftPresent rightPresent same
  · obtain ⟨old, present, contents⟩ := spooled.delivered key intentDigest stored completed
    rw [queue, lookup]
    by_cases equal : receipt.receiptId = stored.receiptId
    · rw [if_pos equal]
      rw [← equal] at present
      exact ⟨delivery, rfl, payload.trans ((stale old present).1.symm.trans contents)⟩
    · rw [if_neg equal]
      exact ⟨old, present, contents⟩

/-- An acknowledgement drops exactly the deliveries it covers. -/
theorem retire {ack : CloudLinkDurableAck}
    (assigned : ack.acknowledgedPosition < state.nextPosition)
    (advances : state.acknowledges ack.acknowledgedPosition = false) :
    (state.retire ack).1.Spooled where
  keyed := spooled.keyed
  assigned := spooled.assigned
  distinct := spooled.distinct
  delivered := spooled.delivered
  queued place other := by
    have covered : (state.retire ack).1.acknowledges place = false ↔
        ack.acknowledgedPosition < place := by
      simp [acknowledges_eq_false, MemoryState.retire]
    rw [covered]
    simp only [MemoryState.retire, getElem?_removeAll, mem_keysThrough, Std.isLE_compare]
    constructor
    · intro pending
      split at pending
      · cases pending
      · rename_i kept
        obtain ⟨same, present, -⟩ := (spooled.queued place other).mp pending
        refine ⟨same, present, ?_⟩
        by_contra below
        exact kept ⟨Std.ExtTreeMap.mem_iff_isSome_getElem?.mpr (by simp [pending]),
          UInt64.not_lt.mp below⟩
    · rintro ⟨same, present, above⟩
      rw [if_neg (fun removed => UInt64.not_lt.mpr removed.2 above), spooled.queued]
      refine ⟨same, present, acknowledges_eq_false.mpr fun last held => ?_⟩
      exact UInt64.lt_trans (acknowledges_eq_false.mp advances last held) above
  behind last held := by
    cases held
    exact assigned

end

end Spooled

/-- A job in progress may be completed with a receipt that is new, or that equals the pending
delivery stored under its identifier. -/
def Admits (state : MemoryState) : LedgerOperation → Prop
  | .complete key intentDigest receipt => state.InProgress key intentDigest →
      ∀ delivery, state.deliveries[receipt.receiptId]? = some delivery →
        delivery.payload = receipt ∧ state.acknowledges delivery.position = false
  | .claim _ => True
  | .requeue _ => True
  | .acknowledge _ => True

end MemoryState

open MemoryState

namespace LedgerEffect

variable {before : MemoryState} {operation : LedgerOperation}
  {result : MemoryState × Except ControlStoreError LedgerReply}

theorem keeps_spooled (effect : LedgerEffect digests before operation result)
    (spooled : before.Spooled) (admits : before.Admits operation) : result.1.Spooled := by
  cases effect with
  | refused monotone => exact spooled.skip monotone
  | known | repeated | duplicate => exact spooled
  | claimed => exact spooled.claimed
  | @completed _ _ receipt delivery after _ _ fresh spools =>
    have respooled := spooled.respool spools (by simp [fresh])
    have present : ((before.spooled receipt delivery after).queue delivery).deliveries[
        receipt.receiptId]? = some delivery := by
      rw [queue, deliveries_spooled, if_pos rfl]
    exact respooled.finish present (new_eq_ok spools.sealed).2.1
  | joined inProgress _ present =>
    obtain ⟨contents, above⟩ := admits inProgress _ present
    rw [spooled.queue_eq present above]
    exact spooled.finish present contents
  | requeued _ present above =>
    rw [spooled.queue_eq present above]
    exact spooled
  | @renewed key intentDigest receipt _ _ _ stored present covered spools =>
    refine spooled.respool spools fun other found => ?_
    obtain ⟨_, held, contents⟩ := spooled.delivered key intentDigest receipt stored
    cases present.symm.trans found
    cases present.symm.trans held
    exact ⟨contents, covered⟩
  | @applied _ id terminal _ present position _ advances =>
    exact spooled.retire (position ▸ spooled.assigned id terminal present) advances

theorem nextPosition_le (effect : LedgerEffect digests before operation result) :
    before.nextPosition ≤ result.1.nextPosition := by
  cases effect with
  | refused monotone => exact monotone
  | known | claimed | repeated | joined
  | requeued | duplicate | applied => exact UInt64.le_refl _
  | completed _ _ _ spools | renewed _ _ _ spools =>
    exact UInt64.le_of_lt (checkedAdd_one_eq_some.mp spools.successor).1

variable {key : LedgerJobKey} {intentDigest : String} {receipt : ActionReceiptPayload}
  {delivery : SpooledActionReceipt}

/-- Terminal receipts stay where they are. -/
theorem completed_mono (effect : LedgerEffect digests before operation result)
    (stored : before.Completed key intentDigest receipt) :
    result.1.Completed key intentDigest receipt := by
  have finished : ∀ {state : MemoryState} {other : LedgerJobKey} {bound : String}
      (terminal : ActionReceiptPayload), state.jobs = before.jobs → before.InProgress other bound →
        (state.finish other bound terminal).Completed key intentDigest receipt := by
    intro _ _ _ _ same inProgress
    obtain ⟨_, found⟩ := inProgress
    simp only [MemoryState.Completed, finish, same, Std.ExtTreeMap.getElem?_insert]
    split
    · rename_i equal
      rw [Std.compare_eq_iff_eq.mp equal] at found
      cases found.symm.trans stored
    · exact stored
  cases effect with
  | refused | known | repeated | requeued
  | renewed | duplicate
  | applied => exact stored
  | @claimed _ fresh =>
    simp only [MemoryState.Completed, Std.ExtTreeMap.getElem?_insert]
    split
    · rename_i equal
      rw [Std.compare_eq_iff_eq.mp equal] at fresh
      cases fresh.symm.trans stored
    · exact stored
  | completed inProgress | joined inProgress =>
    exact finished _ rfl inProgress

/-- A delivery made between two states: it has the next position, it is the sealed form of its
receipt, and the receipt is terminal. -/
structure NewDelivery (digests : CanonicalDigests) (before after : MemoryState)
    (delivery : SpooledActionReceipt) : Prop where
  position : delivery.position = before.nextPosition
  assigned : delivery.position < after.nextPosition
  sealed : new digests delivery.position delivery.payload = .ok delivery
  terminal : ∃ key intentDigest, after.Completed key intentDigest delivery.payload

theorem newDelivery {after : MemoryState}
    (spools : before.Spools digests receipt delivery after.nextPosition)
    (completed : after.Completed key intentDigest receipt) :
    NewDelivery digests before after delivery := by
  have sealed := spools.sealed
  obtain ⟨position, payload, -, -⟩ := new_eq_ok sealed
  rw [← position, ← payload] at sealed
  rw [← payload] at completed
  refine ⟨position, ?_, sealed, key, intentDigest, completed⟩
  rw [position]
  exact (checkedAdd_one_eq_some.mp spools.successor).1

theorem delivery_cases (effect : LedgerEffect digests before operation result) {id : String}
    (present : result.1.deliveries[id]? = some delivery) :
    before.deliveries[id]? = some delivery ∨ NewDelivery digests before result.1 delivery := by
  cases effect with
  | refused | known | claimed | repeated | joined
  | requeued | duplicate | applied => exact .inl present
  | @completed key intentDigest receipt new after _ _ _ spools =>
    change (before.spooled receipt new after).deliveries[id]? = some delivery at present
    rw [deliveries_spooled] at present
    split at present
    · cases present
      exact .inr (newDelivery spools (completed_finish _ key intentDigest receipt))
    · exact .inl present
  | @renewed _ _ receipt _ new after stored _ _ spools =>
    change (before.spooled receipt new after).deliveries[id]? = some delivery at present
    rw [deliveries_spooled] at present
    split at present
    · cases present
      exact .inr (newDelivery spools stored)
    · exact .inl present

end LedgerEffect

end AetherIot.IntegrationControl
