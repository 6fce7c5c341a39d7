import AetherIot.Foundation.Attempt
import AetherIot.IntegrationControl.LedgerFile

/-!
# What a ledger operation does

Both ledgers change their shared state in the same ways.  `LedgerEffect` lists them, each with the
reply it comes with; the invariants of the ledger are proved from this list alone.
-/

namespace AetherIot.IntegrationControl

open MachineText OrderedMap CloudLink Bytes Attempt

/-- The receipt is the terminal receipt of the job, claimed under the digest. -/
def MemoryState.Completed (state : MemoryState) (key : LedgerJobKey) (intentDigest : String)
    (receipt : ActionReceiptPayload) : Prop :=
  state.jobs[key]? = some (.complete intentDigest receipt)

/-- The job is claimed under the digest and has no terminal receipt. -/
def MemoryState.InProgress (state : MemoryState) (key : LedgerJobKey) (intentDigest : String) :
    Prop :=
  ∃ claim, state.jobs[key]? = some ⟨intentDigest, .inProgress claim⟩

section

variable (digests : CanonicalDigests) (state : MemoryState) (receipt : ActionReceiptPayload)
  (delivery : SpooledActionReceipt)

/-- `delivery` spools the receipt under the next position. -/
structure MemoryState.Spools (after : UInt64) : Prop where
  successor : checkedAdd state.nextPosition 1 = some after
  sealed : SpooledActionReceipt.new digests state.nextPosition receipt = .ok delivery

def MemoryState.spooled (after : UInt64) : MemoryState :=
  { state with
    nextPosition := after
    deliveries := state.deliveries.insert receipt.receiptId delivery }

end

/-- The change of the shared state by an operation, and the reply. -/
inductive LedgerEffect (digests : CanonicalDigests) (before : MemoryState) :
    LedgerOperation → MemoryState × Except ControlStoreError LedgerReply → Prop
  | refused {operation : LedgerOperation} {after : UInt64} (monotone : before.nextPosition ≤ after) :
      LedgerEffect digests before operation ({ before with nextPosition := after }, .error {})
  | known {claim : LedgerClaim} {entry : LedgerEntry}
      (bound : before.jobs[claim.key]? = some entry) :
      LedgerEffect digests before (.claim claim)
        (before, .ok (.claim (if entry.intentDigest = claim.intentDigest then .existing entry
          else .digestConflict)))
  | claimed {claim : LedgerClaim} (fresh : before.jobs[claim.key]? = none) :
      LedgerEffect digests before (.claim claim)
        ({ before with jobs := before.jobs.insert claim.key (.inProgress claim) },
          .ok (.claim .claimed))
  | repeated {key : LedgerJobKey} {intentDigest : String} {receipt : ActionReceiptPayload}
      (stored : before.Completed key intentDigest receipt) :
      LedgerEffect digests before (.complete key intentDigest receipt) (before, .ok .completed)
  | completed {key : LedgerJobKey} {intentDigest : String} {receipt : ActionReceiptPayload}
      {delivery : SpooledActionReceipt} {after : UInt64}
      (inProgress : before.InProgress key intentDigest) (names : receipt.jobId = key.jobId ∧
        receipt.intentDigest = intentDigest)
      (fresh : before.deliveries[receipt.receiptId]? = none)
      (spools : before.Spools digests receipt delivery after) :
      LedgerEffect digests before (.complete key intentDigest receipt)
        (((before.spooled receipt delivery after).queue delivery).finish key intentDigest receipt,
          .ok .completed)
  | joined {key : LedgerJobKey} {intentDigest : String} {receipt : ActionReceiptPayload}
      {delivery : SpooledActionReceipt} (inProgress : before.InProgress key intentDigest)
      (names : receipt.jobId = key.jobId ∧ receipt.intentDigest = intentDigest)
      (present : before.deliveries[receipt.receiptId]? = some delivery) :
      LedgerEffect digests before (.complete key intentDigest receipt)
        ((before.queue delivery).finish key intentDigest receipt, .ok .completed)
  | requeued {key : LedgerJobKey} {intentDigest : String} {receipt : ActionReceiptPayload}
      {delivery : SpooledActionReceipt} (stored : before.Completed key intentDigest receipt)
      (present : before.deliveries[receipt.receiptId]? = some delivery)
      (above : before.acknowledges delivery.position = false) :
      LedgerEffect digests before (.requeue key) (before.queue delivery, .ok .requeued)
  | renewed {key : LedgerJobKey} {intentDigest : String} {receipt : ActionReceiptPayload}
      {old delivery : SpooledActionReceipt} {after : UInt64}
      (stored : before.Completed key intentDigest receipt)
      (present : before.deliveries[receipt.receiptId]? = some old)
      (covered : before.acknowledges old.position = true)
      (spools : before.Spools digests receipt delivery after) :
      LedgerEffect digests before (.requeue key)
        ((before.spooled receipt delivery after).queue delivery, .ok .requeued)
  | duplicate {ack : CloudLinkDurableAck} (last : before.lastAck = some ack) :
      LedgerEffect digests before (.acknowledge ack) (before, .ok (.acknowledged .duplicate))
  | applied {ack : CloudLinkDurableAck} {id : String} {terminal : SpooledActionReceipt}
      (positive : 0 < ack.acknowledgedPosition)
      (present : before.deliveries[id]? = some terminal)
      (position : terminal.position = ack.acknowledgedPosition)
      (queued : before.pending[terminal.position]? = some terminal)
      (advances : before.acknowledges ack.acknowledgedPosition = false) :
      LedgerEffect digests before (.acknowledge ack)
        ((before.retire ack).1, .ok (.acknowledged (before.retire ack).2))

namespace MemoryState

variable {digests : CanonicalDigests} {state : MemoryState}

theorem refused_unchanged {operation : LedgerOperation} :
    LedgerEffect digests state operation (state, .error {}) :=
  .refused (UInt64.le_refl _)

/-- Spooling a receipt either spools it or refuses, possibly after the position was taken. -/
theorem spool_cases (digests : CanonicalDigests) (state : MemoryState)
    (receipt : ActionReceiptPayload) :
    (∃ after, state.nextPosition ≤ after ∧
        state.spool digests receipt = ({ state with nextPosition := after }, .error {})) ∨
      ∃ delivery after, state.Spools digests receipt delivery after ∧
        state.spool digests receipt = (state.spooled receipt delivery after, .ok delivery) := by
  simp only [spool]
  cases successor : checkedAdd state.nextPosition 1 with
  | none => exact .inl ⟨state.nextPosition, UInt64.le_refl _, rfl⟩
  | some after =>
    cases sealed : SpooledActionReceipt.new digests state.nextPosition receipt with
    | error =>
      exact .inl ⟨after, UInt64.le_of_lt (checkedAdd_one_eq_some.mp successor).1, rfl⟩
    | ok delivery => exact .inr ⟨delivery, after, ⟨successor, sealed⟩, rfl⟩

theorem completeEntry_effect {key : LedgerJobKey} {intentDigest : String}
    {receipt : ActionReceiptPayload}
    (names : receipt.jobId = key.jobId ∧ receipt.intentDigest = intentDigest) :
    LedgerEffect digests state (.complete key intentDigest receipt)
      (Prod.map id (Except.map fun () => .completed)
        (state.completeEntry digests key intentDigest receipt)) := by
  simp only [completeEntry]
  cases found : state.jobs[key]? with
  | none => exact refused_unchanged
  | some existing =>
    obtain ⟨bound, status⟩ := existing
    by_cases same : bound = intentDigest
    · subst same
      simp only [ne_eq, not_true_eq_false, if_false]
      cases status with
      | complete stored =>
        by_cases equal : stored = receipt
        · subst equal
          have repeated : LedgerEffect digests state (.complete key bound stored)
              (state, .ok .completed) := .repeated found
          simpa [Except.map] using repeated
        · simpa [Except.map, equal] using refused_unchanged
      | inProgress claim =>
        have inProgress : state.InProgress key bound := ⟨claim, found⟩
        cases present : state.deliveries[receipt.receiptId]? with
        | some => exact .joined inProgress names present
        | none =>
          rcases spool_cases digests state receipt with
            ⟨after, monotone, spooled⟩ | ⟨delivery, after, spools, spooled⟩
          · simp only [spooled]
            exact .refused monotone
          · simp only [spooled]
            exact .completed inProgress names present spools
    · simp only [ne_eq, same, not_false_eq_true, if_true]
      exact refused_unchanged

section

variable (digests) (state) (key : LedgerJobKey)

theorem requeue_effect : LedgerEffect digests state (.requeue key)
      (Prod.map id (Except.map fun () => .requeued) (state.requeue digests key)) := by
  simp only [requeue]
  cases found : state.jobs[key]? with
  | none => exact refused_unchanged
  | some entry =>
    obtain ⟨bound, status⟩ := entry
    cases status with
    | inProgress => exact refused_unchanged
    | complete receipt =>
      have stored : state.Completed key bound receipt := found
      simp only [Option.map_some]
      cases present : state.deliveries[receipt.receiptId]? with
      | none => exact refused_unchanged
      | some delivery =>
        cases covered : state.acknowledges delivery.position with
        | false =>
          simp only [covered, Bool.false_eq_true, if_false]
          exact .requeued stored present covered
        | true =>
          simp only [covered, if_true]
          rcases spool_cases digests state receipt with
            ⟨after, monotone, spooled⟩ | ⟨renewed, after, spools, spooled⟩
          · simp only [spooled]
            exact .refused monotone
          · simp only [spooled]
            exact .renewed stored present covered spools

theorem claim_effect (claim : LedgerClaim) :
    LedgerEffect digests state (.claim claim) (state.perform digests (.claim claim)) := by
  simp only [perform, MemoryState.claim]
  cases found : state.jobs[claim.key]? with
  | none => exact .claimed found
  | some => exact .known found

theorem complete_effect (intentDigest : String) (receipt : ActionReceiptPayload) :
    LedgerEffect digests state (.complete key intentDigest receipt)
      (state.perform digests (.complete key intentDigest receipt)) := by
  simp only [perform, complete]
  split
  · exact refused_unchanged
  · rename_i names
    rw [not_or, not_ne_iff, not_ne_iff] at names
    exact completeEntry_effect names

end

/-- An acknowledgement that names a queued delivery above the last one is applied. -/
theorem acknowledge_applied {ack : CloudLinkDurableAck} {terminal : SpooledActionReceipt}
    (positive : ack.acknowledgedPosition ≠ 0)
    (found : ((valueList state.deliveries).find? fun record =>
      record.position = ack.acknowledgedPosition) = some terminal)
    (queued : state.pending[terminal.position]? = some terminal)
    (advances : state.acknowledges ack.acknowledgedPosition = false) :
    LedgerEffect digests state (.acknowledge ack)
      ((state.retire ack).1, .ok (.acknowledged (state.retire ack).2)) := by
  obtain ⟨named, _, present⟩ := of_valueList_find?_eq_some found
  have positive : 0 < ack.acknowledgedPosition := UInt64.pos_iff_ne_zero.mpr positive
  exact .applied positive present (by simpa using named) queued advances

section

variable (digests) (state)

theorem acknowledge_effect (ack : CloudLinkDurableAck) :
    LedgerEffect digests state (.acknowledge ack) (state.perform digests (.acknowledge ack)) := by
  simp only [perform, acknowledge]
  by_cases last : state.lastAck = some ack
  · rw [if_pos last]
    exact .duplicate last
  · rw [if_neg last]
    cases rejected : state.rejectsAck ack with
    | true =>
      rw [if_pos rfl]
      exact refused_unchanged
    | false =>
      rw [if_neg (by simp)]
      split
      · split
        · exact refused_unchanged
        · rename_i found
          split
          · exact refused_unchanged
          · rename_i agrees
            simp only [not_or, not_ne_iff] at agrees
            simp only [rejectsAck, Bool.or_eq_false_iff, decide_eq_false_iff_not] at rejected
            exact acknowledge_applied rejected.1.1.2 found agrees.2.2 rejected.2
      · exact refused_unchanged

/-- Every operation of the process-local ledger has one of the effects. -/
theorem perform_effect (operation : LedgerOperation) :
    LedgerEffect digests state operation (state.perform digests operation) := by
  cases operation with
  | claim claim => exact claim_effect digests state claim
  | complete key intentDigest receipt => exact complete_effect digests state key intentDigest receipt
  | requeue key => exact requeue_effect digests state key
  | acknowledge ack => exact acknowledge_effect digests state ack

end

end MemoryState

/-- Storing a receipt replaces the entry of its job. -/
theorem MemoryState.size_finish {state : MemoryState} {key : LedgerJobKey} {intentDigest : String}
    (inProgress : state.InProgress key intentDigest) (receipt : ActionReceiptPayload) :
    (state.finish key intentDigest receipt).jobs.size = state.jobs.size := by
  obtain ⟨_, found⟩ := inProgress
  have member : key ∈ state.jobs := by
    rw [Std.ExtTreeMap.mem_iff_isSome_getElem?, found]
    rfl
  simp [finish, Std.ExtTreeMap.size_insert, member]

namespace LedgerEffect

variable {digests : CanonicalDigests} {before : MemoryState} {operation : LedgerOperation}
  {result : MemoryState × Except ControlStoreError LedgerReply}

section

variable (effect : LedgerEffect digests before operation result)

include effect

/-- Only a claim adds a job. -/
theorem size_jobs (other : ∀ claim, operation ≠ .claim claim) :
    result.1.jobs.size = before.jobs.size := by
  cases effect with
  | refused | repeated | requeued | renewed
  | duplicate | applied => rfl
  | @known claim | @claimed claim => exact absurd rfl (other claim)
  | completed inProgress | joined inProgress =>
    exact MemoryState.size_finish inProgress _

theorem entry_cases {key : LedgerJobKey} {entry : LedgerEntry}
    (present : result.1.jobs[key]? = some entry) :
    before.jobs[key]? = some entry ∨
      (∃ claim, operation = .claim claim ∧ claim.key = key ∧ .inProgress claim = entry) ∨
      ∃ intentDigest receipt, before.InProgress key intentDigest ∧
        (receipt.jobId = key.jobId ∧ receipt.intentDigest = intentDigest) ∧
        .complete intentDigest receipt = entry := by
  have finished : ∀ {state : MemoryState} {other : LedgerJobKey} {bound : String}
      {terminal : ActionReceiptPayload}, state.jobs = before.jobs → before.InProgress other bound →
      (terminal.jobId = other.jobId ∧ terminal.intentDigest = bound) →
      (state.finish other bound terminal).jobs[key]? = some entry →
        before.jobs[key]? = some entry ∨ ∃ intentDigest receipt, before.InProgress key intentDigest ∧
          (receipt.jobId = key.jobId ∧ receipt.intentDigest = intentDigest) ∧
          .complete intentDigest receipt = entry := by
    intro _ _ bound terminal same inProgress names found
    rw [MemoryState.finish, same, Std.ExtTreeMap.getElem?_insert] at found
    split at found
    · rename_i equal
      obtain rfl := Std.compare_eq_iff_eq.mp equal
      exact .inr ⟨bound, terminal, inProgress, names, Option.some.inj found⟩
    · exact .inl found
  cases effect with
  | refused | known | repeated | requeued
  | renewed | duplicate
  | applied => exact .inl present
  | @claimed claim =>
    rw [Std.ExtTreeMap.getElem?_insert] at present
    split at present
    · rename_i equal
      exact .inr (.inl ⟨claim, rfl, Std.compare_eq_iff_eq.mp equal, Option.some.inj present⟩)
    · exact .inl present
  | completed inProgress names | joined inProgress names =>
    exact (finished rfl inProgress names present).imp_right .inr

/-- Only an acknowledgement moves the last acknowledged position. -/
theorem lastAck_eq (other : ∀ ack, operation ≠ .acknowledge ack) :
    result.1.lastAck = before.lastAck := by
  cases effect with
  | refused | known | claimed | repeated
  | completed | joined
  | requeued | renewed => rfl
  | @duplicate ack | @applied ack => exact absurd rfl (other ack)

end

end LedgerEffect

namespace LedgerState

variable {digests : CanonicalDigests} {state next : LedgerState} {reply : LedgerReply}

theorem keep_eq_ok {α : Type} {change : MemoryState × Except ControlStoreError α} {result : α}
    (kept : state.keep change = .ok (next, result)) :
    change = (next.toMemoryState, .ok result) ∧ next.lastAckTerminal = state.lastAckTerminal := by
  obtain ⟨_, outcome⟩ := change
  cases outcome with
  | error => simp [keep, Except.map] at kept
  | ok =>
    simp only [keep, Except.map, Except.ok.injEq, Prod.mk.injEq] at kept
    obtain ⟨rfl, rfl⟩ := kept
    exact ⟨rfl, rfl⟩

variable {ack : CloudLinkDurableAck} {operation : LedgerOperation} {key : LedgerJobKey}

/-- The delivery an acknowledgement names, and what was checked of it. -/
theorem terminalForAck_eq_ok {deliveries : BTreeMap String SpooledActionReceipt}
    {terminal : SpooledActionReceipt} (named : terminalForAck ack deliveries = .ok terminal) :
    ((valueList deliveries).find? fun record => record.position = ack.acknowledgedPosition) =
        some terminal ∧ validateAckAgainstTerminal ack terminal = .ok () ∧
      ack.acknowledgedPosition ≠ 0 := by
  obtain ⟨_, identity, named⟩ := bind_eq_ok.mp named
  split at named
  · cases named
  rename_i found
  obtain ⟨_, agrees, ⟨⟩⟩ := bind_eq_ok.mp named
  refine ⟨found, agrees, ?_⟩
  obtain ⟨accepted, -⟩ := refuse_eq_ok.mp identity
  simp only [Bool.or_eq_true, decide_eq_true_eq, not_or] at accepted
  exact accepted.1.1.1.2

/-- A state computed by the file ledger: an effect on the shared state, and the delivery named by
the last acknowledgement. -/
structure Computes (digests : CanonicalDigests) (state : LedgerState)
    (operation : LedgerOperation) (next : LedgerState) (reply : LedgerReply) : Prop where
  effect : LedgerEffect digests state.toMemoryState operation (next.toMemoryState, .ok reply)
  bounded : state.jobs.size ≤ maxJobs → next.jobs.size ≤ maxJobs
  terminal : next.lastAck = state.lastAck ∧ next.lastAckTerminal = state.lastAckTerminal ∨
    ∃ ack terminal, next.lastAck = some ack ∧ next.lastAckTerminal = some terminal ∧
      validateAckAgainstTerminal ack terminal = .ok () ∧ state.deliveries = next.deliveries ∧
      state.pending[terminal.position]? = some terminal

theorem claim_computes {claim : LedgerClaim}
    (computed : state.compute digests (.claim claim) = .ok (next, reply)) :
    Computes digests state (.claim claim) next reply := by
  simp only [compute, LedgerState.claim] at computed
  cases found : state.jobs[claim.key]? with
  | some =>
    simp only [found, Except.map, Prod.map, id_eq, Except.ok.injEq, Prod.mk.injEq] at computed
    obtain ⟨rfl, rfl⟩ := computed
    exact ⟨.known found, id, .inl ⟨rfl, rfl⟩⟩
  | none =>
    simp only [found] at computed
    split at computed
    · cases computed
    · rename_i room
      simp only [Except.map, Prod.map, id_eq, Except.ok.injEq, Prod.mk.injEq] at computed
      obtain ⟨rfl, rfl⟩ := computed
      refine ⟨.claimed found, fun _ => ?_, .inl ⟨rfl, rfl⟩⟩
      have grown := Std.ExtTreeMap.size_insert_le (t := state.jobs) (k := claim.key)
        (v := LedgerEntry.inProgress claim)
      change (state.jobs.insert claim.key (.inProgress claim)).size ≤ maxJobs
      omega

theorem kept_effect {answer : LedgerReply} {change : MemoryState × Except ControlStoreError Unit}
    (computed : (state.keep change).map (Prod.map id fun () => answer) = .ok (next, reply))
    (effect : LedgerEffect digests state.toMemoryState operation
      (Prod.map id (Except.map fun () => answer) change)) :
    LedgerEffect digests state.toMemoryState operation (next.toMemoryState, .ok reply) ∧
      next.lastAckTerminal = state.lastAckTerminal := by
  obtain ⟨_, kept, ⟨⟩⟩ := map_eq_ok.mp computed
  obtain ⟨rfl, same⟩ := keep_eq_ok kept
  exact ⟨effect, same⟩

theorem complete_computes {intentDigest : String} {receipt : ActionReceiptPayload}
    (computed : state.compute digests (.complete key intentDigest receipt) = .ok (next, reply)) :
    Computes digests state (.complete key intentDigest receipt) next reply := by
  simp only [compute, complete, bind, Except.bind] at computed
  split at computed
  · cases computed
  split at computed
  · cases computed
  rename_i names
  rw [not_or, not_ne_iff, not_ne_iff] at names
  obtain ⟨effect, terminal⟩ := kept_effect computed (MemoryState.completeEntry_effect names)
  refine ⟨effect, fun bounded => ?_, .inl ⟨effect.lastAck_eq (by simp), terminal⟩⟩
  exact (effect.size_jobs (by simp)).trans_le bounded

theorem requeue_computes (computed : state.compute digests (.requeue key) = .ok (next, reply)) :
    Computes digests state (.requeue key) next reply := by
  obtain ⟨effect, terminal⟩ :=
    kept_effect computed (MemoryState.requeue_effect digests state.toMemoryState key)
  refine ⟨effect, fun bounded => ?_, .inl ⟨effect.lastAck_eq (by simp), terminal⟩⟩
  exact (effect.size_jobs (by simp)).trans_le bounded

theorem acknowledge_computes
    (computed : state.compute digests (.acknowledge ack) = .ok (next, reply)) :
    Computes digests state (.acknowledge ack) next reply := by
  simp only [compute, acknowledge] at computed
  by_cases last : state.lastAck = some ack
  · simp only [last, if_true, Except.map, Prod.map, id_eq, Except.ok.injEq,
      Prod.mk.injEq] at computed
    obtain ⟨rfl, rfl⟩ := computed
    exact ⟨.duplicate last, id, .inl ⟨rfl, rfl⟩⟩
  · simp only [last, if_false, bind, Except.bind] at computed
    cases named : terminalForAck ack state.deliveries with
    | error => simp [named, Except.map] at computed
    | ok terminal =>
      obtain ⟨found, agrees, positive⟩ := terminalForAck_eq_ok named
      by_cases queued : state.pending[terminal.position]? = some terminal
      · cases advances : state.acknowledges ack.acknowledgedPosition with
        | true => simp [named, queued, advances, Except.map] at computed
        | false =>
          simp only [named, queued, advances, ne_eq, not_true_eq_false, if_false,
            Bool.false_eq_true, Except.map, pure, Except.pure, Prod.map, id_eq,
            Except.ok.injEq, Prod.mk.injEq] at computed
          obtain ⟨rfl, rfl⟩ := computed
          exact ⟨MemoryState.acknowledge_applied positive found queued advances, id,
            .inr ⟨ack, terminal, rfl, rfl, agrees, rfl, queued⟩⟩
      · simp [named, queued, Except.map] at computed

/-- Every state the file ledger computes is the result of an effect. -/
theorem compute_computes (computed : state.compute digests operation = .ok (next, reply)) :
    Computes digests state operation next reply := by
  cases operation with
  | claim => exact claim_computes computed
  | complete => exact complete_computes computed
  | requeue => exact requeue_computes computed
  | acknowledge => exact acknowledge_computes computed

end LedgerState

end AetherIot.IntegrationControl
