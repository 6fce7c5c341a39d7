import AetherIot.Foundation.GuardedRun
import AetherIot.IntegrationControl.ReceiptSpool

/-!
# Every terminal receipt reaches the cloud

In every run of a ledger in which no two jobs share a receipt identifier, the receipt of a terminal
job is pending above the last acknowledgement or was covered by an acknowledgement while it was
pending.  Positions are handed out in ascending order, and a requeued receipt is pending.
-/

namespace AetherIot.IntegrationControl

open MachineText OrderedMap CloudLink Bytes GuardedRun MemoryState

variable (digests : CanonicalDigests)

/-- A ledger whose operations have the effects of ledger operations on the shared state. -/
structure LedgerMachine (σ ι : Type) where
  core : σ → MemoryState
  operation : ι → LedgerOperation
  perform : σ → ι → σ × Except ControlStoreError LedgerReply
  effect : ∀ state input, LedgerEffect digests (core state) (operation input)
    (core (perform state input).1, (perform state input).2)

/-- The process-local ledger. -/
def memoryLedger : LedgerMachine digests MemoryState LedgerOperation where
  core := id
  operation := id
  perform := perform digests
  effect := perform_effect digests

theorem FileLedger.perform_effect (digests : CanonicalDigests) (codec : Codec FileDocument)
    (ledger : FileLedger) (operation : LedgerOperation) (outcome : PersistOutcome) :
    LedgerEffect digests ledger.state.toMemoryState operation
      ((ledger.perform digests codec operation outcome).1.state.toMemoryState,
        (ledger.perform digests codec operation outcome).2) := by
  simp only [perform, mutate]
  cases computed : ledger.state.compute digests operation with
  | error => exact refused_unchanged
  | ok result =>
    obtain ⟨next, _⟩ := result
    have effect := (LedgerState.compute_computes computed).effect
    by_cases same : next = ledger.state
    · simp only [same, if_true]
      exact same ▸ effect
    · simp only [same, if_false]
      cases persist codec ledger.file next outcome with
      | mk _ result =>
        cases result with
        | error => exact refused_unchanged
        | ok => exact effect

/-- The file ledger; an input is an operation and how far its replacement of the file gets. -/
def fileLedger (codec : Codec FileDocument) :
    LedgerMachine digests FileLedger (LedgerOperation × PersistOutcome) where
  core ledger := ledger.state.toMemoryState
  operation := Prod.fst
  perform ledger input := ledger.perform digests codec input.1 input.2
  effect ledger input := ledger.perform_effect digests codec input.1 input.2

/-- The receipt is queued at a position above the last acknowledgement. -/
def MemoryState.Pending (state : MemoryState) (receipt : ActionReceiptPayload) : Prop :=
  ∃ delivery : SpooledActionReceipt, state.pending[delivery.position]? = some delivery ∧
    delivery.payload = receipt ∧ state.acknowledges delivery.position = false

/-- The positions of the deliveries that an operation made. -/
def handedOut (before after : MemoryState) : List UInt64 :=
  ((valueList after.deliveries).filter fun delivery =>
    decide (delivery ∉ valueList before.deliveries)).map SpooledActionReceipt.position

/-- Completing two jobs takes two receipt identifiers. -/
def DistinctReceipts (operations : List LedgerOperation) : Prop :=
  ∀ (key other : LedgerJobKey) (intentDigest otherDigest : String)
    (receipt otherReceipt : ActionReceiptPayload),
    .complete key intentDigest receipt ∈ operations →
    .complete other otherDigest otherReceipt ∈ operations →
    receipt.receiptId = otherReceipt.receiptId → key = other

namespace LedgerMachine

variable {digests : CanonicalDigests} {σ ι : Type} (machine : LedgerMachine digests σ ι)

def step (state : σ) (input : ι) : σ := (machine.perform state input).1

/-- The shared state after a run. -/
def reached (initial : σ) (inputs : List ι) : MemoryState :=
  machine.core (run machine.step initial inputs)

def Covered (initial : σ) (inputs : List ι) (receipt : ActionReceiptPayload) : Prop :=
  ∃ (front : List ι) (input : ι) (back : List ι) (ack : CloudLinkDurableAck) (removed : Nat)
    (delivery : SpooledActionReceipt), inputs = front ++ input :: back ∧
    machine.operation input = .acknowledge ack ∧
    (machine.perform (run machine.step initial front) input).2 =
      .ok (.acknowledged (.applied removed)) ∧
    (machine.reached initial front).pending[delivery.position]? = some delivery ∧
    delivery.payload = receipt ∧ delivery.position ≤ ack.acknowledgedPosition

/-- The positions handed out during a run, in order. -/
def positionsHandedOut : σ → List ι → List UInt64
  | _, [] => []
  | state, input :: inputs =>
    handedOut (machine.core state) (machine.core (machine.step state input)) ++
      positionsHandedOut (machine.step state input) inputs

/-- Every terminal receipt reaches the cloud. -/
structure DeliversReceipts (initial : σ) (inputs : List ι) : Prop where
  /-- A terminal receipt is pending or was acknowledged. -/
  accounted : ∀ (key : LedgerJobKey) (intentDigest : String) (receipt : ActionReceiptPayload),
    (machine.reached initial inputs).Completed key intentDigest receipt →
      (machine.reached initial inputs).Pending receipt ∨ machine.Covered initial inputs receipt
  /-- Positions ascend and are never reused. -/
  ascending : (machine.positionsHandedOut initial inputs).Pairwise (· < ·)
  /-- A successful requeue makes the receipt pending. -/
  requeued : ∀ (input : ι) (key : LedgerJobKey) (intentDigest : String)
    (receipt : ActionReceiptPayload), machine.operation input = .requeue key →
    (machine.perform (run machine.step initial inputs) input).2 = .ok .requeued →
    (machine.reached initial inputs).Completed key intentDigest receipt →
      (machine.core (machine.step (run machine.step initial inputs) input)).Pending receipt

end LedgerMachine

/-- The operation completes the job that owns the receipt identifier. -/
def LedgerOperation.Respects (owner : String → LedgerJobKey) : LedgerOperation → Prop
  | .complete key _ receipt => owner receipt.receiptId = key
  | .claim _ => True
  | .requeue _ => True
  | .acknowledge _ => True

theorem DistinctReceipts.exists_owner {operations : List LedgerOperation}
    (distinct : DistinctReceipts operations) :
    ∃ owner, ∀ operation ∈ operations, operation.Respects owner := by
  have named : ∀ id : String, ∃ key : LedgerJobKey, ∀ other intentDigest receipt,
      LedgerOperation.complete other intentDigest receipt ∈ operations →
        receipt.receiptId = id → key = other := by
    intro id
    by_cases used : ∃ key intentDigest receipt,
        LedgerOperation.complete key intentDigest receipt ∈ operations ∧ receipt.receiptId = id
    · obtain ⟨key, intentDigest, receipt, member, rfl⟩ := used
      exact ⟨key, fun other digest stored found same =>
        distinct key other intentDigest digest receipt stored member found same.symm⟩
    · exact ⟨⟨id, id⟩, fun other intentDigest receipt member same =>
        absurd ⟨other, intentDigest, receipt, member, same⟩ used⟩
  choose owner owns using named
  refine ⟨owner, fun operation member => ?_⟩
  cases operation with
  | claim | requeue | acknowledge => trivial
  | complete key intentDigest receipt => exact owns _ key intentDigest receipt member rfl

/-- The owner of every spooled receipt has its terminal receipt. -/
def MemoryState.Owned (owner : String → LedgerJobKey) (state : MemoryState) : Prop :=
  ∀ (id : String) (delivery : SpooledActionReceipt), state.deliveries[id]? = some delivery →
    ∃ intentDigest receipt, state.Completed (owner id) intentDigest receipt

section Owned

variable {digests : CanonicalDigests} {owner : String → LedgerJobKey} {before : MemoryState}
  {operation : LedgerOperation} {result : MemoryState × Except ControlStoreError LedgerReply}

/-- A job in progress does not own a spooled receipt. -/
theorem MemoryState.Owned.admits (owned : before.Owned owner)
    (respects : operation.Respects owner) : before.Admits operation := by
  cases operation with
  | claim | requeue | acknowledge => trivial
  | complete key _ receipt =>
    intro inProgress delivery present
    obtain ⟨_, found⟩ := inProgress
    obtain ⟨_, _, completed⟩ := owned _ delivery present
    rw [show owner receipt.receiptId = key from respects] at completed
    cases found.symm.trans completed

theorem LedgerEffect.keeps_owned (effect : LedgerEffect digests before operation result)
    (respects : operation.Respects owner) (owned : before.Owned owner) : result.1.Owned owner := by
  intro id delivery present
  by_cases old : ∃ other, before.deliveries[id]? = some other
  · obtain ⟨other, held⟩ := old
    obtain ⟨intentDigest, receipt, completed⟩ := owned id other held
    exact ⟨intentDigest, receipt, effect.completed_mono completed⟩
  · have absent : before.deliveries[id]? ≠ some delivery := fun held => old ⟨delivery, held⟩
    cases effect with
    | refused | known | claimed | repeated
    | joined | requeued | duplicate
    | applied => exact absurd present absent
    | @completed key intentDigest receipt new after =>
      by_cases same : receipt.receiptId = id
      · refine ⟨intentDigest, receipt, ?_⟩
        rw [← same, show owner receipt.receiptId = key from respects]
        exact completed_finish _ key intentDigest receipt
      · change (before.spooled receipt new after).deliveries[id]? = some delivery at present
        rw [deliveries_spooled, if_neg same] at present
        exact absurd present absent
    | @renewed _ _ receipt held new after _ queued =>
      change (before.spooled receipt new after).deliveries[id]? = some delivery at present
      rw [deliveries_spooled] at present
      split at present
      · rename_i same
        exact absurd ⟨held, same ▸ queued⟩ old
      · exact absurd present absent

end Owned

namespace LedgerEffect

variable {digests : CanonicalDigests} {before after : MemoryState} {operation : LedgerOperation}
  {result : MemoryState × Except ControlStoreError LedgerReply}

section

variable (effect : LedgerEffect digests before operation result)

include effect

theorem ack_cases :
    result.1.lastAck = before.lastAck ∨ ∃ ack removed, operation = .acknowledge ack ∧
      result.2 = .ok (.acknowledged (.applied removed)) ∧ result.1.lastAck = some ack ∧
      result.1.deliveries = before.deliveries := by
  cases effect with
  | refused | known | claimed | repeated
  | completed | joined
  | requeued | renewed | duplicate => exact .inl rfl
  | @applied ack =>
    exact .inr ⟨ack, _, rfl, rfl, rfl, rfl⟩

theorem handedOut_cases {position : UInt64} (member : position ∈ handedOut before result.1) :
    position = before.nextPosition ∧ position < result.1.nextPosition := by
  obtain ⟨_, made, rfl⟩ := List.mem_map.mp member
  obtain ⟨held, fresh⟩ := List.mem_filter.mp made
  obtain ⟨id, present⟩ := mem_valueList.mp held
  rcases effect.delivery_cases present with old | new
  · exact absurd (mem_valueList.mpr ⟨id, old⟩) (of_decide_eq_true fresh)
  · exact ⟨new.position, new.assigned⟩

theorem handedOut_ascending (spooled : result.1.Spooled) :
    (handedOut before result.1).Pairwise (· < ·) := by
  have nodup : (handedOut before result.1).Nodup :=
    (nodup_map_valueList spooled.distinct).sublist (List.filter_sublist.map _)
  refine List.Pairwise.imp_of_mem (fun left right different => ?_) nodup
  exact absurd ((effect.handedOut_cases left).1.trans (effect.handedOut_cases right).1.symm)
    different

end

theorem requeue_pending {key : LedgerJobKey} {intentDigest : String}
    {receipt : ActionReceiptPayload} (spooled : before.Spooled)
    (effect : LedgerEffect digests before (.requeue key) (after, .ok .requeued))
    (completed : before.Completed key intentDigest receipt) : after.Pending receipt := by
  cases effect with
  | @requeued _ _ _ delivery stored present above =>
    cases stored.symm.trans completed
    obtain ⟨_, held, contents⟩ := spooled.delivered key _ _ completed
    cases present.symm.trans held
    exact ⟨delivery, by rw [pending_queue, if_pos rfl], contents, above⟩
  | @renewed _ _ _ _ delivery _ stored _ _ spools =>
    cases stored.symm.trans completed
    obtain ⟨position, contents, -⟩ := SpooledActionReceipt.new_eq_ok spools.sealed
    refine ⟨delivery, by rw [pending_queue, if_pos rfl], contents, ?_⟩
    rw [acknowledges_eq_false, position]
    exact spooled.behind

end LedgerEffect

theorem MemoryState.acknowledges_of_last {state : MemoryState} {ack : CloudLinkDurableAck}
    (last : state.lastAck = some ack) (position : UInt64) :
    state.acknowledges position = decide (position ≤ ack.acknowledgedPosition) := by
  rw [acknowledges, last, Option.any_some]

namespace MemoryState.Spooled

variable {state : MemoryState}

theorem pending_of_above (spooled : state.Spooled) {id : String} {delivery : SpooledActionReceipt}
    (present : state.deliveries[id]? = some delivery)
    (above : state.acknowledges delivery.position = false) :
    state.pending[delivery.position]? = some delivery := by
  rw [spooled.queued, spooled.keyed id delivery present]
  exact ⟨rfl, present, above⟩

end MemoryState.Spooled

namespace LedgerMachine

variable {digests : CanonicalDigests} {σ ι : Type} {machine : LedgerMachine digests σ ι}
  {initial : σ} {inputs : List ι} {input : ι}

theorem reached_snoc (machine : LedgerMachine digests σ ι) (initial : σ) (inputs : List ι)
    (input : ι) : machine.reached initial (inputs ++ [input]) =
      machine.core (machine.step (run machine.step initial inputs) input) := by
  rw [reached, run_snoc]

theorem Covered.snoc {receipt : ActionReceiptPayload}
    (covered : machine.Covered initial inputs receipt) (input : ι) :
    machine.Covered initial (inputs ++ [input]) receipt := by
  obtain ⟨front, other, back, ack, removed, delivery, rfl, rest⟩ := covered
  exact ⟨front, other, back ++ [input], ack, removed, delivery, by simp, rest⟩

/-- The invariant of a run: the spool is sound, owners have their receipts, and every delivery at or
below the last acknowledgement was covered. -/
structure Accounted (machine : LedgerMachine digests σ ι) (owner : String → LedgerJobKey)
    (initial : σ) (inputs : List ι) : Prop where
  spooled : (machine.reached initial inputs).Spooled
  owned : (machine.reached initial inputs).Owned owner
  covered : ∀ (id : String) (delivery : SpooledActionReceipt),
    (machine.reached initial inputs).deliveries[id]? = some delivery →
    (machine.reached initial inputs).acknowledges delivery.position = true →
      machine.Covered initial inputs delivery.payload

variable {owner : String → LedgerJobKey}

theorem Accounted.nil (empty : machine.core initial = .empty) :
    machine.Accounted owner initial [] := by
  have start : machine.reached initial [] = .empty := empty
  refine ⟨start ▸ spooled_empty, fun id delivery present => ?_, fun id delivery present => ?_⟩
  · simp [start, MemoryState.empty] at present
  · simp [start, MemoryState.empty] at present

/-- The step of the invariant. -/
theorem Accounted.snoc (accounted : machine.Accounted owner initial inputs)
    (respects : (machine.operation input).Respects owner) :
    machine.Accounted owner initial (inputs ++ [input]) := by
  have effect := machine.effect (run machine.step initial inputs) input
  have admits := accounted.owned.admits respects
  have spooled := effect.keeps_spooled accounted.spooled admits
  have owned := effect.keeps_owned respects accounted.owned
  have next := machine.reached_snoc initial inputs input
  refine ⟨next ▸ spooled, next ▸ owned, fun id delivery present covered => ?_⟩
  rw [next] at present covered
  rcases effect.ack_cases with same | ⟨ack, removed, operation, applied, last, deliveries⟩
  · have covered : (machine.reached initial inputs).acknowledges delivery.position = true := by
      rw [acknowledges, reached, ← same]
      exact covered
    rcases effect.delivery_cases present with old | new
    · exact (accounted.covered id delivery old covered).snoc input
    · have above : (machine.reached initial inputs).acknowledges delivery.position = false := by
        rw [acknowledges_eq_false, new.position]
        exact accounted.spooled.behind
      cases above.symm.trans covered
  · have held : (machine.reached initial inputs).deliveries[id]? = some delivery :=
      deliveries ▸ present
    cases before : (machine.reached initial inputs).acknowledges delivery.position with
    | true => exact (accounted.covered id delivery held before).snoc input
    | false =>
      refine ⟨inputs, input, [], ack, removed, delivery, rfl, operation, applied,
        accounted.spooled.pending_of_above held before, rfl, ?_⟩
      exact of_decide_eq_true ((acknowledges_of_last last _).symm.trans covered)

theorem Accounted.of_run (empty : machine.core initial = .empty)
    (respects : ∀ input ∈ inputs, (machine.operation input).Respects owner) :
    machine.Accounted owner initial inputs := by
  induction inputs using List.reverseRecOn with
  | nil => exact .nil empty
  | append_singleton _ input ih =>
    have earlier := ih fun other member => respects other (List.mem_append_left _ member)
    exact earlier.snoc (respects input (by simp))

theorem positionsHandedOut_ascending {state : σ} (spooled : (machine.core state).Spooled)
    (owned : (machine.core state).Owned owner)
    (respects : ∀ input ∈ inputs, (machine.operation input).Respects owner) :
    (machine.positionsHandedOut state inputs).Pairwise (· < ·) ∧
      ∀ position ∈ machine.positionsHandedOut state inputs,
        (machine.core state).nextPosition ≤ position := by
  induction inputs generalizing state with
  | nil => exact ⟨.nil, by simp [positionsHandedOut]⟩
  | cons input _ ih =>
    obtain ⟨head, tail⟩ := List.forall_mem_cons.mp respects
    have effect := machine.effect state input
    have kept := effect.keeps_spooled spooled (owned.admits head)
    obtain ⟨ascending, above⟩ := ih kept (effect.keeps_owned head owned) tail
    have monotone := effect.nextPosition_le
    refine ⟨List.pairwise_append.mpr ⟨effect.handedOut_ascending kept, ascending, ?_⟩, ?_⟩
    · intro _ first later rest
      exact UInt64.lt_of_lt_of_le (effect.handedOut_cases first).2 (above later rest)
    · intro position member
      rcases List.mem_append.mp member with first | rest
      · rw [(effect.handedOut_cases first).1]
        exact UInt64.le_refl _
      · exact UInt64.le_trans monotone (above position rest)

theorem deliversReceipts (empty : machine.core initial = .empty)
    (distinct : DistinctReceipts (inputs.map machine.operation)) :
    machine.DeliversReceipts initial inputs := by
  obtain ⟨owner, owns⟩ := distinct.exists_owner
  have respects : ∀ input ∈ inputs, (machine.operation input).Respects owner := fun input member =>
    owns _ (List.mem_map_of_mem member)
  have accounted := Accounted.of_run empty respects
  refine ⟨fun key intentDigest receipt stored => ?_, ?_,
    fun input key intentDigest receipt operation accepted stored => ?_⟩
  · obtain ⟨delivery, present, rfl⟩ :=
      accounted.spooled.delivered key intentDigest receipt stored
    cases above : (machine.reached initial inputs).acknowledges delivery.position with
    | true => exact .inr (accounted.covered _ delivery present above)
    | false =>
      exact .inl ⟨delivery, accounted.spooled.pending_of_above present above, rfl, above⟩
  · have start : machine.Accounted owner initial [] := .nil empty
    exact (positionsHandedOut_ascending start.spooled start.owned respects).1
  · have effect := machine.effect (run machine.step initial inputs) input
    rw [operation, accepted] at effect
    exact LedgerEffect.requeue_pending accounted.spooled effect stored

end LedgerMachine

/-- Every terminal receipt of the process-local ledger and of the file ledger reaches the cloud. -/
theorem terminal_receipts_delivered (digests : CanonicalDigests) (codec : Codec FileDocument)
    (file : Option (List UInt8)) (inputs : List (LedgerOperation × PersistOutcome))
    (distinct : DistinctReceipts (inputs.map Prod.fst)) :
    (memoryLedger digests).DeliversReceipts .empty (inputs.map Prod.fst) ∧
      (fileLedger digests codec).DeliversReceipts ⟨file, .empty⟩ inputs := by
  refine ⟨LedgerMachine.deliversReceipts rfl ?_, LedgerMachine.deliversReceipts rfl distinct⟩
  rw [show (memoryLedger digests).operation = id from rfl, List.map_id]
  exact distinct

def bedroomLight : ActionTarget where
  integrationId := "home-assistant.home"
  snapshotGeneration := "1"
  entityId := "entity-registry-light-bedroom"
  pointKey := "is_on"

def bedroomDigest : String :=
  "sha256:40108827ca617c95f9d9c48c357fdd94b2b5f019d8ccf8a23842642e934c7327"

def bedroomKey : LedgerJobKey :=
  ⟨"33333333-3333-4333-8333-333333333333", "55555555-5555-4555-8555-555555555555"⟩

def bedroomClaim : LedgerClaim :=
  ⟨bedroomKey, bedroomDigest, bedroomLight, true, "audit-control-1"⟩

def bedroomReceipt : ActionReceiptPayload where
  schema := actionReceiptSchema
  jobId := bedroomKey.jobId
  receiptId := "77777777-7777-4777-8777-777777777777"
  receiptSequence := "1"
  capabilityId := IntegrationControl.capabilityId
  target := bedroomLight
  intentDigest := bedroomDigest
  stage := .providerAccepted
  decision := .accepted
  physicalOutcome := .unknown
  observedAtMs := "1784217600450"
  evidenceDigest :=
    some "sha256:aaaaaaaaaaaaaaaaaaaaaaaaaaaaaaaaaaaaaaaaaaaaaaaaaaaaaaaaaaaaaaaa"
  failureCode := none
  audit := ⟨"audit-provider-accepted-1", .complete⟩

/-- A receipt of a second job that was given the identifier of the first job's receipt. -/
def clashingReceipt : ActionReceiptPayload :=
  { bedroomReceipt with jobId := "88888888-8888-4888-8888-888888888888" }

def sampleDigests : CanonicalDigests where
  intentDigest _ := none
  receiptDigest receipt :=
    if receipt = bedroomReceipt then
      some "sha256:f42bb6dfcd28ca27a7c1079569ffcd0f6144f741461cd362c3c679f471af80a7"
    else if receipt = clashingReceipt then
      some "sha256:78ad8d6932bc298826d8867c93c85023323887d3eaae92015f6d2a582c93274b"
    else none
  signingBytes _ := none
  evidenceDigest _ _ _ := none

/-- An acknowledgement of the first receipt at a position. -/
def bedroomAck (position : UInt64) : CloudLinkDurableAck where
  session := ⟨"44444444-4444-4444-8444-444444444444", 7⟩
  streamId := "integration-control-receipts"
  streamEpoch := 1
  acknowledgedPosition := position
  batchId := "integration-action-receipt:77777777-7777-4777-8777-777777777777"
  digest := "sha256:f42bb6dfcd28ca27a7c1079569ffcd0f6144f741461cd362c3c679f471af80a7"
  receiptId := "cloud-receipt-1"

def bedroomOperations : List LedgerOperation :=
  [.claim bedroomClaim, .complete bedroomKey bedroomDigest bedroomReceipt,
    .acknowledge (bedroomAck 1), .requeue bedroomKey]

/-- The ledger after opening an absent file. -/
def freshLedger : FileLedger where
  file := some LedgerState.empty.document.json
  state := .empty

/-- The documents of a run from a fresh ledger. -/
def runDocuments (operations : List LedgerOperation) : List FileDocument :=
  LedgerState.empty.document :: documentsAlong sampleDigests .empty operations

def bedroomCodec : Codec FileDocument :=
  FileDocument.codec (runDocuments bedroomOperations) (by decide +kernel)

def written (operations : List LedgerOperation) : List (LedgerOperation × PersistOutcome) :=
  operations.map fun operation => (operation, .written)

theorem terminal_receipts_delivered_bedroom : DistinctReceipts bedroomOperations ∧
      (memoryLedger sampleDigests).DeliversReceipts .empty bedroomOperations ∧
      (fileLedger sampleDigests bedroomCodec).DeliversReceipts freshLedger
        (written bedroomOperations) := by
  have distinct : DistinctReceipts bedroomOperations := by
    intro _ _ _ _ _ _ first second _
    simp only [bedroomOperations, List.mem_cons, reduceCtorEq, LedgerOperation.complete.injEq,
      List.not_mem_nil, or_false, false_or] at first second
    rw [first.1, second.1]
  exact ⟨distinct, terminal_receipts_delivered sampleDigests bedroomCodec freshLedger.file
    (written bedroomOperations) distinct⟩

end AetherIot.IntegrationControl
