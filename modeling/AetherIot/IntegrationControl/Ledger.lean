import AetherIot.CloudLink.Record
import AetherIot.IntegrationControl.Wire

/-!
# The Integration-control ledger

A ledger binds every job to the intent digest it was claimed under, stores its terminal receipt and
spools the receipt for delivery under a stream position.  The process-local ledger changes its state
in place; the file ledger changes a copy that is kept when the operation succeeds.
-/

namespace AetherIot.IntegrationControl

open MachineText OrderedMap CloudLink

/-- Durable `(gateway_id, job_id)` identity. -/
structure LedgerJobKey where
  gatewayId : String
  jobId : String
  deriving DecidableEq, Repr

/-- Keys are ordered by gateway and then by job. -/
instance : Ord LedgerJobKey :=
  ⟨compareLex (compareOn LedgerJobKey.gatewayId) (compareOn LedgerJobKey.jobId)⟩

instance : Std.TransOrd LedgerJobKey :=
  inferInstanceAs (Std.TransCmp
    (compareLex (compareOn LedgerJobKey.gatewayId) (compareOn LedgerJobKey.jobId)))

instance : Std.LawfulEqOrd LedgerJobKey where
  eq_of_compare {left right} same := by
    have fields : compare left.gatewayId right.gatewayId = .eq ∧
        compare left.jobId right.jobId = .eq := compareLex_eq_eq.mp same
    rw [Std.compare_eq_iff_eq, Std.compare_eq_iff_eq] at fields
    obtain ⟨_, _⟩ := left
    exact congrArg₂ LedgerJobKey.mk fields.1 fields.2

/-- Stable failure codes allowed in receipts. -/
inductive ControlFailureCode where
  | targetNotFound
  | topologyGenerationMismatch
  | entityKindDenied
  | pointDenied
  | notCommissioned
  | delegationDenied
  | policyDenied
  | confirmationInvalid
  | targetUnavailable
  | providerRejected
  | providerOutcomeUnknown
  | providerTimeout
  | interrupted
  | auditIncomplete
  deriving DecidableEq, Repr

def ControlFailureCode.asStr : ControlFailureCode → String
  | .targetNotFound => "TARGET_NOT_FOUND"
  | .topologyGenerationMismatch => "TOPOLOGY_GENERATION_MISMATCH"
  | .entityKindDenied => "ENTITY_KIND_DENIED"
  | .pointDenied => "POINT_DENIED"
  | .notCommissioned => "NOT_COMMISSIONED"
  | .delegationDenied => "DELEGATION_DENIED"
  | .policyDenied => "POLICY_DENIED"
  | .confirmationInvalid => "CONFIRMATION_INVALID"
  | .targetUnavailable => "TARGET_UNAVAILABLE"
  | .providerRejected => "PROVIDER_REJECTED"
  | .providerOutcomeUnknown => "PROVIDER_OUTCOME_UNKNOWN"
  | .providerTimeout => "PROVIDER_TIMEOUT"
  | .interrupted => "INTERRUPTED"
  | .auditIncomplete => "AUDIT_INCOMPLETE"

/-- Failure of an injected component: the code that may appear in a receipt. -/
structure ControlDependencyError where
  failureCode : ControlFailureCode
  deriving DecidableEq, Repr

/-- Replace the details of a validation failure by a dependency failure. -/
def dependencyResult {α : Type} (failureCode : ControlFailureCode) :
    ControlResult α → Except ControlDependencyError α
  | .ok value => .ok value
  | .error _ => .error ⟨failureCode⟩

def LedgerJobKey.new (gatewayId jobId : String) :
    Except ControlDependencyError LedgerJobKey := do
  dependencyResult .targetNotFound (do uuid gatewayId; uuid jobId)
  return ⟨gatewayId, jobId⟩

def LedgerJobKey.fromOffer (offer : ActionOffer) : LedgerJobKey :=
  ⟨offer.gatewayId, offer.jobId⟩

/-- Claim written before the provider is called. -/
structure LedgerClaim where
  key : LedgerJobKey
  intentDigest : String
  target : ActionTarget
  value : Bool
  auditRecordId : String
  deriving DecidableEq, Repr

def LedgerClaim.fromOffer (offer : ActionOffer) (auditRecordId : String) :
    Except ControlDependencyError LedgerClaim := do
  dependencyResult .auditIncomplete (identifier auditRecordId)
  return ⟨.fromOffer offer, offer.intentDigest, offer.intent.target, offer.intent.value,
    auditRecordId⟩

def LedgerClaim.new (key : LedgerJobKey) (intentDigest : String) (target : ActionTarget)
    (value : Bool) (auditRecordId : String) : Except ControlDependencyError LedgerClaim := do
  dependencyResult .auditIncomplete (do
    digest intentDigest
    target.validate
    identifier auditRecordId)
  return ⟨key, intentDigest, target, value, auditRecordId⟩

inductive LedgerEntryState where
  | inProgress (claim : LedgerClaim)
  | complete (receipt : ActionReceiptPayload)
  deriving DecidableEq, Repr

structure LedgerEntry where
  intentDigest : String
  state : LedgerEntryState
  deriving DecidableEq, Repr

def LedgerEntry.inProgress (claim : LedgerClaim) : LedgerEntry :=
  ⟨claim.intentDigest, .inProgress claim⟩

def LedgerEntry.complete (intentDigest : String) (receipt : ActionReceiptPayload) : LedgerEntry :=
  ⟨intentDigest, .complete receipt⟩

inductive LedgerClaimOutcome where
  | claimed
  | existing (entry : LedgerEntry)
  | digestConflict
  deriving DecidableEq, Repr

/-- Redacted durable-ledger failure. -/
structure ControlStoreError where
  deriving DecidableEq, Repr

def storeResult {α ε : Type} : Except ε α → Except ControlStoreError α
  | .ok value => .ok value
  | .error _ => .error {}

/-- One terminal receipt with its delivery identity. -/
structure SpooledActionReceipt where
  streamEpoch : UInt64
  position : UInt64
  batchId : String
  digest : String
  sentAtMs : UInt64
  payload : ActionReceiptPayload
  deriving DecidableEq, Repr

def SpooledActionReceipt.new (digests : CanonicalDigests) (position : UInt64)
    (payload : ActionReceiptPayload) : Except ControlStoreError SpooledActionReceipt :=
  if position = 0 then .error {}
  else do
    storeResult payload.validateContract
    let batchId := "integration-action-receipt:" ++ payload.receiptId
    storeResult (identifier batchId)
    let digest ← storeResult (digests.receiptBusinessDigest payload)
    return ⟨1, position, batchId, digest, numberField payload.observedAtMs, payload⟩

def SpooledActionReceipt.validate (digests : CanonicalDigests) (delivery : SpooledActionReceipt) :
    Except ControlStoreError Unit := do
  let rebuilt ← SpooledActionReceipt.new digests delivery.position delivery.payload
  if rebuilt ≠ delivery then .error {} else return ()

/-- State of the process-local ledger. -/
structure MemoryState where
  jobs : BTreeMap LedgerJobKey LedgerEntry
  deliveries : BTreeMap String SpooledActionReceipt
  pending : BTreeMap UInt64 SpooledActionReceipt
  nextPosition : UInt64
  lastAck : Option CloudLinkDurableAck
  deriving DecidableEq

namespace MemoryState

def empty : MemoryState := ⟨∅, ∅, ∅, 1, none⟩

variable (digests : CanonicalDigests)

/-- Give a receipt the next position and record its delivery. -/
def spool (state : MemoryState) (receipt : ActionReceiptPayload) :
    MemoryState × Except ControlStoreError SpooledActionReceipt :=
  match checkedAdd state.nextPosition 1 with
  | none => (state, .error {})
  | some nextPosition =>
    match SpooledActionReceipt.new digests state.nextPosition receipt with
    | .error failure => ({ state with nextPosition }, .error failure)
    | .ok delivery =>
      ({ state with
          nextPosition
          deliveries := state.deliveries.insert receipt.receiptId delivery },
        .ok delivery)

variable (state : MemoryState)

def queue (delivery : SpooledActionReceipt) : MemoryState :=
  { state with pending := state.pending.insert delivery.position delivery }

/-- Store a terminal receipt. -/
def finish (key : LedgerJobKey) (intentDigest : String) (receipt : ActionReceiptPayload) :
    MemoryState :=
  { state with jobs := state.jobs.insert key (.complete intentDigest receipt) }

/-- Complete a claimed job; the checks on the receipt alone come before. -/
def completeEntry (state : MemoryState) (key : LedgerJobKey) (intentDigest : String)
    (receipt : ActionReceiptPayload) :
    MemoryState × Except ControlStoreError Unit :=
  match state.jobs[key]? with
  | none => (state, .error {})
  | some existing =>
    if existing.intentDigest ≠ intentDigest then (state, .error {})
    else
      match existing.state with
      | .complete stored => (state, if stored = receipt then .ok () else .error {})
      | .inProgress _ =>
        match state.deliveries[receipt.receiptId]? with
        | some delivery => ((state.queue delivery).finish key intentDigest receipt, .ok ())
        | none =>
          match state.spool digests receipt with
          | (spooled, .error failure) => (spooled, .error failure)
          | (spooled, .ok delivery) =>
            ((spooled.queue delivery).finish key intentDigest receipt, .ok ())

/-- The position is covered by the last acknowledgement. -/
def acknowledges (position : UInt64) : Bool :=
  state.lastAck.any fun ack => position ≤ ack.acknowledgedPosition

def requeue (state : MemoryState) (key : LedgerJobKey) :
    MemoryState × Except ControlStoreError Unit :=
  match state.jobs[key]?.map LedgerEntry.state with
  | some (.complete receipt) =>
    match state.deliveries[receipt.receiptId]? with
    | none => (state, .error {})
    | some delivery =>
      if state.acknowledges delivery.position then
        match state.spool digests receipt with
        | (spooled, .error failure) => (spooled, .error failure)
        | (spooled, .ok renewed) => (spooled.queue renewed, .ok ())
      else (state.queue delivery, .ok ())
  | _ => (state, .error {})

/-- The claims of jobs without a terminal receipt. -/
def interrupted : List LedgerClaim :=
  (valueList state.jobs).filterMap fun entry =>
    match entry.state with
    | .inProgress claim => some claim
    | .complete _ => none

/-- Drop the deliveries through an acknowledged position. -/
def retire (ack : CloudLinkDurableAck) : MemoryState × DurableAckOutcome :=
  let positions := keysThrough state.pending ack.acknowledgedPosition
  ({ state with pending := removeAll state.pending positions, lastAck := some ack },
    .applied positions.length)

def claim (state : MemoryState) (claim : LedgerClaim) : MemoryState × LedgerClaimOutcome :=
  match state.jobs[claim.key]? with
  | some existing =>
    (state, if existing.intentDigest = claim.intentDigest then .existing existing
      else .digestConflict)
  | none => ({ state with jobs := state.jobs.insert claim.key (.inProgress claim) }, .claimed)

def complete (state : MemoryState) (key : LedgerJobKey) (intentDigest : String)
    (receipt : ActionReceiptPayload) :
    MemoryState × Except ControlStoreError Unit :=
  if receipt.jobId ≠ key.jobId ∨ receipt.intentDigest ≠ intentDigest then (state, .error {})
  else state.completeEntry digests key intentDigest receipt

/-- The acknowledgement does not belong to the receipt stream, or does not move it forward. -/
def rejectsAck (ack : CloudLinkDurableAck) : Bool :=
  ack.streamId ≠ "integration-control-receipts" || ack.streamEpoch ≠ 1 ||
    ack.acknowledgedPosition = 0 || ack.session.sessionEpoch = 0 ||
    state.acknowledges ack.acknowledgedPosition

def acknowledge (ack : CloudLinkDurableAck) :
    MemoryState × Except ControlStoreError DurableAckOutcome :=
  if state.lastAck = some ack then (state, .ok .duplicate)
  else if state.rejectsAck ack then (state, .error {})
  else if (identifier ack.session.sessionId).isOk && (identifier ack.receiptId).isOk then
    match (valueList state.deliveries).find? fun record =>
        record.position = ack.acknowledgedPosition with
    | none => (state, .error {})
    | some terminal =>
      if terminal.batchId ≠ ack.batchId ∨ terminal.digest ≠ ack.digest ∨
          state.pending[terminal.position]? ≠ some terminal then (state, .error {})
      else
        let (retired, outcome) := state.retire ack
        (retired, .ok outcome)
  else (state, .error {})

end MemoryState

def maxJobs : Nat := 65536

/-- State of the file ledger: that of the process-local one, and the delivery named by the last
acknowledgement. -/
structure LedgerState extends MemoryState where
  lastAckTerminal : Option SpooledActionReceipt
  deriving DecidableEq

def validIdentifier (value : String) : Bool :=
  match utf8 value with
  | [] => false
  | first :: rest =>
    isAsciiAlphanumeric first && (first :: rest).length ≤ 128 && rest.all isIdentifierByte

variable (ack : CloudLinkDurableAck)

def validateAckIdentity : Except ControlStoreError Unit :=
  if ack.streamId ≠ "integration-control-receipts" || ack.streamEpoch ≠ 1 ||
      ack.acknowledgedPosition = 0 || ack.session.sessionEpoch = 0 ||
      !validIdentifier ack.session.sessionId || !validIdentifier ack.receiptId then .error {}
  else .ok ()

def validateAckAgainstTerminal (terminal : SpooledActionReceipt) :
    Except ControlStoreError Unit := do
  validateAckIdentity ack
  if terminal.position ≠ ack.acknowledgedPosition || terminal.batchId ≠ ack.batchId ||
      terminal.digest ≠ ack.digest then .error {}
  else return ()

def terminalForAck (deliveries : BTreeMap String SpooledActionReceipt) :
    Except ControlStoreError SpooledActionReceipt := do
  validateAckIdentity ack
  match (valueList deliveries).find? fun record => record.position = ack.acknowledgedPosition with
  | none => .error {}
  | some terminal =>
    validateAckAgainstTerminal ack terminal
    return terminal

namespace LedgerState

def empty : LedgerState := ⟨.empty, none⟩

/-- Keep a change of the shared state when it succeeded. -/
def keep {α : Type} (state : LedgerState) (change : MemoryState × Except ControlStoreError α) :
    Except ControlStoreError (LedgerState × α) :=
  change.2.map fun result => ({ state with toMemoryState := change.1 }, result)

def claim (state : LedgerState) (claim : LedgerClaim) :
    Except ControlStoreError (LedgerState × LedgerClaimOutcome) :=
  match state.jobs[claim.key]? with
  | some existing =>
    .ok (state, if existing.intentDigest = claim.intentDigest then .existing existing
      else .digestConflict)
  | none =>
    if state.jobs.size ≥ maxJobs then .error {}
    else .ok ({ state with jobs := state.jobs.insert claim.key (.inProgress claim) }, .claimed)

def complete (digests : CanonicalDigests) (state : LedgerState) (key : LedgerJobKey)
    (intentDigest : String) (receipt : ActionReceiptPayload) :
    Except ControlStoreError (LedgerState × Unit) := do
  storeResult receipt.validateContract
  if receipt.jobId ≠ key.jobId ∨ receipt.intentDigest ≠ intentDigest then .error {}
  else state.keep (state.toMemoryState.completeEntry digests key intentDigest receipt)

def requeue (digests : CanonicalDigests) (state : LedgerState) (key : LedgerJobKey) :
    Except ControlStoreError (LedgerState × Unit) :=
  state.keep (state.toMemoryState.requeue digests key)

def acknowledge (state : LedgerState) (ack : CloudLinkDurableAck) :
    Except ControlStoreError (LedgerState × DurableAckOutcome) :=
  if state.lastAck = some ack then .ok (state, .duplicate)
  else do
    let terminal ← terminalForAck ack state.deliveries
    if state.pending[terminal.position]? ≠ some terminal then .error {}
    else if state.acknowledges ack.acknowledgedPosition then .error {}
    else
      let (retired, outcome) := state.toMemoryState.retire ack
      return (⟨retired, some terminal⟩, outcome)

end LedgerState

end AetherIot.IntegrationControl
