import AetherIot.Foundation.Interaction
import AetherIot.IntegrationControl.Ledger

/-!
# The Integration-control processor

Processing an offer decodes and authenticates it, replays the receipt of a job that is already known,
and otherwise resolves the target, asks the local authority, audits, claims the job and calls the
provider once.  Every call of an injected component is a request of the program.
-/

namespace AetherIot.IntegrationControl

open MachineText

/-- The authenticated session against which offers are checked. -/
structure ControlSession where
  gatewayId : String
  sessionId : String
  sessionEpoch : UInt64
  credentialGeneration : UInt64
  deriving DecidableEq

inductive ControllableEntityKind where
  | light
  | switch
  | fan
  deriving DecidableEq

/-- The offered target as the local topology resolves it. -/
structure ResolvedControlTarget where
  target : ActionTarget
  entityKind : ControllableEntityKind
  sourceAddress : String
  deriving DecidableEq

/-- Independent local checks, all of which must hold before a dispatch. -/
structure LocalAuthorityDecision where
  commissioned : Bool
  delegated : Bool
  permissionGranted : Bool
  confirmationValid : Bool
  deriving DecidableEq

/-- The action a provider executes. -/
structure IntegrationPowerAction where
  jobId : String
  target : ResolvedControlTarget
  value : Bool
  deriving DecidableEq

structure ProviderAcceptance where
  contextId : String
  deriving DecidableEq

inductive ProviderExecutionResult where
  | accepted (acceptance : ProviderAcceptance)
  | rejected
  | unknown
  deriving DecidableEq

inductive AuditEventKind where
  | dispatchAuthorized
  | edgeRejected
  | providerAccepted
  | providerRejected
  | providerOutcomeUnknown
  | interruptedRecovered
  deriving DecidableEq

structure AuditEvent where
  kind : AuditEventKind
  jobId : String
  intentDigest : String
  failureCode : Option ControlFailureCode
  deriving DecidableEq

/-- Durable audit reference. -/
structure AuditRecord where
  recordId : String
  deriving DecidableEq

/-- A call of an injected component. -/
inductive ControlRequest where
  | verify (keyId signature : String) (signingBytes : List UInt8)
  | now
  | nextReceiptId
  | resolve (gatewayId : String) (target : ActionTarget)
  | evaluate (offer : ActionOffer) (target : ResolvedControlTarget)
  | record (event : AuditEvent)
  | find (key : LedgerJobKey)
  | claim (claim : LedgerClaim)
  | complete (key : LedgerJobKey) (intentDigest : String) (receipt : ActionReceiptPayload)
  | requeue (key : LedgerJobKey)
  | interrupted
  | execute (timeout : Nat) (action : IntegrationPowerAction)
  deriving DecidableEq

/-- What a component answers; an execution has no result when its deadline passes first. -/
def ControlRequest.Reply : ControlRequest → Type
  | .verify _ _ _ => Except ControlDependencyError Bool
  | .now => UInt64
  | .nextReceiptId => String
  | .resolve _ _ => Except ControlDependencyError ResolvedControlTarget
  | .evaluate _ _ => Except ControlDependencyError LocalAuthorityDecision
  | .record _ => Except ControlDependencyError AuditRecord
  | .find _ => Except ControlStoreError (Option LedgerEntry)
  | .claim _ => Except ControlStoreError LedgerClaimOutcome
  | .complete _ _ _ => Except ControlStoreError Unit
  | .requeue _ => Except ControlStoreError Unit
  | .interrupted => Except ControlStoreError (List LedgerClaim)
  | .execute _ _ => Option ProviderExecutionResult

abbrev ControlProgram (α : Type) : Type :=
  Interaction ControlRequest.Reply IntegrationControlError α

/-- Ask a component. -/
abbrev ControlRequest.send (request : ControlRequest) : ControlProgram request.Reply :=
  Interaction.send request

/-- Explicit activation and provider deadline, in nanoseconds. -/
structure IntegrationControlConfig where
  enabled : Bool
  providerTimeout : Nat
  deriving DecidableEq

/-- How a terminal receipt was produced. -/
inductive ProcessDisposition where
  | executed
  | replayed
  | recovered
  deriving DecidableEq

structure ProcessedReceipt where
  disposition : ProcessDisposition
  receipt : ActionReceiptPayload
  deriving DecidableEq

/-- The fields of a processor besides its injected components. -/
structure IntegrationControlProcessor where
  config : IntegrationControlConfig
  session : ControlSession
  deriving DecidableEq

def ledgerError : IntegrationControlError :=
  ⟨.ledgerFailure, "Integration-control ledger transition failed"⟩

def dependencyError : IntegrationControlError :=
  ⟨.dependencyUnavailable, "Integration-control dependency rejected local data"⟩

def digestConflict : IntegrationControlError :=
  ⟨.digestConflict, "job identity was reused with a different intent digest"⟩

def ledgerResult {α : Type} : Except ControlStoreError α → ControlProgram α
  | .ok value => .done value
  | .error _ => .fail ledgerError

def claimResult : Except ControlDependencyError LedgerClaim → ControlProgram LedgerClaim
  | .ok claim => .done claim
  | .error _ => .fail dependencyError

def validateSession (session : ControlSession) (offer : ActionOffer) : ControlResult Unit :=
  if offer.gatewayId ≠ session.gatewayId || offer.sessionId ≠ session.sessionId ||
      numberField offer.sessionEpoch ≠ session.sessionEpoch ||
      numberField offer.credentialGeneration ≠ session.credentialGeneration then
    .error ⟨.sessionMismatch, "offer does not match the current authenticated session"⟩
  else .ok ()

variable (digests : CanonicalDigests)

def verifySignature (offer : ActionOffer) : ControlProgram Unit := do
  let signingBytes ← .ofExcept (digests.offerSigningBytes offer)
  match ← ControlRequest.send (.verify offer.cloudAuthentication.keyId
      offer.cloudAuthentication.signature signingBytes) with
  | .error _ =>
    .fail ⟨.dependencyUnavailable, "cloud signature verifier is unavailable"⟩
  | .ok verified =>
    if verified then .done ()
    else .fail ⟨.signatureRejected, "cloud signature was rejected"⟩

def makeReceipt (jobId : String) (target : ActionTarget) (intentDigest : String)
    (stage : ActionReceiptStage) (decision : ActionDecision) (failure : Option ControlFailureCode)
    (evidenceDigest : Option String) (auditId : String) (auditStatus : AuditStatus) :
    ControlProgram ActionReceiptPayload := do
  let receiptId ← ControlRequest.send .nextReceiptId
  let observedAtMs ← ControlRequest.send .now
  let audit ← .ofExcept (ReceiptAudit.new auditId auditStatus)
  .ofExcept (ActionReceiptPayload.terminal jobId receiptId target intentDigest stage decision
    observedAtMs evidenceDigest (failure.map ControlFailureCode.asStr) audit)

def replayExisting (key : LedgerJobKey) (offer : ActionOffer) (existing : LedgerEntry) :
    ControlProgram ProcessedReceipt :=
  if existing.intentDigest ≠ offer.intentDigest then .fail digestConflict
  else
    match existing.state with
    | .complete receipt => do
        ledgerResult (← ControlRequest.send (.requeue key))
        return ⟨.replayed, receipt⟩
    | .inProgress _ =>
      .fail ⟨.jobInProgress, "job was already durably claimed; provider retry is forbidden"⟩

/-- The audit reference of a rejection. -/
def rejectionAudit (requested : AuditStatus) :
    Except ControlDependencyError AuditRecord → String × AuditStatus
  | .ok record => (record.recordId, requested)
  | .error _ => ("audit-incomplete", .incomplete)

def persistLocalRejection (offer : ActionOffer) (failure : ControlFailureCode)
    (requestedAuditStatus : AuditStatus) : ControlProgram ProcessedReceipt := do
  let recorded ← ControlRequest.send
    (.record ⟨.edgeRejected, offer.jobId, offer.intentDigest, some failure⟩)
  let audit := rejectionAudit requestedAuditStatus recorded
  let claim ← claimResult (LedgerClaim.fromOffer offer audit.1)
  match ← ledgerResult (← ControlRequest.send (.claim claim)) with
  | .existing existing => replayExisting claim.key offer existing
  | .digestConflict => .fail digestConflict
  | .claimed =>
    let receipt ← makeReceipt offer.jobId offer.intent.target offer.intentDigest .edgeRejected
      .rejected (some failure) none audit.1 audit.2
    ledgerResult (← ControlRequest.send (.complete claim.key offer.intentDigest receipt))
    return ⟨.executed, receipt⟩

/-- What a receipt says about a provider call. -/
structure ProviderOutcome where
  stage : ActionReceiptStage
  decision : ActionDecision
  failure : Option ControlFailureCode
  evidence : Option String
  auditKind : AuditEventKind

def providerEvidenceDigest (result : String) (contextId : Option String) (observedAtMs : UInt64) :
    ControlResult String :=
  match digests.evidenceDigest result contextId observedAtMs with
  | some found => .ok found
  | none => .error (invalid "provider evidence canonicalization failed")

def providerOutcome (reply : Option ProviderExecutionResult) (observedAtMs : UInt64) :
    ControlResult ProviderOutcome :=
  match reply.getD .unknown with
  | .accepted acceptance => do
      let evidence ← providerEvidenceDigest digests "accepted" (some acceptance.contextId)
        observedAtMs
      return ⟨.providerAccepted, .accepted, none, some evidence, .providerAccepted⟩
  | .rejected => do
      let evidence ← providerEvidenceDigest digests "rejected" none observedAtMs
      return ⟨.providerRejected, .rejected, some .providerRejected, some evidence,
        .providerRejected⟩
  | .unknown => do
      let evidence ← providerEvidenceDigest digests "unknown" none observedAtMs
      let failure : ControlFailureCode :=
        if reply.isNone then .providerTimeout else .providerOutcomeUnknown
      return ⟨.unknown, .unknown, some failure, some evidence, .providerOutcomeUnknown⟩

/-- A provider call whose audit fails has an unknown outcome, audited by the earlier record. -/
def auditedOutcome (outcome : ProviderOutcome) (authorized : AuditRecord) :
    Except ControlDependencyError AuditRecord → ProviderOutcome × String × AuditStatus
  | .ok record => (outcome, record.recordId, .complete)
  | .error _ =>
    ({ outcome with
        stage := .unknown
        decision := .unknown
        failure := some .auditIncomplete },
      authorized.recordId, .incomplete)

section

variable (config : IntegrationControlConfig) (offer : ActionOffer) (target : ResolvedControlTarget)

/-- Call the provider for a claimed job and store its receipt. -/
def executeClaimed (key : LedgerJobKey) (authorized : AuditRecord) :
    ControlProgram ProcessedReceipt := do
  let reply ← ControlRequest.send
    (.execute config.providerTimeout ⟨offer.jobId, target, offer.intent.value⟩)
  let observedAtMs ← ControlRequest.send .now
  let outcome ← .ofExcept (providerOutcome digests reply observedAtMs)
  let recorded ← ControlRequest.send
    (.record ⟨outcome.auditKind, offer.jobId, offer.intentDigest, outcome.failure⟩)
  let (audited, auditId, auditStatus) := auditedOutcome outcome authorized recorded
  let receipt ← makeReceipt offer.jobId offer.intent.target offer.intentDigest audited.stage
    audited.decision audited.failure audited.evidence auditId auditStatus
  ledgerResult (← ControlRequest.send (.complete key offer.intentDigest receipt))
  return ⟨.executed, receipt⟩

def dispatch : ControlProgram ProcessedReceipt := do
  match ← ControlRequest.send
      (.record ⟨.dispatchAuthorized, offer.jobId, offer.intentDigest, none⟩) with
  | .error _ => persistLocalRejection offer .auditIncomplete .incomplete
  | .ok auditRecord =>
    let claim ← claimResult (LedgerClaim.fromOffer offer auditRecord.recordId)
    match ← ledgerResult (← ControlRequest.send (.claim claim)) with
    | .existing existing => replayExisting claim.key offer existing
    | .digestConflict => .fail digestConflict
    | .claimed => executeClaimed digests config offer target claim.key auditRecord

/-- Ask the local authority about a resolved target, and dispatch if it agrees. -/
def authorize : ControlProgram ProcessedReceipt := do
  match ← ControlRequest.send (.evaluate offer target) with
  | .error failure => persistLocalRejection offer failure.failureCode .complete
  | .ok authority =>
    if !authority.commissioned then persistLocalRejection offer .notCommissioned .complete
    else if !authority.delegated then persistLocalRejection offer .delegationDenied .complete
    else if !authority.permissionGranted then persistLocalRejection offer .policyDenied .complete
    else if !authority.confirmationValid then
      persistLocalRejection offer .confirmationInvalid .complete
    else dispatch digests config offer target

end

/-- Decide a job that the ledger does not know. -/
def processUnknown (config : IntegrationControlConfig) (offer : ActionOffer) :
    ControlProgram ProcessedReceipt := do
  let now : UInt64 ← ControlRequest.send .now
  if numberField offer.issuedAtMs > now || now ≥ numberField offer.expiresAtMs then
    .fail ⟨.expired, "Integration-control offer is outside its execution window"⟩
  else
    match ← ControlRequest.send (.resolve offer.gatewayId offer.intent.target) with
    | .error failure => persistLocalRejection offer failure.failureCode .complete
    | .ok target =>
      if target.target = offer.intent.target then authorize digests config offer target
      else persistLocalRejection offer .targetNotFound .complete

/-- Validate, authorize, durably claim and attempt one offer; `parse` is the JSON parser. -/
def process (parse : List UInt8 → Option ActionOffer) (processor : IntegrationControlProcessor)
    (bytes : List UInt8) :
    ControlProgram ProcessedReceipt := do
  if !processor.config.enabled then .fail ⟨.disabled, "Integration control is disabled"⟩
  else
    let offer ← .ofExcept (digests.decodeOffer parse bytes)
    .ofExcept (validateSession processor.session offer)
    verifySignature digests offer
    match ← ledgerResult (← ControlRequest.send (.find (.fromOffer offer))) with
    | some existing => replayExisting (.fromOffer offer) offer existing
    | none => processUnknown digests processor.config offer

/-- Convert one interrupted claim to an unknown outcome. -/
def recoverClaim (claim : LedgerClaim) : ControlProgram ProcessedReceipt := do
  let recorded ← ControlRequest.send (.record ⟨.interruptedRecovered, claim.key.jobId,
    claim.intentDigest, some .interrupted⟩)
  let (auditId, auditStatus) : String × AuditStatus :=
    match recorded with
    | .ok record => (record.recordId, .complete)
    | .error _ => (claim.auditRecordId, .incomplete)
  let receipt ← makeReceipt claim.key.jobId claim.target claim.intentDigest .unknown .unknown
    (some .interrupted) none auditId auditStatus
  ledgerResult (← ControlRequest.send (.complete claim.key claim.intentDigest receipt))
  return ⟨.recovered, receipt⟩

def recoverClaims : List LedgerClaim → ControlProgram (List ProcessedReceipt)
  | [] => return []
  | claim :: claims => do
      let recovered ← recoverClaim claim
      let rest ← recoverClaims claims
      return recovered :: rest

/-- Convert every persisted claim in progress to an unknown outcome without calling the provider. -/
def recoverInterrupted : ControlProgram (List ProcessedReceipt) := do
  let claims ← ledgerResult (← ControlRequest.send .interrupted)
  recoverClaims claims

end AetherIot.IntegrationControl
