import AetherIot.Foundation.MachineText

/-!
# Integration-control wire values

Signed action offers from the cloud and action receipts to it, with the validation that every
decoded value passes.  Numbers travel as canonical decimal text.
-/

namespace AetherIot.IntegrationControl

open MachineText

/-- Failure categories of the governed Integration-control boundary. -/
inductive IntegrationControlErrorCode where
  | disabled
  | invalidMessage
  | sessionMismatch
  | expired
  | intentDigestMismatch
  | signatureRejected
  | digestConflict
  | jobInProgress
  | dependencyUnavailable
  | ledgerFailure
  deriving DecidableEq, Repr

structure IntegrationControlError where
  code : IntegrationControlErrorCode
  message : String
  deriving DecidableEq, Repr

abbrev ControlResult (α : Type) := Except IntegrationControlError α

def integrationControlExtension : String := "aether.cloudlink.integration-control.v1alpha1"

def actionOfferSchema : String := "aether.cloudlink.integration-action-offer.v1alpha1"

def actionIntentSchema : String := "aether.integration-control.action-intent.v1alpha1"

def actionReceiptSchema : String := "aether.integration-control.action-receipt.v1alpha1"

def cloudlinkProtocol : String := "aether.cloudlink"

def cloudlinkProtocolVersion : String := "1.0"

def messageKindOffer : String := "integration-action-offer"

def capabilityId : String := "device.power.set.v1"

def permission : String := "integration.device.control"

def maxIntegrationControlMessageBytes : Nat := 256 * 1024

def invalid (message : String) : IntegrationControlError := ⟨.invalidMessage, message⟩

def exact (found expected message : String) : ControlResult Unit :=
  if found = expected then .ok () else .error (invalid message)

variable (value : String)

/-- Decimal text of an unsigned 64-bit integer, with an optional plus sign. -/
def parseU64 : Option UInt64 :=
  let bytes := utf8 value
  let digits := if bytes.head? = some (ascii '+') then bytes.tail else bytes
  if digits.isEmpty || !digits.all isAsciiDigit then none
  else
    let number := digits.foldl (fun total byte => 10 * total + (byte - ascii '0').toNat) 0
    if number < 2 ^ 64 then some (UInt64.ofNat number) else none

def canonicalU64 (positive : Bool) : ControlResult UInt64 :=
  match parseU64 value with
  | none => .error (invalid "protocol integer is outside uint64")
  | some parsed =>
    if toString parsed ≠ value || (positive && parsed = 0) then
      .error (invalid "protocol integer is not canonical")
    else .ok parsed

def isIdentifierByte (byte : UInt8) : Bool :=
  isAsciiAlphanumeric byte || byte = ascii '.' || byte = ascii '_' || byte = ascii ':' ||
    byte = ascii '-'

def identifier (value : String) : ControlResult Unit :=
  match utf8 value with
  | [] => .error (invalid "identifier is empty")
  | first :: rest =>
    if (first :: rest).length > 128 || !isAsciiAlphanumeric first ||
        !rest.all isIdentifierByte then
      .error (invalid "identifier is outside the frozen alphabet or bound")
    else .ok ()

def uuid : ControlResult Unit :=
  let bytes := utf8 value
  let separators := [8, 13, 18, 23]
  let variant := bytes.getD 19 0
  if bytes.length ≠ 36 || !separators.all (fun index => bytes.getD index 0 = ascii '-') ||
      !(ascii '1' ≤ bytes.getD 14 0 && bytes.getD 14 0 ≤ ascii '8') ||
      !(variant = ascii '8' || variant = ascii '9' || variant = ascii 'a' ||
        variant = ascii 'b') ||
      !bytes.zipIdx.all (fun (byte, index) => separators.contains index ||
        (isAsciiHexdigit byte && !isAsciiUppercase byte)) then
    .error (invalid "UUID is not canonical lowercase RFC 4122 text")
  else .ok ()

def isLowercaseHexdigit (byte : UInt8) : Bool :=
  isAsciiDigit byte || (ascii 'a' ≤ byte && byte ≤ ascii 'f')

def digest (value : String) : ControlResult Unit :=
  let bytes := utf8 value
  let scheme := utf8 "sha256:"
  if bytes.take scheme.length ≠ scheme then .error (invalid "digest must use sha256")
  else
    let hex := bytes.drop scheme.length
    if hex.length ≠ 64 || !hex.all isLowercaseHexdigit then
      .error (invalid "digest is not canonical lowercase SHA-256")
    else .ok ()

def signature (value : String) : ControlResult Unit :=
  let bytes := utf8 value
  if bytes.length ≠ 86 || !bytes.all (fun byte =>
      isAsciiAlphanumeric byte || byte = ascii '_' || byte = ascii '-') then
    .error (invalid "signature is not canonical unpadded Base64url Ed25519 material")
  else .ok ()

def failureCode : ControlResult Unit :=
  match utf8 value with
  | [] => .error (invalid "failure code is empty")
  | first :: rest =>
    if !isAsciiUppercase first || !rest.all (fun byte =>
        isAsciiUppercase byte || isAsciiDigit byte || byte = ascii '_') then
      .error (invalid "failure code is not canonical")
    else .ok ()

/-- The one target shape permitted by the alpha. -/
structure ActionTarget where
  integrationId : String
  snapshotGeneration : String
  entityId : String
  pointKey : String
  deriving DecidableEq, Repr

def ActionTarget.validate (target : ActionTarget) : ControlResult Unit := do
  identifier target.integrationId
  let _ ← canonicalU64 target.snapshotGeneration false
  identifier target.entityId
  exact target.pointKey "is_on" "only the is_on point can be controlled"

structure Governance where
  execution : String
  defaultAuthorization : String
  permission : String
  risk : String
  confirmation : String
  idempotency : String
  expiry : String
  audit : String
  edgeFinalDecision : Bool
  deriving DecidableEq, Repr

def Governance.validate (governance : Governance) : ControlResult Unit := do
  exact governance.execution "governed-job" "execution must be a governed job"
  exact governance.defaultAuthorization "deny" "authorization must default to deny"
  exact governance.permission IntegrationControl.permission "permission is not supported"
  exact governance.risk "high" "risk must be high"
  exact governance.confirmation "required" "confirmation must be required"
  exact governance.idempotency "required" "idempotency must be required"
  exact governance.expiry "required" "expiry must be required"
  exact governance.audit "required" "audit must be required"
  if !governance.edgeFinalDecision then .error (invalid "the edge must retain the final decision")
  else return ()

/-- Cloud-side authorization evidence. -/
structure CloudAuthorization where
  policyDecisionId : String
  subjectId : String
  permission : String
  authorizedAtMs : String
  deriving DecidableEq, Repr

def CloudAuthorization.validate (authorization : CloudAuthorization) : ControlResult Unit := do
  identifier authorization.policyDecisionId
  identifier authorization.subjectId
  exact authorization.permission IntegrationControl.permission "permission is not supported"
  let _ ← canonicalU64 authorization.authorizedAtMs false
  return ()

/-- Explicit user confirmation evidence. -/
structure CloudConfirmation where
  confirmationId : String
  subjectId : String
  confirmedAtMs : String
  deriving DecidableEq, Repr

def CloudConfirmation.validate (confirmation : CloudConfirmation) : ControlResult Unit := do
  uuid confirmation.confirmationId
  identifier confirmation.subjectId
  let _ ← canonicalU64 confirmation.confirmedAtMs false
  return ()

/-- Complete closed semantic intent.  `value` is the desired power state. -/
structure ActionIntent where
  schema : String
  capabilityId : String
  target : ActionTarget
  value : Bool
  governance : Governance
  authorization : CloudAuthorization
  confirmation : CloudConfirmation
  deriving DecidableEq, Repr

def ActionIntent.validate (intent : ActionIntent) : ControlResult Unit := do
  exact intent.schema actionIntentSchema "intent schema is not supported"
  exact intent.capabilityId IntegrationControl.capabilityId "capability is not supported"
  intent.target.validate
  intent.governance.validate
  intent.authorization.validate
  intent.confirmation.validate

structure MessageAuthentication where
  keyId : String
  algorithm : String
  signature : String
  deriving DecidableEq, Repr

def MessageAuthentication.validate (authentication : MessageAuthentication) :
    ControlResult Unit := do
  identifier authentication.keyId
  exact authentication.algorithm "Ed25519" "signature algorithm is not supported"
  IntegrationControl.signature authentication.signature

/-- Signed Cloud-to-edge governed action offer. -/
structure ActionOffer where
  schema : String
  protocol : String
  protocolVersion : String
  extension : String
  messageKind : String
  gatewayId : String
  sessionId : String
  sessionEpoch : String
  credentialGeneration : String
  jobId : String
  issuedAtMs : String
  expiresAtMs : String
  intentDigest : String
  intent : ActionIntent
  cloudAuthentication : MessageAuthentication
  deriving DecidableEq, Repr

/-- The value of a number field, zero when it does not parse. -/
def numberField : UInt64 := (parseU64 value).getD 0

/-- The times and subjects of the evidence are out of order. -/
def ActionIntent.inconsistentEvidence (intent : ActionIntent) (issuedAt : UInt64) : Bool :=
  issuedAt < numberField intent.authorization.authorizedAtMs ||
    issuedAt < numberField intent.confirmation.confirmedAtMs ||
    numberField intent.confirmation.confirmedAtMs <
      numberField intent.authorization.authorizedAtMs ||
    intent.confirmation.subjectId ≠ intent.authorization.subjectId

def ActionOffer.validate (offer : ActionOffer) : ControlResult Unit := do
  exact offer.schema actionOfferSchema "offer schema is not supported"
  exact offer.protocol cloudlinkProtocol "protocol is not supported"
  exact offer.protocolVersion cloudlinkProtocolVersion "protocol version is not supported"
  exact offer.extension integrationControlExtension "extension is not supported"
  exact offer.messageKind messageKindOffer "message kind is not supported"
  uuid offer.gatewayId
  uuid offer.sessionId
  let _ ← canonicalU64 offer.sessionEpoch true
  let _ ← canonicalU64 offer.credentialGeneration true
  uuid offer.jobId
  let issuedAt ← canonicalU64 offer.issuedAtMs false
  let expiresAt ← canonicalU64 offer.expiresAtMs false
  if expiresAt ≤ issuedAt then .error (invalid "offer expiry must be after issue time")
  else
    digest offer.intentDigest
    offer.intent.validate
    if offer.intent.inconsistentEvidence issuedAt then
      .error (invalid "authorization and confirmation evidence is inconsistent")
    else offer.cloudAuthentication.validate

inductive ActionReceiptStage where
  | edgeAccepted
  | edgeRejected
  | providerAccepted
  | providerRejected
  | unknown
  deriving DecidableEq, Repr

inductive ActionDecision where
  | accepted
  | rejected
  | unknown
  deriving DecidableEq, Repr

/-- Alpha receipts can only state that the physical outcome is unknown. -/
inductive PhysicalOutcome where
  | unknown
  deriving DecidableEq, Repr

inductive AuditStatus where
  | complete
  | incomplete
  deriving DecidableEq, Repr

structure ReceiptAudit where
  auditRecordId : String
  status : AuditStatus
  deriving DecidableEq, Repr

def ReceiptAudit.new (auditRecordId : String) (status : AuditStatus) :
    ControlResult ReceiptAudit := do
  identifier auditRecordId
  return ⟨auditRecordId, status⟩

/-- Business payload persisted and replayed by the receipt ledger. -/
structure ActionReceiptPayload where
  schema : String
  jobId : String
  receiptId : String
  receiptSequence : String
  capabilityId : String
  target : ActionTarget
  intentDigest : String
  stage : ActionReceiptStage
  decision : ActionDecision
  physicalOutcome : PhysicalOutcome
  observedAtMs : String
  evidenceDigest : Option String
  failureCode : Option String
  audit : ReceiptAudit
  deriving DecidableEq, Repr

namespace ActionReceiptPayload

/-- The fields that a stage requires. -/
def validateStage (receipt : ActionReceiptPayload) : ControlResult Unit :=
  match receipt.stage with
  | .edgeAccepted =>
    if receipt.decision ≠ .accepted || receipt.failureCode.isSome ||
        receipt.evidenceDigest.isSome then
      .error (invalid "edge-accepted receipt fields are inconsistent")
    else .ok ()
  | .providerAccepted =>
    if receipt.decision ≠ .accepted || receipt.failureCode.isSome ||
        receipt.evidenceDigest.isNone then
      .error (invalid "provider-accepted receipt fields are inconsistent")
    else .ok ()
  | .edgeRejected =>
    if receipt.decision ≠ .rejected || receipt.failureCode.isNone then
      .error (invalid "edge-rejected receipt fields are inconsistent")
    else .ok ()
  | .providerRejected =>
    if receipt.decision ≠ .rejected || receipt.failureCode.isNone ||
        receipt.evidenceDigest.isNone then
      .error (invalid "provider-rejected receipt fields are inconsistent")
    else .ok ()
  | .unknown =>
    if receipt.decision ≠ .unknown || receipt.failureCode.isNone then
      .error (invalid "unknown receipt fields are inconsistent")
    else .ok ()

def validateContract (receipt : ActionReceiptPayload) : ControlResult Unit := do
  exact receipt.schema actionReceiptSchema "receipt schema is not supported"
  uuid receipt.jobId
  uuid receipt.receiptId
  let _ ← canonicalU64 receipt.receiptSequence true
  exact receipt.capabilityId IntegrationControl.capabilityId "receipt capability is not supported"
  receipt.target.validate
  digest receipt.intentDigest
  let _ ← canonicalU64 receipt.observedAtMs false
  receipt.evidenceDigest.forM digest
  receipt.failureCode.forM IntegrationControl.failureCode
  identifier receipt.audit.auditRecordId
  receipt.validateStage

def terminal (jobId receiptId : String) (target : ActionTarget) (intentDigest : String)
    (stage : ActionReceiptStage) (decision : ActionDecision) (observedAtMs : UInt64)
    (evidenceDigest failureCode : Option String) (audit : ReceiptAudit) :
    ControlResult ActionReceiptPayload := do
  let receipt : ActionReceiptPayload :=
    { schema := actionReceiptSchema
      jobId
      receiptId
      receiptSequence := "1"
      capabilityId := IntegrationControl.capabilityId
      target
      intentDigest
      stage
      decision
      physicalOutcome := .unknown
      observedAtMs := toString observedAtMs
      evidenceDigest
      failureCode
      audit }
  receipt.validateContract
  return receipt

end ActionReceiptPayload

/-- The serialised forms the crate hands to its JSON canonicalizer and to SHA-256.  `none` is a
canonicalization failure. -/
structure CanonicalDigests where
  /-- Digest of an intent. -/
  intentDigest : ActionIntent → Option String
  /-- Digest of a receipt with its protocol version and message kind. -/
  receiptDigest : ActionReceiptPayload → Option String
  /-- Canonical bytes of an offer without its signature. -/
  signingBytes : ActionOffer → Option (List UInt8)
  /-- Digest of provider evidence: result, provider context and observation time. -/
  evidenceDigest : String → Option String → UInt64 → Option String

namespace CanonicalDigests

variable (digests : CanonicalDigests)

def offerIntentDigest (intent : ActionIntent) : ControlResult String := do
  intent.validate
  match digests.intentDigest intent with
  | some found => return found
  | none => .error (invalid "canonical digest projection failed")

def receiptBusinessDigest (receipt : ActionReceiptPayload) : ControlResult String := do
  receipt.validateContract
  match digests.receiptDigest receipt with
  | some found => return found
  | none => .error (invalid "canonical digest projection failed")

def offerSigningBytes (offer : ActionOffer) : ControlResult (List UInt8) := do
  offer.validate
  match digests.signingBytes offer with
  | some bytes => return bytes
  | none => .error (invalid "offer signing projection failed")

/-- Decode and validate a signed offer; `parse` is the JSON parser. -/
def decodeOffer (parse : List UInt8 → Option ActionOffer) (bytes : List UInt8) :
    ControlResult ActionOffer := do
  if bytes.isEmpty || bytes.length > maxIntegrationControlMessageBytes then
    .error (invalid "Integration-control message exceeds its byte bound")
  else
    match parse bytes with
    | none => .error (invalid "offer is not closed valid JSON")
    | some offer =>
      offer.validate
      let found ← digests.offerIntentDigest offer.intent
      if found ≠ offer.intentDigest then
        .error ⟨.intentDigestMismatch, "offer intent digest does not match canonical intent"⟩
      else return offer

end CanonicalDigests

end AetherIot.IntegrationControl
