import AetherIot.Foundation.MachineText
import AetherIot.Foundation.OrderedMap

/-!
# CloudLink stream records

The values exchanged with a durable CloudLink stream: record identities, business content, delivery
state, application acknowledgements and data-loss evidence.
-/

namespace AetherIot.CloudLink

/-- Business message classes that may enter the durable stream. -/
inductive CloudLinkMessageKind where
  | runtimeManifestReport
  | telemetryBatch
  | integrationTopologySnapshot
  | integrationObservationBatch
  | dataLoss
  deriving DecidableEq, Repr

/-- Durable identity of one record in one logical stream epoch. -/
structure CloudLinkRecordIdentity where
  streamId : String
  streamEpoch : UInt64
  position : UInt64
  deriving DecidableEq, Repr

/-- Local delivery state; no state permits removal. -/
inductive CloudLinkDeliveryState where
  | queued
  | offered
  | transportPublished
  deriving DecidableEq, Repr

/-- Session identity against which offers and acknowledgements are checked. -/
structure CloudLinkSessionBinding where
  sessionId : String
  sessionEpoch : UInt64
  deriving DecidableEq, Repr

/-- Sealed business content waiting for a stream position. -/
structure CloudLinkEnqueue where
  messageKind : CloudLinkMessageKind
  batchId : String
  digest : String
  payload : List UInt8
  createdAt : UInt64
  expiresAt : Option UInt64
  deriving DecidableEq, Repr

/-- One durable stream record. -/
structure CloudLinkRecord where
  identity : CloudLinkRecordIdentity
  messageKind : CloudLinkMessageKind
  batchId : String
  digest : String
  payload : List UInt8
  createdAtMs : UInt64
  expiresAtMs : Option UInt64
  state : CloudLinkDeliveryState
  offeredSession : Option CloudLinkSessionBinding
  deriving DecidableEq, Repr

namespace CloudLinkRecord

/-- A queued record carrying the sealed input under an allocated identity. -/
def fromEnqueue (identity : CloudLinkRecordIdentity) (input : CloudLinkEnqueue) :
    CloudLinkRecord where
  identity
  messageKind := input.messageKind
  batchId := input.batchId
  digest := input.digest
  payload := input.payload
  createdAtMs := input.createdAt
  expiresAtMs := input.expiresAt
  state := .queued
  offeredSession := none

variable (record : CloudLinkRecord)

def setOffered (session : CloudLinkSessionBinding) : CloudLinkRecord :=
  { record with state := .offered, offeredSession := some session }

def setTransportPublished (session : CloudLinkSessionBinding) : CloudLinkRecord :=
  { record with state := .transportPublished, offeredSession := some session }

/-- The business content of a record, without its identity and delivery state. -/
def content : CloudLinkEnqueue where
  messageKind := record.messageKind
  batchId := record.batchId
  digest := record.digest
  payload := record.payload
  createdAt := record.createdAtMs
  expiresAt := record.expiresAtMs

end CloudLinkRecord

/-- Application acknowledgement through one contiguous position. -/
structure CloudLinkDurableAck where
  session : CloudLinkSessionBinding
  streamId : String
  streamEpoch : UInt64
  acknowledgedPosition : UInt64
  batchId : String
  digest : String
  receiptId : String
  deriving DecidableEq, Repr

/-- Outcome of applying a valid durable acknowledgement. -/
inductive DurableAckOutcome where
  | applied (removed : Nat)
  | duplicate
  deriving DecidableEq, Repr

/-- Durable evidence that a retained position range was lost. -/
structure CloudLinkDataLossEvidence where
  streamId : String
  streamEpoch : UInt64
  firstLostPosition : UInt64
  lastLostPosition : UInt64
  earliestRetainedPosition : UInt64
  reason : String
  recordedAtMs : UInt64
  deriving DecidableEq, Repr

/-- Extend a contiguous overflow range, keeping the first timestamp. -/
def CloudLinkDataLossEvidence.extendOverflow (evidence : CloudLinkDataLossEvidence)
    (lastLost earliestRetained : UInt64) : CloudLinkDataLossEvidence :=
  { evidence with
    lastLostPosition := lastLost
    earliestRetainedPosition := earliestRetained }

/-- Records, or the evidence returned in their place. -/
structure CloudLinkReplayWindow where
  records : List CloudLinkRecord
  dataLoss : Option CloudLinkDataLossEvidence
  deriving DecidableEq, Repr

/-- Stable reasons for spool failures. -/
inductive CloudLinkSpoolErrorReason where
  | invalidData
  | staleSession
  | wrongStream
  | conflictingIdentity
  | positionGap
  | pendingRecords
  | corruptJournal
  | storage
  deriving DecidableEq, Repr

/-- A typed spool error. -/
structure CloudLinkSpoolError where
  reason : CloudLinkSpoolErrorReason
  message : String
  deriving DecidableEq, Repr

end AetherIot.CloudLink
