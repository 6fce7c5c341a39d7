import AetherIot.CloudLink.Record

/-!
# The CloudLink spool state machine

Every operation returns the state it leaves behind together with its result.  The two are separate
because an operation works on its receiver in place: a failing operation keeps whatever it had
already changed.
-/

namespace AetherIot.CloudLink

open MachineText OrderedMap

/-- Largest accepted record payload. -/
def maxSpoolPayloadBytes : Nat := 256 * 1024

/-- Largest accepted spool capacity. -/
def maxSpoolRecords : Nat := 65536

/-- Non-empty, bounded and over the transport-safe alphabet. -/
def validIdentifier (value : String) (maximum : Nat) : Bool :=
  !(utf8 value).isEmpty && decide ((utf8 value).length ≤ maximum) &&
    (utf8 value).all fun byte =>
      isAsciiAlphanumeric byte || [ascii '.', ascii '_', ascii ':', ascii '-'].contains byte

/-- `sha256:` followed by 64 lowercase hexadecimal digits. -/
def digestValid (digest : String) : Bool :=
  decide ((utf8 digest).length = 71) && (utf8 "sha256:").isPrefixOf (utf8 digest) &&
    ((utf8 digest).drop 7).all fun byte => isAsciiHexdigit byte && !isAsciiUppercase byte

/-- Debug rendering of a text without characters that need an escape. -/
def debugText (value : String) : String := "\"" ++ value ++ "\""

def validateStreamId (streamId : String) : Except CloudLinkSpoolError Unit :=
  if validIdentifier streamId 128 then .ok ()
  else .error ⟨.invalidData, "CloudLink stream ID must be a bounded transport-safe identifier"⟩

def validateSession (session : CloudLinkSessionBinding) : Except CloudLinkSpoolError Unit :=
  if 0 < session.sessionEpoch && validIdentifier session.sessionId 128 then .ok ()
  else .error ⟨.invalidData, "CloudLink session binding must contain a safe ID and positive epoch"⟩

def validateEnqueue (input : CloudLinkEnqueue) : Except CloudLinkSpoolError Unit :=
  if !validIdentifier input.batchId 128 then
    .error ⟨.invalidData, "CloudLink batch ID must be a bounded transport-safe identifier"⟩
  else if !digestValid input.digest then
    .error ⟨.invalidData, "CloudLink digest must be sha256 followed by 64 lowercase hex digits"⟩
  else if input.payload.isEmpty || input.payload.length > maxSpoolPayloadBytes then
    .error ⟨.invalidData, "CloudLink payload is empty or exceeds the 256 KiB bound"⟩
  else if input.expiresAt.any (· ≤ input.createdAt) then
    .error ⟨.invalidData, "CloudLink expiry must be after creation time"⟩
  else .ok ()

/-- Durable state of one logical stream. -/
structure CloudLinkSpoolState where
  streamId : String
  streamEpoch : UInt64
  nextPosition : UInt64
  capacity : UInt64
  records : BTreeMap UInt64 CloudLinkRecord
  lastAck : Option CloudLinkDurableAck
  lastAcknowledgedPosition : UInt64
  dataLoss : Option CloudLinkDataLossEvidence
  deriving DecidableEq

namespace CloudLinkSpoolState

def new (streamId : String) (capacity : UInt64) : Except CloudLinkSpoolError CloudLinkSpoolState :=
  match validateStreamId streamId with
  | .error failure => .error failure
  | .ok () =>
    if capacity = 0 ∨ capacity.toNat > maxSpoolRecords then
      .error ⟨.invalidData, "CloudLink spool capacity must be between 1 and 65536 records"⟩
    else
      .ok
        { streamId
          streamEpoch := 1
          nextPosition := 1
          capacity
          records := ∅
          lastAck := none
          lastAcknowledgedPosition := 0
          dataLoss := none }

variable (state : CloudLinkSpoolState)

/-- Check the configuration of a reopened spool; the result says whether the capacity changed. -/
def validateOpen (streamId : String) (capacity : UInt64) :
    CloudLinkSpoolState × Except CloudLinkSpoolError Bool :=
  match validateStreamId streamId with
  | .error failure => (state, .error failure)
  | .ok () =>
    if state.streamId ≠ streamId then
      (state, .error ⟨.wrongStream, "CloudLink spool belongs to stream " ++
        debugText state.streamId ++ ", not " ++ debugText streamId⟩)
    else if capacity = 0 ∨ capacity.toNat > maxSpoolRecords ∨
        capacity.toNat < state.records.size then
      (state, .error ⟨.invalidData,
        "configured CloudLink spool capacity is smaller than retained state"⟩)
    else
      ({ state with capacity }, .ok (state.capacity != capacity))

/-- The first retained position, or the next one when nothing is retained. -/
def earliestRetained : UInt64 :=
  (firstKey state.records).getD state.nextPosition

/-- Data-loss evidence after `lostPosition` was evicted and a record was stored. -/
def overflowEvidence (lostPosition recordedAt : UInt64) : CloudLinkDataLossEvidence :=
  let fresh : CloudLinkDataLossEvidence :=
    { streamId := state.streamId
      streamEpoch := state.streamEpoch
      firstLostPosition := lostPosition
      lastLostPosition := lostPosition
      earliestRetainedPosition := state.earliestRetained
      reason := "capacity-overflow"
      recordedAtMs := recordedAt }
  match state.dataLoss with
  | some evidence =>
    if evidence.streamEpoch = state.streamEpoch ∧
        checkedAdd evidence.lastLostPosition 1 = some lostPosition then
      evidence.extendOverflow lostPosition state.earliestRetained
    else fresh
  | none => fresh

/-- Allocate the next position for `input`, after `evicted` has been removed. -/
def allocate (evicted : Option UInt64) (input : CloudLinkEnqueue) :
    CloudLinkSpoolState × Except CloudLinkSpoolError CloudLinkRecord :=
  match checkedAdd state.nextPosition 1 with
  | none => (state, .error ⟨.storage, "CloudLink stream position exhausted uint64"⟩)
  | some nextPosition =>
    let identity := ⟨state.streamId, state.streamEpoch, state.nextPosition⟩
    let record := CloudLinkRecord.fromEnqueue identity input
    let stored :=
      { state with nextPosition, records := state.records.insert state.nextPosition record }
    match evicted with
    | none => (stored, .ok record)
    | some lostPosition =>
      ({ stored with dataLoss := some (stored.overflowEvidence lostPosition input.createdAt) },
        .ok record)

def enqueue (input : CloudLinkEnqueue) :
    CloudLinkSpoolState × Except CloudLinkSpoolError CloudLinkRecord :=
  match validateEnqueue input with
  | .error failure => (state, .error failure)
  | .ok () =>
    match (valueList state.records).find? fun record => record.batchId == input.batchId with
    | some existing =>
      if existing.digest = input.digest ∧ existing.messageKind = input.messageKind ∧
          existing.payload = input.payload then
        (state, .ok existing)
      else
        (state, .error ⟨.conflictingIdentity, "CloudLink batch identity " ++
          debugText input.batchId ++ " was reused with different business content"⟩)
    | none =>
      if state.records.size = state.capacity.toNat then
        match firstKey state.records with
        | none =>
          (state, .error ⟨.storage, "CloudLink spool capacity accounting is inconsistent"⟩)
        | some position =>
          { state with records := state.records.erase position }.allocate (some position)
            input
      else state.allocate none input

def replayFrom (requestedPosition : UInt64) (limit : Nat) :
    Except CloudLinkSpoolError CloudLinkReplayWindow :=
  if requestedPosition = 0 ∨ limit = 0 then
    .error ⟨.invalidData, "CloudLink replay position and limit must be greater than zero"⟩
  else if requestedPosition > state.nextPosition then
    .error ⟨.positionGap, "CloudLink replay position " ++ toString requestedPosition ++
      " is beyond next position " ++ toString state.nextPosition⟩
  else if requestedPosition < state.earliestRetained then
    match state.dataLoss.filter fun evidence =>
        evidence.firstLostPosition ≤ requestedPosition &&
          requestedPosition ≤ evidence.lastLostPosition with
    | some evidence => .ok ⟨[], some evidence⟩
    | none =>
      .error ⟨.positionGap, "CloudLink replay position " ++ toString requestedPosition ++
        " precedes retained position " ++ toString state.earliestRetained ++
        " without matching loss evidence"⟩
  else
    .ok ⟨((entriesFrom state.records requestedPosition).take limit).map Prod.snd, none⟩

section

variable (identity : CloudLinkRecordIdentity)

/-- Look up the retained record that `identity` names. -/
def recordMut : Except CloudLinkSpoolError CloudLinkRecord :=
  if identity.streamId ≠ state.streamId ∨ identity.streamEpoch ≠ state.streamEpoch then
    .error ⟨.wrongStream, "CloudLink record identity does not match the active spool"⟩
  else
    match state.records[identity.position]? with
    | some record => .ok record
    | none => .error ⟨.positionGap, "CloudLink record position is not retained"⟩

/-- Write back a record obtained from `recordMut`. -/
def storeRecord (record : CloudLinkRecord) : CloudLinkSpoolState :=
  { state with records := state.records.insert identity.position record }

def markOffered (session : CloudLinkSessionBinding) :
    CloudLinkSpoolState × Except CloudLinkSpoolError Unit :=
  match validateSession session with
  | .error failure => (state, .error failure)
  | .ok () =>
    match state.recordMut identity with
    | .error failure => (state, .error failure)
    | .ok record => (state.storeRecord identity (record.setOffered session), .ok ())

def markTransportPublished (session : CloudLinkSessionBinding) :
    CloudLinkSpoolState × Except CloudLinkSpoolError Unit :=
  match validateSession session with
  | .error failure => (state, .error failure)
  | .ok () =>
    match state.recordMut identity with
    | .error failure => (state, .error failure)
    | .ok record =>
      if record.offeredSession ≠ some session then
        (state, .error ⟨.staleSession,
          "transport publication belongs to a session other than the current offer"⟩)
      else (state.storeRecord identity (record.setTransportPublished session), .ok ())

end

def acknowledge (ack : CloudLinkDurableAck) :
    CloudLinkSpoolState × Except CloudLinkSpoolError DurableAckOutcome :=
  match validateSession ack.session with
  | .error failure => (state, .error failure)
  | .ok () =>
    if state.lastAck = some ack then (state, .ok .duplicate)
    else if ack.streamId ≠ state.streamId ∨ ack.streamEpoch ≠ state.streamEpoch then
      (state, .error ⟨.wrongStream, "durable ACK stream identity does not match the active spool"⟩)
    else if ack.acknowledgedPosition ≤ state.lastAcknowledgedPosition then
      (state, .error ⟨.conflictingIdentity,
        "durable ACK reuses an acknowledged position with another receipt"⟩)
    else if !validIdentifier ack.receiptId 128 then
      (state, .error ⟨.invalidData,
        "durable ACK receipt identity must be a bounded transport-safe identifier"⟩)
    else
      match state.records[ack.acknowledgedPosition]? with
      | none =>
        (state, .error ⟨.positionGap, "durable ACK terminal position is not retained"⟩)
      | some record =>
        if record.offeredSession ≠ some ack.session then
          (state, .error ⟨.staleSession,
            "durable ACK session does not match the record's current offer"⟩)
        else if record.batchId ≠ ack.batchId ∨ record.digest ≠ ack.digest then
          (state, .error ⟨.conflictingIdentity,
            "durable ACK batch identity or digest conflicts with retained content"⟩)
        else
          let positions := keysThrough state.records ack.acknowledgedPosition
          ({ state with
              records := removeAll state.records positions
              lastAcknowledgedPosition := ack.acknowledgedPosition
              lastAck := some ack },
            .ok (.applied positions.length))

def rotateStreamEpoch : CloudLinkSpoolState × Except CloudLinkSpoolError UInt64 :=
  if state.records.size ≠ 0 then
    (state, .error ⟨.pendingRecords,
      "CloudLink stream epoch cannot rotate while records are pending"⟩)
  else
    match checkedAdd state.streamEpoch 1 with
    | none => (state, .error ⟨.storage, "CloudLink stream epoch exhausted uint64"⟩)
    | some streamEpoch =>
      ({ state with
          streamEpoch
          nextPosition := 1
          lastAck := none
          lastAcknowledgedPosition := 0
          dataLoss := none },
        .ok streamEpoch)

end CloudLinkSpoolState

end AetherIot.CloudLink
