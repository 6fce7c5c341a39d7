import AetherIot.CloudLink.SpoolReplay
import AetherIot.Foundation.Inevitable

/-!
# The integration publisher of one session

The publisher offers every record retained in the topology and the observation spool once, when its
session is established, and then reads the events of the transport.  The synchronizer task enqueues
records at any time.
-/

namespace AetherIot.CloudLink

open MachineText OrderedMap

inductive IntegrationStream where
  | topology
  | observations
  deriving DecidableEq

/-- What the publisher does next.  It reads events when no stream is left to offer. -/
inductive PublisherPhase where
  | offerAll (streams : List IntegrationStream)
  | offerFrom (stream : IntegrationStream) (fromPosition : UInt64)
      (streams : List IntegrationStream)
  | replay (stream : IntegrationStream) (cursor nextPosition : UInt64)
      (streams : List IntegrationStream)
  | offerRecord (stream : IntegrationStream) (record : CloudLinkRecord)
      (records : List CloudLinkRecord) (nextPosition : UInt64) (streams : List IntegrationStream)
  | failed
  deriving DecidableEq

/-- A session with its spools, the records offered in it and those of them without an
acknowledgement.  A failure ends the session, except in the answer to a replay request. -/
structure IntegrationSession where
  session : CloudLinkSessionBinding
  topologySpool : CloudLinkSpoolState
  observationSpool : CloudLinkSpoolState
  phase : PublisherPhase
  replaying : Bool
  offered : List CloudLinkRecord
  unacknowledged : List CloudLinkRecord
  deriving DecidableEq

inductive PublisherInput where
  /-- The synchronizer enqueues a record. -/
  | enqueue (stream : IntegrationStream) (input : CloudLinkEnqueue)
  /-- The publisher continues its offers. -/
  | proceed
  /-- The publisher reads the acknowledgement of a record that was offered. -/
  | durableAck (record : CloudLinkRecord) (receiptId : String)
  | transportPublished (identity : CloudLinkRecordIdentity)
  | replayRequest (stream : IntegrationStream) (fromPosition : UInt64)
  deriving DecidableEq

/-- Whether a record of an identity and a content has a route of the extension, and whether its
delivery envelope can be signed and encoded. -/
structure PublisherCodec where
  routes : CloudLinkRecordIdentity → CloudLinkEnqueue → Bool
  encodes : CloudLinkRecordIdentity → CloudLinkEnqueue → Bool

namespace IntegrationSession

def replayPageSize : Nat := 256

variable (state : IntegrationSession)

def spool : IntegrationStream → CloudLinkSpoolState
  | .topology => state.topologySpool
  | .observations => state.observationSpool

def setSpool (stream : IntegrationStream) (spool : CloudLinkSpoolState) : IntegrationSession :=
  match stream with
  | .topology => { state with topologySpool := spool }
  | .observations => { state with observationSpool := spool }

def setPhase (phase : PublisherPhase) : IntegrationSession :=
  { state with phase }

/-- An offer fails. -/
def abandon : IntegrationSession :=
  state.setPhase (if state.replaying then .offerAll [] else .failed)

/-- The spool to which a transport event belongs. -/
def spoolForStream (streamId : String) (streamEpoch : UInt64) : Option IntegrationStream :=
  if state.topologySpool.streamId = streamId ∧ state.topologySpool.streamEpoch = streamEpoch then
    some .topology
  else if state.observationSpool.streamId = streamId ∧
      state.observationSpool.streamEpoch = streamEpoch then
    some .observations
  else none

variable (codec : PublisherCodec)

/-- The record is marked as offered, encoded and sent to the transport. -/
def offer (state : IntegrationSession) (stream : IntegrationStream) (record : CloudLinkRecord)
    (phase : PublisherPhase) : IntegrationSession :=
  if codec.routes record.identity record.content then
    match (state.spool stream).markOffered record.identity state.session with
    | (_, .error _) => state.abandon
    | (spool, .ok ()) =>
      if codec.encodes record.identity record.content then
        { state.setSpool stream spool with
          phase
          offered := state.offered ++ [record]
          unacknowledged := state.unacknowledged ++ [record] }
      else (state.setSpool stream spool).abandon
  else state.abandon

def proceed (state : IntegrationSession) : IntegrationSession :=
  match state.phase with
  | .offerAll [] => state
  | .offerAll (stream :: streams) =>
    if (state.spool stream).records.size = 0 then state.setPhase (.offerAll streams)
    else state.setPhase (.offerFrom stream (state.spool stream).earliestRetained streams)
  | .offerFrom stream fromPosition streams =>
    state.setPhase (.replay stream fromPosition (state.spool stream).nextPosition streams)
  | .replay stream cursor nextPosition streams =>
    if cursor < nextPosition then
      match (state.spool stream).replayFrom cursor replayPageSize with
      | .error _ => state.abandon
      | .ok ⟨_, some _⟩ => state.abandon
      | .ok ⟨[], none⟩ => state.setPhase (.offerAll streams)
      | .ok ⟨record :: records, none⟩ =>
        state.setPhase (.offerRecord stream record records nextPosition streams)
    else state.setPhase (.offerAll streams)
  | .offerRecord stream record records nextPosition streams =>
    match records, checkedAdd record.identity.position 1 with
    | _, none => state.offer codec stream record state.abandon.phase
    | [], some cursor => state.offer codec stream record (.replay stream cursor nextPosition streams)
    | next :: records, some _ =>
      state.offer codec stream record (.offerRecord stream next records nextPosition streams)
  | .failed => state

def ackOf (record : CloudLinkRecord) (receiptId : String) : CloudLinkDurableAck where
  session := state.session
  streamId := record.identity.streamId
  streamEpoch := record.identity.streamEpoch
  acknowledgedPosition := record.identity.position
  batchId := record.batchId
  digest := record.digest
  receiptId := receiptId

def durableAck (record : CloudLinkRecord) (receiptId : String) : IntegrationSession :=
  let read := { state with unacknowledged := state.unacknowledged.erase record }
  match state.spoolForStream record.identity.streamId record.identity.streamEpoch with
  | none => read
  | some stream =>
    read.setSpool stream ((state.spool stream).acknowledge (state.ackOf record receiptId)).1

def transportPublished (identity : CloudLinkRecordIdentity) : IntegrationSession :=
  match state.spoolForStream identity.streamId identity.streamEpoch with
  | none => state
  | some stream =>
    state.setSpool stream ((state.spool stream).markTransportPublished identity state.session).1

def step (state : IntegrationSession) : PublisherInput → IntegrationSession
  | .enqueue stream input => state.setSpool stream ((state.spool stream).enqueue input).1
  | .proceed => state.proceed codec
  | .durableAck record receiptId =>
    if state.phase = .offerAll [] ∧ record ∈ state.unacknowledged then
      state.durableAck record receiptId
    else state
  | .transportPublished identity =>
    if state.phase = .offerAll [] then state.transportPublished identity else state
  | .replayRequest stream fromPosition =>
    if state.phase = .offerAll [] then
      { state with replaying := true, phase := .offerFrom stream fromPosition [] }
    else state

end IntegrationSession

end AetherIot.CloudLink
