import AetherIot.CloudLink.SealedContent

/-!
# Partitioning observation batches

A batch whose complete envelope is too large is split between observations.  The parts are filled
greedily; their sizes are added up observation by observation, starting from the envelope of an
empty part.
-/

namespace AetherIot.CloudLink

open MachineText CanonicalJson Attempt IntegrationContract

def maxBatchIdBytes : Nat := 128

def maxStreamIdBytes : Nat := 128

def maxPartitions : Nat := 65536

def maxU64Text : String := "18446744073709551615"

def maxTraceparent : String := "00-11111111111111111111111111111111-2222222222222222-01"

def repeated (character : Char) (count : Nat) : String :=
  String.ofList (List.replicate count character)

/-- The fields of the largest envelope before its payload. -/
def envelopeFields (kind : CloudLinkMessageKind) (batchId : String) : List (String × Json) :=
  [("schema", .string "aether.cloudlink.envelope.v1"), ("protocol", .string cloudlinkProtocol),
    ("protocol_version", .string cloudlinkProtocolVersion), ("message_kind", .string kind.asStr),
    ("gateway_id", .string "33333333-3333-4333-8333-333333333333"),
    ("session_id", .string "44444444-4444-4444-8444-444444444444"),
    ("session_epoch", .string maxU64Text), ("credential_generation", .string maxU64Text),
    ("sent_at_ms", .string maxU64Text),
    ("delivery", .object [("stream_id", .string (repeated 's' maxStreamIdBytes)),
      ("stream_epoch", .string maxU64Text), ("position", .string maxU64Text),
      ("batch_id", .string batchId), ("digest", .string ("sha256:" ++ repeated '0' 64))]),
    ("message_authentication", .object [("key_id", .string (repeated 'k' 128)),
      ("algorithm", .string "Ed25519"), ("signature", .string (repeated 'A' 86))]),
    ("traceparent", .string maxTraceparent)]

def expiryFields (includeExpiry : Bool) : List (String × Json) :=
  if includeExpiry then [("expires_at_ms", .string maxU64Text)] else []

def completeEnvelope (kind : CloudLinkMessageKind) (batchId : String) (payload : Json)
    (includeExpiry : Bool) : Json :=
  .object (envelopeFields kind batchId ++ ("payload", payload) :: expiryFields includeExpiry)

variable (codec : CloudLinkCodec)

def maximumCompleteEnvelopeSize (kind : CloudLinkMessageKind) (batchId : String) (payload : Json)
    (includeExpiry : Bool) : CodecResult Nat := do
  let bytes ← codec.canonicalBytes (completeEnvelope kind batchId payload includeExpiry)
  bound bytes.length
  .ok bytes.length

def prepareIntegrationValue (kind : CloudLinkMessageKind) (batchId : String) (payload : Json)
    (createdAt : UInt64) (expiresAt : Option UInt64) :
    CodecResult CloudLinkEnqueue := do
  let _ ← maximumCompleteEnvelopeSize codec kind batchId payload expiresAt.isSome
  codec.prepareValue kind batchId payload createdAt expiresAt

def observationPayload (batch : IntegrationObservationBatch) (batchId : String)
    (observations : List Json) : Json :=
  .object [("schema", .string observationBatchSchema),
    ("integration_id", .string batch.integrationId),
    ("snapshot_generation", .string batch.snapshotGeneration), ("batch_id", .string batchId),
    ("observed_at_ms", .string batch.observedAtMs), ("observations", .array observations)]

def partitionIdentityHash (batch : IntegrationObservationBatch) : String :=
  let identity := batch.integrationId ++ "\x00" ++ batch.snapshotGeneration ++ "\x00" ++
    batch.batchId
  hexString ((codec.sha256 (utf8 identity)).toList.take 8)

/-- The text of the first bytes.  The slice is one of ASCII text. -/
def takeBytes (text : String) (count : Nat) : String :=
  (fromUtf8 ((utf8 text).take count)).getD ""

def partitionBatchId (original : String) (index : Nat) (identityHash : String) : String :=
  let suffix := "-part-" ++ toString index ++ "-" ++ identityHash
  takeBytes original (maxBatchIdBytes - (utf8 suffix).length) ++ suffix

/-- An observation with the size of its canonical text. -/
def measure (observation : IntegrationObservation) :
    CodecResult (Json × Nat) := do
  let value := observation.toJson codec.json
  let bytes ← codec.canonicalBytes value
  .ok (value, bytes.length)

/-- The size after one more observation, on a 64-bit machine. -/
def checkedSize (size separator observation : Nat) : Option Nat :=
  if size + separator + observation < 2 ^ 64 then some (size + separator + observation) else none

/-- Fill a part greedily.  The result is the part and the observations left. -/
def fillPart (size : Nat) (current : List Json) :
    List (Json × Nat) → CodecResult (List Json × List (Json × Nat))
  | [] => .ok (current, [])
  | (observation, observationSize) :: rest =>
    match checkedSize size (if current.isEmpty then 0 else 1) observationSize with
    | none => .error (.messageTooLarge (2 ^ 64 - 1) maxCloudlinkMessageBytes)
    | some nextSize =>
      if nextSize > maxCloudlinkMessageBytes then
        if current.isEmpty then .error (.messageTooLarge nextSize maxCloudlinkMessageBytes)
        else .ok (current, (observation, observationSize) :: rest)
      else fillPart nextSize (current ++ [observation]) rest

section

variable (codec : CloudLinkCodec) (topology : IntegrationTopologySnapshot)
  (batch : IntegrationObservationBatch) (createdAt : UInt64) (expiresAt : Option UInt64)

/-- Seal a part that has been filled. -/
def sealPart (batchId : String) (current : List Json) : CodecResult CloudLinkEnqueue := do
  let payloadBytes ← codec.canonicalBytes (observationPayload batch batchId current)
  let validated ← (decodeObservationBatch codec.json payloadBytes topology).mapError
    .integrationContract
  prepareIntegrationValue codec .integrationObservationBatch batchId (validated.toJson codec.json)
    createdAt expiresAt

/-- One round of the partition: a sealed part and the observations left. -/
def preparePart (index : Nat) (remaining : List (Json × Nat)) :
    CodecResult (CloudLinkEnqueue × List (Json × Nat)) := do
  let batchId := partitionBatchId batch.batchId index (partitionIdentityHash codec batch)
  let baseSize ← maximumCompleteEnvelopeSize codec .integrationObservationBatch batchId
    (observationPayload batch batchId []) expiresAt.isSome
  let filled ← fillPart baseSize [] remaining
  let part ← sealPart codec topology batch createdAt expiresAt batchId filled.1
  .ok (part, filled.2)

/-- The rounds of the partition.  At most `room` parts may follow. -/
def partitionFrom (total : Nat) :
    Nat → Nat → List (Json × Nat) → CodecResult (List CloudLinkEnqueue)
  | _, _, [] => .ok []
  | 0, _, _ :: _ => .error (.messageTooLarge total maxPartitions)
  | room + 1, index, next :: remaining => do
      let (part, rest) ← preparePart codec topology batch createdAt expiresAt index
        (next :: remaining)
      let parts ← partitionFrom total room (index + 1) rest
      .ok (part :: parts)

def partitionBatch : CodecResult (List CloudLinkEnqueue) := do
  let observations ← batch.observations.mapM (measure codec)
  partitionFrom codec topology batch createdAt expiresAt observations.length maxPartitions 1
    observations

end

/-- The producer boundary of one delegated integration. -/
structure CloudLinkIntegrationExtension where
  integrationId : String
  deriving DecidableEq, Repr

namespace CloudLinkIntegrationExtension

variable (extension : CloudLinkIntegrationExtension)

def validateIntegration (integrationId : String) : CodecResult Unit :=
  if integrationId = extension.integrationId then .ok ()
  else .error .integrationStreamBindingConflict

def prepareObservationBatches (codec : CloudLinkCodec) (topology : IntegrationTopologySnapshot)
    (batch : IntegrationObservationBatch) (createdAt : UInt64) (expiresAt : Option UInt64) :
    CodecResult (List CloudLinkEnqueue) := do
  extension.validateIntegration topology.integrationId
  extension.validateIntegration batch.integrationId
  let originalBytes ← (encodeObservationBatch codec.json batch topology).mapError
    .integrationContract
  let originalPayload ← (codec.json.readValue originalBytes).mapError .invalidJson
  match prepareIntegrationValue codec .integrationObservationBatch batch.batchId originalPayload
    createdAt expiresAt with
  | .ok prepared => .ok [prepared]
  | .error (.messageTooLarge _ _) => partitionBatch codec topology batch createdAt expiresAt
  | .error failure => .error failure

end CloudLinkIntegrationExtension

end AetherIot.CloudLink
