import AetherIot.CloudLink.SpoolInvariant
import AetherIot.IntegrationContract.Codec

/-!
# Sealing business content

Business content is checked, given its canonical bytes and its digest, and handed to a durable
stream.  The producer and the stream decide independently what a valid record is.
-/

namespace AetherIot.CloudLink

open MachineText CanonicalJson Attempt IntegrationContract OrderedMap

/-- Failures of the candidate codec. -/
inductive CloudLinkCodecError where
  | messageTooLarge (found maximum : Nat)
  | integrationStreamBindingConflict
  | integrationBatchIdMismatch
  | integrationContract (source : IntegrationContractError)
  | invalidJson (source : String)
  | invalidField (field message : String)
  | canonicalJson (source : String)
  deriving DecidableEq, Repr

abbrev CodecResult (α : Type) := Except CloudLinkCodecError α

def maxCloudlinkMessageBytes : Nat := 256 * 1024

def cloudlinkProtocol : String := "aether.cloudlink"

def cloudlinkProtocolVersion : String := "1.0"

def CloudLinkMessageKind.asStr : CloudLinkMessageKind → String
  | .runtimeManifestReport => "runtime-manifest-report"
  | .telemetryBatch => "telemetry-batch"
  | .integrationTopologySnapshot => "integration-topology-snapshot"
  | .integrationObservationBatch => "integration-observation-batch"
  | .dataLoss => "data-loss"

/-- The libraries of the codec, and the strict readers of the payloads that are not integration
messages. -/
structure CloudLinkCodec where
  json : JsonLibrary
  sha256 : List UInt8 → Vector UInt8 32
  validateRuntimeManifestReport : Json → CodecResult Unit
  validateTelemetryBatch : Json → CodecResult Unit
  validateDataLoss : Json → CodecResult Unit

/-- A bounded identifier that starts with a letter or a digit. -/
def codecIdentifier (value field : String) (maximum : Nat) : CodecResult Unit :=
  let bytes := utf8 value
  if bytes.length ≤ maximum && bytes.head?.any isAsciiAlphanumeric &&
      bytes.tail.all (fun byte => isAsciiAlphanumeric byte ||
        [ascii '.', ascii '_', ascii ':', ascii '-'].contains byte) then .ok ()
  else .error (.invalidField field "must be a bounded transport-safe identifier")

def bound (found : Nat) : CodecResult Unit :=
  if found ≤ maxCloudlinkMessageBytes then .ok ()
  else .error (.messageTooLarge found maxCloudlinkMessageBytes)

/-- The lowercase hexadecimal digits of bytes. -/
def lowerHex (bytes : List UInt8) : List UInt8 :=
  bytes.flatMap fun byte => [hexDigit (byte.toNat / 16), hexDigit (byte.toNat % 16)]

def hexString (bytes : List UInt8) : String :=
  String.ofList ((lowerHex bytes).map fun byte => Char.ofNat byte.toNat)

namespace CloudLinkCodec

variable (codec : CloudLinkCodec)

def canonicalBytes (value : Json) : CodecResult (List UInt8) :=
  (codec.json.canonicalize value).mapError .canonicalJson

def validateBusinessPayload (kind : CloudLinkMessageKind) (payload : Json) : CodecResult Unit :=
  match kind with
  | .runtimeManifestReport => codec.validateRuntimeManifestReport payload
  | .telemetryBatch => codec.validateTelemetryBatch payload
  | .integrationTopologySnapshot => do
      let bytes ← codec.canonicalBytes payload
      let _ ← (decodeTopology codec.json bytes).mapError .integrationContract
      .ok ()
  | .integrationObservationBatch => do
      let bytes ← codec.canonicalBytes payload
      let _ ← (decodeObservationBatchWire codec.json bytes).mapError .integrationContract
      .ok ()
  | .dataLoss => codec.validateDataLoss payload

end CloudLinkCodec

/-- The batch identity that an integration payload prescribes. -/
def expectedBatchId (kind : CloudLinkMessageKind) (payload : Json) : Option (Option String) :=
  match kind with
  | .integrationTopologySnapshot =>
    some (((payload.get "snapshot_generation").bind Json.asStr).map ("topology-" ++ ·))
  | .integrationObservationBatch => some ((payload.get "batch_id").bind Json.asStr)
  | .runtimeManifestReport | .telemetryBatch | .dataLoss => none

def validateIntegrationBatchBinding (kind : CloudLinkMessageKind) (deliveryBatchId : String)
    (payload : Json) : CodecResult Unit :=
  if (expectedBatchId kind payload).all (· = some deliveryBatchId) then .ok ()
  else .error .integrationBatchIdMismatch

/-- The producer's check of an expiry. -/
def checkExpiry (createdAt : UInt64) (expiresAt : Option UInt64) : CodecResult Unit :=
  if expiresAt.any (· < createdAt) then
    .error (.invalidField "expires_at_ms" "must be after created_at_ms")
  else .ok ()

namespace CloudLinkCodec

variable (codec : CloudLinkCodec)

def businessDigest (kind : CloudLinkMessageKind) (payload : Json) : CodecResult String := do
  let canonical ← codec.canonicalBytes (.object [
    ("protocol_version", .string cloudlinkProtocolVersion), ("message_kind", .string kind.asStr),
    ("payload", payload)])
  .ok ("sha256:" ++ hexString (codec.sha256 canonical).toList)

/-- Seal decoded JSON after the validation of its kind. -/
def prepareValue (messageKind : CloudLinkMessageKind) (batchId : String) (payload : Json)
    (createdAt : UInt64) (expiresAt : Option UInt64) : CodecResult CloudLinkEnqueue := do
  codec.validateBusinessPayload messageKind payload
  codecIdentifier batchId "batch_id" 128
  validateIntegrationBatchBinding messageKind batchId payload
  checkExpiry createdAt expiresAt
  let payloadBytes ← codec.canonicalBytes payload
  bound payloadBytes.length
  let digest ← codec.businessDigest messageKind payload
  .ok { messageKind, batchId, digest, payload := payloadBytes, createdAt, expiresAt }

end CloudLinkCodec

/-- The expiry check before a retained record is offered. -/
def checkOffer (record : CloudLinkRecord) : CodecResult Unit :=
  if record.expiresAtMs.any (· < record.createdAtMs) then
    .error (.invalidField "expires_at_ms" "expired business content cannot be offered")
  else .ok ()

end AetherIot.CloudLink
