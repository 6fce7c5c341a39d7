import AetherIot.Foundation.Attempt
import AetherIot.IntegrationContract.Validation

/-!
# Codec of integration messages

Canonical encoding of observation batches, and strict decoding of topologies and batches.
-/

namespace AetherIot.IntegrationContract

open MachineText CanonicalJson Attempt

/-- The fields of an object that may be absent. -/
def optionalField (name : String) (value : Option Json) : List (String × Json) :=
  (value.map fun value => (name, value)).toList

variable (library : JsonLibrary)

def ObservedValue.toJson : ObservedValue → Json
  | .boolean value => .object [("type", .string "boolean"), ("value", .bool value)]
  | .int64 value => .object [("type", .string "int64"), ("value", .string value)]
  | .uint64 value => .object [("type", .string "uint64"), ("value", .string value)]
  | .float64 value => .object [("type", .string "float64"), ("value", floatJson library value)]
  | .decimal value => .object [("type", .string "decimal"), ("value", .string value)]
  | .string value => .object [("type", .string "string"), ("value", .string value)]
  | .bytes encoding value =>
    .object [("type", .string "bytes"), ("encoding", .string encoding), ("value", .string value)]

def IntegrationObservationQuality.asStr : IntegrationObservationQuality → String
  | .good => "good"
  | .uncertain => "uncertain"
  | .bad => "bad"
  | .unavailable => "unavailable"

def IntegrationObservation.toJson (library : JsonLibrary) (observation : IntegrationObservation) :
    Json :=
  .object ([("entity_id", .string observation.entityId),
    ("point_key", .string observation.pointKey),
    ("observed_at_ms", .string observation.observedAtMs),
    ("quality", .string observation.quality.asStr)] ++
    optionalField "value" (observation.value.map (ObservedValue.toJson library)) ++
    optionalField "diagnostic" (observation.diagnostic.map Json.string))

def IntegrationObservationBatch.toJson (library : JsonLibrary)
    (batch : IntegrationObservationBatch) : Json :=
  .object [("schema", .string batch.schema), ("integration_id", .string batch.integrationId),
    ("snapshot_generation", .string batch.snapshotGeneration),
    ("batch_id", .string batch.batchId), ("observed_at_ms", .string batch.observedAtMs),
    ("observations", .array (batch.observations.map (IntegrationObservation.toJson library)))]

/-- What the JSON library promises: the serialiser writes canonical text, and what a reader returns
for the text of a batch has that text again. -/
structure JsonLibrary.Lawful : Prop where
  canonical {value : Json} {bytes : List UInt8} :
    library.canonicalize value = .ok bytes → bytes = value.text
  readsValue {batch : IntegrationObservationBatch} {read : Json} :
    library.readValue (batch.toJson library).text = .ok read →
      read.text = (batch.toJson library).text
  readsBatch {batch read : IntegrationObservationBatch} :
    library.readObservationBatch (batch.toJson library).text = .ok read →
      (read.toJson library).text = (batch.toJson library).text

def containsText (message part : String) : Bool := decide (part.toList <:+: message.toList)

/-- The failure of a strict reader, classified by its message. -/
def fromJson (message : String) : IntegrationContractError :=
  if containsText message "unknown field" then
    ⟨.unknownField, "integration JSON decoding failed"⟩
  else if containsText message "JSON_UNSAFE_NUMBER" then
    ⟨.jsonUnsafeNumber, "integration JSON decoding failed"⟩
  else if containsText message "JSON_NON_FINITE_NUMBER" then
    ⟨.jsonNonFiniteNumber, "integration JSON decoding failed"⟩
  else ⟨.jsonSyntaxError, "integration JSON decoding failed"⟩

def boundMessage (bytes : List UInt8) : ContractResult Unit :=
  if bytes.length > maxIntegrationMessageBytes then
    .error ⟨.fieldBound, "integration JSON exceeds the Edge binding limit"⟩
  else .ok ()

def canonicalJson (value : Json) : ContractResult (List UInt8) := do
  let bytes ← (library.canonicalize value).mapError fun _ =>
    ⟨.jsonSyntaxError, "canonical JSON encoding failed"⟩
  boundMessage bytes
  .ok bytes

def decodeTopology (bytes : List UInt8) :
    ContractResult IntegrationTopologySnapshot := do
  boundMessage bytes
  let topology ← (library.readTopology bytes).mapError fromJson
  topology.validate
  .ok topology

def decodeObservationBatch (bytes : List UInt8) (topology : IntegrationTopologySnapshot) :
    ContractResult IntegrationObservationBatch := do
  boundMessage bytes
  let batch ← (library.readObservationBatch bytes).mapError fromJson
  batch.validateAgainst library topology
  .ok batch

def decodeObservationBatchWire (bytes : List UInt8) :
    ContractResult IntegrationObservationBatch := do
  boundMessage bytes
  let batch ← (library.readObservationBatch bytes).mapError fromJson
  batch.validateWire library
  .ok batch

def encodeObservationBatch (batch : IntegrationObservationBatch)
    (topology : IntegrationTopologySnapshot) : ContractResult (List UInt8) := do
  batch.validateAgainst library topology
  canonicalJson library (batch.toJson library)

variable {library : JsonLibrary} {batch decoded : IntegrationObservationBatch}
  {topology : IntegrationTopologySnapshot} {bytes : List UInt8}

theorem encodeObservationBatch_eq_ok (lawful : library.Lawful)
    (encoded : encodeObservationBatch library batch topology = .ok bytes) :
    batch.validateAgainst library topology = .ok () ∧ bytes = (batch.toJson library).text := by
  obtain ⟨_, checked, written⟩ := bind_eq_ok.mp encoded
  obtain ⟨_, serialised, bounded⟩ := bind_eq_ok.mp written
  obtain ⟨_, _, same⟩ := bind_eq_ok.mp bounded
  cases same
  exact ⟨checked, lawful.canonical (mapError_eq_ok.mp serialised)⟩

theorem decodeObservationBatch_eq_ok
    (decodes : decodeObservationBatch library bytes topology = .ok decoded) :
    library.readObservationBatch bytes = .ok decoded := by
  obtain ⟨_, _, rest⟩ := bind_eq_ok.mp decodes
  obtain ⟨_, reads, validated⟩ := bind_eq_ok.mp rest
  obtain ⟨_, _, same⟩ := bind_eq_ok.mp validated
  cases same
  exact mapError_eq_ok.mp reads

end AetherIot.IntegrationContract
