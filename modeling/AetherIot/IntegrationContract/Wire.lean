import AetherIot.Foundation.CanonicalJson
import AetherIot.Foundation.Float64

/-!
# Integration wire values

Topology snapshots and observation batches of delegated integrations, with the validation that every
decoded value passes.  Integers travel as canonical decimal text, doubles as their bits.
-/

namespace AetherIot.IntegrationContract

open MachineText CanonicalJson

/-- Language-neutral failures of the strict binding. -/
inductive IntegrationContractErrorCode where
  | jsonSyntaxError
  | unknownField
  | unsupportedSchema
  | fieldBound
  | textInvalid
  | identifierInvalid
  | integerNonCanonical
  | integerOutOfRange
  | valueEncodingInvalid
  | jsonUnsafeNumber
  | jsonNonFiniteNumber
  | identityConflict
  | referenceNotFound
  | valueTypeMismatch
  | observationValueInvalid
  deriving DecidableEq, Repr

structure IntegrationContractError where
  code : IntegrationContractErrorCode
  message : String
  deriving DecidableEq, Repr

abbrev ContractResult (α : Type) := Except IntegrationContractError α

def topologySnapshotSchema : String := "aether.integration.topology-snapshot.v1alpha1"

def observationBatchSchema : String := "aether.integration.observation-batch.v1alpha1"

def maxIntegrationMessageBytes : Nat := 16 * 1024 * 1024

def maxAreas : Nat := 4096

def maxDevices : Nat := 16384

def maxEntities : Nat := 65536

def maxPointsPerEntity : Nat := 64

def maxObservations : Nat := 65536

def maxIdentifierChars : Nat := 128

def maxTitleChars : Nat := 256

def maxUnitChars : Nat := 32

def maxVersionChars : Nat := 128

def maxDiagnosticChars : Nat := 512

def maxStringValueChars : Nat := 4096

def maxDecimalChars : Nat := 96

def maxBase64urlChars : Nat := 16384

inductive ObservedValueType where
  | boolean
  | int64
  | uint64
  | float64
  | decimal
  | string
  | bytes
  deriving DecidableEq, Repr

/-- Closed union of observed values. -/
inductive ObservedValue where
  | boolean (value : Bool)
  | int64 (value : String)
  | uint64 (value : String)
  | float64 (value : UInt64)
  | decimal (value : String)
  | string (value : String)
  | bytes (encoding value : String)
  deriving DecidableEq, Repr

def ObservedValue.valueType : ObservedValue → ObservedValueType
  | .boolean _ => .boolean
  | .int64 _ => .int64
  | .uint64 _ => .uint64
  | .float64 _ => .float64
  | .decimal _ => .decimal
  | .string _ => .string
  | .bytes _ _ => .bytes

structure IntegrationArea where
  areaId : String
  name : String
  deriving DecidableEq, Repr

structure IntegrationDevice where
  deviceId : String
  name : String
  areaId : Option String
  manufacturer : Option String
  model : Option String
  softwareVersion : Option String
  hardwareVersion : Option String
  deriving DecidableEq, Repr

structure EntityPointDescriptor where
  pointKey : String
  title : String
  valueType : ObservedValueType
  unit : Option String
  deriving DecidableEq, Repr

structure IntegrationEntity where
  entityId : String
  sourceAddress : String
  name : String
  entityKind : String
  deviceId : Option String
  areaId : Option String
  points : List EntityPointDescriptor
  deriving DecidableEq, Repr

/-- Complete closed topology snapshot. -/
structure IntegrationTopologySnapshot where
  schema : String
  integrationId : String
  integrationKind : String
  snapshotGeneration : String
  observedAtMs : String
  areas : List IntegrationArea
  devices : List IntegrationDevice
  entities : List IntegrationEntity
  deriving DecidableEq, Repr

inductive IntegrationObservationQuality where
  | good
  | uncertain
  | bad
  | unavailable
  deriving DecidableEq, Repr

structure IntegrationObservation where
  entityId : String
  pointKey : String
  observedAtMs : String
  quality : IntegrationObservationQuality
  value : Option ObservedValue
  diagnostic : Option String
  deriving DecidableEq, Repr

/-- Complete closed observation batch. -/
structure IntegrationObservationBatch where
  schema : String
  integrationId : String
  snapshotGeneration : String
  batchId : String
  observedAtMs : String
  observations : List IntegrationObservation
  deriving DecidableEq, Repr

/-- The JSON library: the spelling of doubles, the canonical serialiser and the strict readers. -/
structure JsonLibrary where
  numberText : UInt64 → Number
  canonicalize : Json → Except String (List UInt8)
  readValue : List UInt8 → Except String Json
  readTopology : List UInt8 → Except String IntegrationTopologySnapshot
  readObservationBatch : List UInt8 → Except String IntegrationObservationBatch

end AetherIot.IntegrationContract
