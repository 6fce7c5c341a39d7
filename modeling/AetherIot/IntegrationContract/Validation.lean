import AetherIot.IntegrationContract.Wire

/-!
# Validation of integration values

The alphabets and bounds of single fields, and the validation of topologies and observation batches.
-/

namespace AetherIot.IntegrationContract

open MachineText CanonicalJson

def identifierByte (index : Nat) (byte : UInt8) : Bool :=
  isAsciiAlphanumeric byte ||
    (0 < index && [ascii '.', ascii '_', ascii ':', ascii '-'].contains byte)

def identifier (value : String) : ContractResult Unit :=
  let bytes := utf8 value
  if bytes.isEmpty || bytes.length > maxIdentifierChars ||
      !bytes.zipIdx.all (fun (byte, index) => identifierByte index byte) then
    .error ⟨.identifierInvalid, "public integration identifier is invalid"⟩
  else .ok ()

variable (value : String)

def textBound (maximum : Nat) (message : String) : ContractResult Unit :=
  if value.length = 0 || value.length > maximum then .error ⟨.fieldBound, message⟩ else .ok ()

/-- The characters with the Unicode property `White_Space`. -/
def isWhitespace (character : Char) : Bool :=
  let scalar := character.toNat
  (0x9 ≤ scalar && scalar ≤ 0xD) || (0x2000 ≤ scalar && scalar ≤ 0x200A) ||
    [0x20, 0x85, 0xA0, 0x1680, 0x2028, 0x2029, 0x202F, 0x205F, 0x3000].contains scalar

def isForbiddenControl (character : Char) : Bool :=
  character.toNat ≤ 0x1F || character.toNat = 0x7F

def displayOrEvidenceText (maximum : Nat) (boundMessage : String) : ContractResult Unit :=
  if value.length > maximum then .error ⟨.fieldBound, boundMessage⟩
  else if value.isEmpty || value.toList.any isForbiddenControl ||
      !value.toList.any (fun character => !isWhitespace character) then
    .error ⟨.textInvalid, "display or evidence text is invalid"⟩
  else .ok ()

/-- The number that decimal digits denote. -/
def digitsValue (digits : List UInt8) : Nat :=
  digits.foldl (fun total byte => 10 * total + (byte - ascii '0').toNat) 0

/-- Decimal digits without a leading zero. -/
def canonicalDigits (digits : List UInt8) : Bool :=
  !digits.isEmpty && digits.all isAsciiDigit &&
    !(1 < digits.length && digits.head? = some (ascii '0'))

def canonicalU64 : ContractResult UInt64 :=
  let bytes := utf8 value
  if bytes.length > 20 then .error ⟨.integerOutOfRange, "uint64 exceeds its wire bound"⟩
  else if !canonicalDigits bytes then .error ⟨.integerNonCanonical, "uint64 is not canonical"⟩
  else if digitsValue bytes < 2 ^ 64 then .ok (UInt64.ofNat (digitsValue bytes))
  else .error ⟨.integerOutOfRange, "uint64 is out of range"⟩

variable (bytes : List UInt8)

/-- The text without a leading minus sign. -/
def unsignedPart : List UInt8 :=
  if bytes.head? = some (ascii '-') then bytes.tail else bytes

def isNegative : Bool := bytes.head? = some (ascii '-')

def canonicalI64 : ContractResult Int :=
  let bytes := utf8 value
  let magnitude := digitsValue (unsignedPart bytes)
  if bytes.length > 20 then .error ⟨.integerOutOfRange, "int64 exceeds its wire bound"⟩
  else if !canonicalDigits (unsignedPart bytes) || value = "-0" then
    .error ⟨.integerNonCanonical, "int64 is not canonical"⟩
  else if isNegative bytes && magnitude ≤ 2 ^ 63 then .ok (-magnitude)
  else if !isNegative bytes && magnitude < 2 ^ 63 then .ok magnitude
  else .error ⟨.integerOutOfRange, "int64 is out of range"⟩

/-- The parts before and after the first point, if there is one. -/
def splitPoint : List UInt8 × Option (List UInt8) :=
  let integer := bytes.takeWhile (· ≠ ascii '.')
  let rest := bytes.drop integer.length
  if rest.isEmpty then (integer, none) else (integer, some rest.tail)

def canonicalDecimal : ContractResult Unit :=
  let bytes := utf8 value
  let (integer, fractional) := splitPoint (unsignedPart bytes)
  let zero := [ascii '0']
  let integerIsCanonical := !integer.isEmpty && integer.all isAsciiDigit &&
    (integer = zero || integer.head? ≠ some (ascii '0'))
  let fractionIsCanonical := fractional.all fun fraction =>
    !fraction.isEmpty && fraction.all isAsciiDigit && fraction.getLast? ≠ some (ascii '0')
  let isNegativeZero := isNegative bytes && integer = zero &&
    fractional.all fun fraction => fraction.all (· = ascii '0')
  if bytes.length > maxDecimalChars then .error ⟨.fieldBound, "decimal exceeds 96 characters"⟩
  else if bytes.isEmpty then .error ⟨.valueEncodingInvalid, "decimal is empty"⟩
  else if value = "0" then .ok ()
  else if !integerIsCanonical || !fractionIsCanonical || isNegativeZero ||
      (unsignedPart bytes).count (ascii '.') > 1 then
    .error ⟨.valueEncodingInvalid, "decimal is not canonically encoded"⟩
  else .ok ()

def base64urlIndex (byte : UInt8) : Option UInt8 :=
  if isAsciiUppercase byte then some (byte - ascii 'A')
  else if isAsciiLowercase byte then some (byte - ascii 'a' + 26)
  else if isAsciiDigit byte then some (byte - ascii '0' + 52)
  else if byte = ascii '-' then some 62
  else if byte = ascii '_' then some 63
  else none

/-- The last symbol leaves the bits of the mask clear. -/
def trailingBitsClear (mask : UInt8) : Bool :=
  (bytes.getLast?.bind base64urlIndex).any fun index => index &&& mask = 0

def canonicalBase64url : ContractResult Unit :=
  let bytes := utf8 value
  if bytes.length > maxBase64urlChars then
    .error ⟨.fieldBound, "Base64url exceeds 16384 characters"⟩
  else if bytes.length % 4 = 1 || !bytes.all (fun byte => (base64urlIndex byte).isSome) then
    .error ⟨.valueEncodingInvalid, "bytes are not canonical Base64url"⟩
  else if (bytes.length % 4 = 2 && !trailingBitsClear bytes 0x0f) ||
      (bytes.length % 4 = 3 && !trailingBitsClear bytes 0x03) then
    .error ⟨.valueEncodingInvalid, "Base64url has non-zero trailing bits"⟩
  else .ok ()

/-- The JSON of a double.  A double that is not finite becomes `null`. -/
def floatJson (library : JsonLibrary) (value : UInt64) : Json :=
  if Float64.isFinite value then .number (library.numberText value) else .null

/-- 9007199254740991, the largest safe integer. -/
def maxSafeInteger : UInt64 := 0x433FFFFFFFFFFFFF

def foundationFloat64 (library : JsonLibrary) (value : UInt64) : ContractResult Unit :=
  if !Float64.isFinite value then .error ⟨.jsonNonFiniteNumber, "float64 must be finite"⟩
  else if Float64.isIntegral value && Float64.lt maxSafeInteger (Float64.abs value) then
    match library.canonicalize (floatJson library value) with
    | .error _ => .error ⟨.jsonUnsafeNumber, "float64 cannot be canonicalized"⟩
    | .ok canonical =>
      if !canonical.contains (ascii '.') then
        .error ⟨.jsonUnsafeNumber,
          "integer-valued float64 is outside Foundation safe semantics"⟩
      else .ok ()
  else .ok ()

def ObservedValue.validate (library : JsonLibrary) : ObservedValue → ContractResult Unit
  | .boolean _ => .ok ()
  | .int64 value => do
      let _ ← canonicalI64 value
      .ok ()
  | .uint64 value => do
      let _ ← canonicalU64 value
      .ok ()
  | .float64 value => foundationFloat64 library value
  | .decimal value => canonicalDecimal value
  | .string value =>
    if value.length > maxStringValueChars then
      .error ⟨.fieldBound, "observed string exceeds 4096 characters"⟩
    else .ok ()
  | .bytes encoding value =>
    if encoding ≠ "base64url" then
      .error ⟨.valueEncodingInvalid, "bytes encoding must be base64url"⟩
    else canonicalBase64url value

def boundCollection (length maximum : Nat) (message : String) : ContractResult Unit :=
  if length > maximum then .error ⟨.fieldBound, message⟩ else .ok ()

/-- A check of a field that may be absent. -/
def optional (check : String → ContractResult Unit) (value : Option String) : ContractResult Unit :=
  value.elim (.ok ()) check

def optionalDisplayOrEvidenceText (value : Option String) (maximum : Nat) (message : String) :
    ContractResult Unit :=
  optional (displayOrEvidenceText · maximum message) value

def identityConflict {α : Type} : ContractResult α :=
  .error ⟨.identityConflict, "topology identities are not unique"⟩

/-- Remember an identity that has not been seen. -/
def insertIdentity (seen : List String) (identity : String) : ContractResult (List String) :=
  if seen.contains identity then identityConflict else .ok (identity :: seen)

def validateArea (areaIds : List String) (area : IntegrationArea) :
    ContractResult (List String) := do
  identifier area.areaId
  displayOrEvidenceText area.name maxTitleChars "area name exceeds its bound"
  insertIdentity areaIds area.areaId

def validateDevice (deviceIds : List String) (device : IntegrationDevice) :
    ContractResult (List String) := do
  identifier device.deviceId
  displayOrEvidenceText device.name maxTitleChars "device name exceeds its bound"
  optional identifier device.areaId
  optionalDisplayOrEvidenceText device.manufacturer maxTitleChars "manufacturer exceeds its bound"
  optionalDisplayOrEvidenceText device.model maxTitleChars "model exceeds its bound"
  optionalDisplayOrEvidenceText device.softwareVersion maxVersionChars
    "software version exceeds its bound"
  optionalDisplayOrEvidenceText device.hardwareVersion maxVersionChars
    "hardware version exceeds its bound"
  insertIdentity deviceIds device.deviceId

def validatePoint (pointKeys : List String) (point : EntityPointDescriptor) :
    ContractResult (List String) := do
  identifier point.pointKey
  displayOrEvidenceText point.title maxTitleChars "point title exceeds its bound"
  optional (textBound · maxUnitChars "point unit exceeds its bound") point.unit
  insertIdentity pointKeys point.pointKey

def checkPointCount (count : Nat) : ContractResult Unit :=
  if count = 0 || count > maxPointsPerEntity then
    .error ⟨.fieldBound, "entity points must contain between 1 and 64 entries"⟩
  else .ok ()

def validateEntity (seen : List String × List String) (entity : IntegrationEntity) :
    ContractResult (List String × List String) := do
  identifier entity.entityId
  identifier entity.sourceAddress
  identifier entity.entityKind
  displayOrEvidenceText entity.name maxTitleChars "entity name exceeds its bound"
  optional identifier entity.deviceId
  optional identifier entity.areaId
  checkPointCount entity.points.length
  let entityIds ← insertIdentity seen.1 entity.entityId
  let sourceAddresses ← insertIdentity seen.2 entity.sourceAddress
  let _ ← entity.points.foldlM validatePoint []
  .ok (entityIds, sourceAddresses)

def checkSchema (found expected message : String) : ContractResult Unit :=
  if found ≠ expected then .error ⟨.unsupportedSchema, message⟩ else .ok ()

namespace IntegrationTopologySnapshot

variable (topology : IntegrationTopologySnapshot)

def danglingReference (areaIds deviceIds : List String) : Bool :=
  topology.devices.any (fun device => device.areaId.any (!areaIds.contains ·)) ||
    topology.entities.any fun entity =>
      entity.areaId.any (!areaIds.contains ·) || entity.deviceId.any (!deviceIds.contains ·)

def validate : ContractResult Unit := do
  checkSchema topology.schema topologySnapshotSchema "unsupported topology schema"
  identifier topology.integrationId
  identifier topology.integrationKind
  let _ ← canonicalU64 topology.snapshotGeneration
  let _ ← canonicalU64 topology.observedAtMs
  boundCollection topology.areas.length maxAreas "too many integration areas"
  boundCollection topology.devices.length maxDevices "too many integration devices"
  boundCollection topology.entities.length maxEntities "too many integration entities"
  let areaIds ← topology.areas.foldlM validateArea []
  let deviceIds ← topology.devices.foldlM validateDevice []
  let _ ← topology.entities.foldlM validateEntity ([], [])
  if topology.danglingReference areaIds deviceIds then
    .error ⟨.referenceNotFound, "topology contains a dangling reference"⟩
  else .ok ()

def descriptor (observation : IntegrationObservation) : Option EntityPointDescriptor :=
  (topology.entities.find? fun entity => entity.entityId = observation.entityId).bind fun entity =>
    entity.points.find? fun point => point.pointKey = observation.pointKey

end IntegrationTopologySnapshot

namespace IntegrationObservation

def requiresValue (observation : IntegrationObservation) : Bool :=
  observation.quality = .good || observation.quality = .uncertain

def validateWire (library : JsonLibrary) (observation : IntegrationObservation) :
    ContractResult Unit := do
  identifier observation.entityId
  identifier observation.pointKey
  let _ ← canonicalU64 observation.observedAtMs
  optionalDisplayOrEvidenceText observation.diagnostic maxDiagnosticChars
    "observation diagnostic exceeds its bound"
  observation.value.elim (.ok ()) (ObservedValue.validate library)
  if observation.requiresValue ≠ observation.value.isSome then
    .error ⟨.observationValueInvalid, "observation quality and value presence disagree"⟩
  else .ok ()

/-- The observed point exists and has the type of the value. -/
def validateAgainst (topology : IntegrationTopologySnapshot)
    (observation : IntegrationObservation) : ContractResult Unit :=
  match topology.descriptor observation with
  | none => .error ⟨.referenceNotFound, "observation refers to an undeclared point"⟩
  | some descriptor =>
    if observation.value.any (fun value => value.valueType ≠ descriptor.valueType) then
      .error ⟨.valueTypeMismatch, "observation value differs from the declared point type"⟩
    else .ok ()

end IntegrationObservation

namespace IntegrationObservationBatch

def checkObservationCount (count : Nat) : ContractResult Unit :=
  if count = 0 || count > maxObservations then
    .error ⟨.fieldBound, "observation batch must contain between 1 and 65536 entries"⟩
  else .ok ()

def validateWire (library : JsonLibrary) (batch : IntegrationObservationBatch) :
    ContractResult Unit := do
  checkSchema batch.schema observationBatchSchema "unsupported observation-batch schema"
  identifier batch.integrationId
  let _ ← canonicalU64 batch.snapshotGeneration
  identifier batch.batchId
  let _ ← canonicalU64 batch.observedAtMs
  checkObservationCount batch.observations.length
  batch.observations.forM (IntegrationObservation.validateWire library)

def checkBinding (batch : IntegrationObservationBatch) (topology : IntegrationTopologySnapshot) :
    ContractResult Unit :=
  if batch.integrationId ≠ topology.integrationId ∨
      batch.snapshotGeneration ≠ topology.snapshotGeneration then
    .error ⟨.referenceNotFound,
      "observation batch does not bind the supplied topology generation"⟩
  else .ok ()

def validateAgainst (library : JsonLibrary) (batch : IntegrationObservationBatch)
    (topology : IntegrationTopologySnapshot) : ContractResult Unit := do
  topology.validate
  batch.validateWire library
  batch.checkBinding topology
  batch.observations.forM (IntegrationObservation.validateAgainst topology)

end IntegrationObservationBatch

end AetherIot.IntegrationContract
