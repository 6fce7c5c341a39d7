import AetherIot.Foundation.Bytes
import AetherIot.Foundation.OrderedMap
import AetherIot.Foundation.Utf8
import AetherIot.Io.Point

/-!
# Points of a CAN channel

The mapping of a point names a frame and a field of bits in it.  Loading truncates the position and
the length of the field to bytes and keeps one point for each id; the read task decodes the cached
frames and publishes every value as telemetry.
-/

namespace AetherIot.Io.Can

open OrderedMap (BTreeMap valueList insertAll)

inductive CanDataType where
  | uint8
  | uint16
  | int16
  | uint32
  | int32
  | float32
  | ascii
  deriving DecidableEq

structure CanPoint where
  pointId : UInt32
  pointType : PointType
  canId : UInt32
  byteOffset : UInt8
  bitPosition : UInt8
  bitLength : UInt8
  dataType : CanDataType
  scale : Float
  offset : Float

structure CanProtocolMapping where
  canId : UInt32
  startBit : UInt32
  bitLength : UInt32
  dataType : CanDataType
  scale : Float
  offset : Float

/-- A configured point with the text of its mapping. -/
structure Point where
  pointId : UInt32
  protocolMappings : Option String

structure RuntimeChannelConfig where
  telemetryPoints : List Point
  signalPoints : List Point
  controlPoints : List Point
  adjustmentPoints : List Point

/-- The point that is loaded for a mapping. -/
def CanProtocolMapping.canPoint (mapping : CanProtocolMapping) (pointType : PointType)
    (pointId : UInt32) : CanPoint where
  pointId := pointId
  pointType := pointType
  canId := mapping.canId
  byteOffset := (mapping.startBit / 8).toUInt8
  bitPosition := (mapping.startBit % 8).toUInt8
  bitLength := mapping.bitLength.toUInt8
  dataType := mapping.dataType
  scale := mapping.scale
  offset := mapping.offset

section Loading

variable (fromStr : String → Option CanProtocolMapping)

/-- The mapping of a point, unless it has none or its text is rejected. -/
def Point.mapping (point : Point) : Option CanProtocolMapping := point.protocolMappings.bind fromStr

def collectCanPoints (pointType : PointType) (points : List Point) : List CanPoint :=
  points.filterMap fun point =>
    (point.mapping fromStr).map fun mapping => mapping.canPoint pointType point.pointId

def convertToCanPointConfigs (config : RuntimeChannelConfig) : List CanPoint :=
  collectCanPoints fromStr .telemetry config.telemetryPoints ++
    collectCanPoints fromStr .signal config.signalPoints ++
    collectCanPoints fromStr .control config.controlPoints ++
    collectCanPoints fromStr .adjustment config.adjustmentPoints

end Loading

structure CanFrameData where
  bytes : List UInt8
  short : bytes.length ≤ 8

/-- Copy at most eight bytes. -/
def CanFrameData.fromSlice (bytes : List UInt8) : CanFrameData :=
  ⟨bytes.take 8, List.length_take_le 8 bytes⟩

/-- The latest frame of each id. -/
structure CanFrameCache where
  frames : BTreeMap UInt32 CanFrameData

section

variable (cache : CanFrameCache) (canId : UInt32) (data : List UInt8)

def CanFrameCache.update : CanFrameCache :=
  ⟨cache.frames.insert canId (.fromSlice data)⟩

def CanFrameCache.get : Option (List UInt8) :=
  cache.frames[canId]?.map CanFrameData.bytes

def protocolError {α : Type} (message : String) : Except String α :=
  .error ("Protocol error: " ++ message)

/-- A field of whole bytes. -/
def extractBytes (byteOffset : Nat) (bitPosition : UInt8) (count : Nat) :
    Except String (List UInt8) :=
  let bits := 8 * count
  if bitPosition ≠ 0 then
    protocolError s!"{bits}-bit field must start at bit position 0, got {bitPosition.toNat}"
  else if byteOffset + count > data.length then
    protocolError s!"Not enough bytes for {bits}-bit field at offset {byteOffset}"
  else .ok ((data.drop byteOffset).take count)

def extractField (byteOffset bitPosition bitLength : UInt8) : Except String (List UInt8) :=
  match data[byteOffset.toNat]? with
  | none => protocolError
      s!"Byte offset {byteOffset.toNat} out of range (data length: {data.length})"
  | some byte =>
    if bitLength = 2 then
      if bitPosition > 6 then
        protocolError s!"Invalid bit position {bitPosition.toNat} for 2-bit field"
      else .ok [(byte >>> bitPosition) &&& 0x03]
    else if bitLength = 8 then
      if bitPosition ≠ 0 then
        protocolError s!"8-bit field must start at bit position 0, got {bitPosition.toNat}"
      else .ok [byte]
    else if bitLength = 16 then extractBytes data byteOffset.toNat bitPosition 2
    else if bitLength = 32 then extractBytes data byteOffset.toNat bitPosition 4
    else if bitLength = 64 then extractBytes data byteOffset.toNat bitPosition 8
    else protocolError s!"Unsupported bit length: {bitLength.toNat}"

end

/-- The text of bytes without the zero characters at its end. -/
def asciiText (bytes : List UInt8) : String :=
  String.ofList (((Utf8.fromUtf8Lossy bytes).toList.reverse.dropWhile (· = Char.ofNat 0)).reverse)

/-- The bytes that a data type reads. -/
def CanDataType.size : CanDataType → Nat
  | .uint8 => 1
  | .uint16 | .int16 => 2
  | .uint32 | .int32 | .float32 => 4
  | .ascii => 0

/-- The value of a data type with the given bits. -/
def CanDataType.valueOf (bits : Nat) (text : String) : CanDataType → Value
  | .uint8 | .uint16 | .uint32 => .integer bits
  | .int16 => .integer (UInt16.ofNat bits).toInt16.toInt
  | .int32 => .integer (UInt32.ofNat bits).toInt32.toInt
  | .float32 => .float (Float32.ofBits (UInt32.ofNat bits)).toFloat
  | .ascii => .text text

def CanDataType.missing (dataType : CanDataType) (got : Nat) : String :=
  match dataType with
  | .uint8 | .ascii => "Empty data for uint8"
  | .uint16 => s!"Not enough bytes for uint16, got {got}"
  | .int16 => s!"Not enough bytes for int16, got {got}"
  | .uint32 => s!"Not enough bytes for uint32, got {got}"
  | .int32 => s!"Not enough bytes for int32, got {got}"
  | .float32 => s!"Not enough bytes for float32, got {got}"

/-- The value of the first bytes of a field, or the text of all of them. -/
def decodeRaw (dataType : CanDataType) (raw : List UInt8) : Except String Value :=
  if raw.length < dataType.size then protocolError (dataType.missing raw.length)
  else .ok (dataType.valueOf (Bytes.leValue (raw.take dataType.size)) (asciiText raw))

def applyScale (scale offset : Float) : Value → Value
  | .integer value =>
    if scale != 1.0 || offset != 0.0 then .float (Float.ofInt value * scale + offset)
    else .integer value
  | value => value

def decodePoint (point : CanPoint) (frameData : List UInt8) : Except String Value := do
  let raw ← extractField frameData point.byteOffset point.bitPosition point.bitLength
  let value ← decodeRaw point.dataType raw
  pure (applyScale point.scale point.offset value)

/-- The points of a channel, one for each id. -/
structure PointManager where
  points : BTreeMap UInt32 CanPoint
  keyed : ∀ (id : UInt32) (point : CanPoint), points[id]? = some point → point.pointId = id

def PointManager.new : PointManager := ⟨∅, by simp⟩

def PointManager.addPoint (manager : PointManager) (point : CanPoint) : PointManager where
  points := manager.points.insert point.pointId point
  keyed id other found := by
    rw [Std.ExtTreeMap.getElem?_insert] at found
    split at found
    · rename_i same
      cases found
      exact Std.compare_eq_iff_eq.mp same
    · exact manager.keyed id other found

def PointManager.addPoints (points : List CanPoint) : PointManager :=
  points.foldl PointManager.addPoint .new

namespace PointManager

variable (manager : PointManager) (cache : CanFrameCache)

def decoded (point : CanPoint) : Option Value :=
  (cache.get point.canId).bind fun frameData => (decodePoint point frameData).toOption

def decodedPoints : List (CanPoint × Value) :=
  (valueList manager.points).filterMap fun point =>
    (decoded cache point).map fun value => (point, value)

def applyMappings : List (UInt32 × Value) :=
  (manager.decodedPoints cache).map fun entry => (entry.1.pointId, entry.2)

/-- What a pass of the read task sends. -/
def readBatch : List DataPoint :=
  (manager.applyMappings cache).map fun entry => ⟨entry.1, .telemetry, entry.2⟩

end PointManager

/-- The number that the bits of a frame from one position on spell, the lowest bit of the first byte
first. -/
def fieldBits (frame : List UInt8) (start length : Nat) : Nat :=
  Bytes.leValue frame / 2 ^ start % 2 ^ length

/-- A field that can be taken from a frame of the given size. -/
structure Extractable (byteOffset bitPosition bitLength size : Nat) : Prop where
  inside : byteOffset < size
  shape : bitLength = 2 ∧ bitPosition ≤ 6 ∨
    bitPosition = 0 ∧ (bitLength = 8 ∨ bitLength = 16 ∨ bitLength = 32 ∨ bitLength = 64) ∧
      8 * byteOffset + bitLength ≤ 8 * size

def fieldBytes (frame : List UInt8) (start length : Nat) : List UInt8 :=
  Bytes.leBytes ((length + 7) / 8) (fieldBits frame start length)

theorem fieldBytes_whole {frame : List UInt8} {offset count : Nat}
    (fits : offset + count ≤ frame.length) :
    fieldBytes frame (8 * offset) (8 * count) = (frame.drop offset).take count := by
  have size : ((frame.drop offset).take count).length = count := by
    rw [List.length_take, List.length_drop]
    omega
  have number : fieldBits frame (8 * offset) (8 * count) =
      Bytes.leValue ((frame.drop offset).take count) := by
    rw [fieldBits, Bytes.leValue_take, Bytes.leValue_drop, Nat.pow_mul, Nat.pow_mul]
  have whole := Bytes.leBytes_leValue ((frame.drop offset).take count)
  rw [size] at whole
  rw [fieldBytes, number, show (8 * count + 7) / 8 = count by omega, whole]

/-- A field of two bits is a part of one byte. -/
theorem fieldBytes_pair {frame : List UInt8} {offset : Nat} {byte bitPosition : UInt8}
    (found : frame[offset]? = some byte) (low : bitPosition ≤ 6) :
    fieldBytes frame (8 * offset + bitPosition.toNat) 2 = [(byte >>> bitPosition) &&& 0x03] := by
  obtain ⟨bound, same⟩ := List.getElem?_eq_some_iff.mp found
  have rest : Bytes.leValue frame / 256 ^ offset =
      byte.toNat + 256 * Bytes.leValue (frame.drop (offset + 1)) := by
    rw [← Bytes.leValue_drop, List.drop_eq_getElem_cons bound, same, Bytes.leValue]
  have number : fieldBits frame (8 * offset + bitPosition.toNat) 2 =
      ((byte >>> bitPosition) &&& 0x03).toNat := by
    rw [fieldBits, Nat.pow_add, Nat.pow_mul, ← Nat.div_div_eq_div_mul]
    rw [show (2 : Nat) ^ 8 = 256 from rfl, rest]
    rw [UInt8.toNat_and, UInt8.toNat_shiftRight]
    have bounded : bitPosition.toNat ≤ 6 := UInt8.le_iff_toNat_le.mp low
    have three : (3 : UInt8).toNat = 2 ^ 2 - 1 := rfl
    rw [three, Nat.and_two_pow_sub_one_eq_mod, Nat.shiftRight_eq_div_pow]
    have bytes := byte.toNat_lt
    generalize Bytes.leValue (frame.drop (offset + 1)) = above
    generalize byte.toNat = value at *
    generalize bitPosition.toNat = position at *
    interval_cases position <;> simp <;> omega
  rw [fieldBytes, number]
  exact congrArg (fun first => [first]) UInt8.ofNat_toNat

theorem extractBytes_eq_ok {data raw : List UInt8} {byteOffset count : Nat} {bitPosition : UInt8} :
    extractBytes data byteOffset bitPosition count = .ok raw ↔
      bitPosition = 0 ∧ byteOffset + count ≤ data.length ∧
        raw = (data.drop byteOffset).take count := by
  rw [extractBytes]
  split
  · rename_i high
    exact ⟨fun impossible => (by cases impossible), fun ⟨low, _⟩ => absurd low high⟩
  · rename_i low
    split
    · rename_i short
      exact ⟨fun impossible => (by cases impossible), fun ⟨_, long, _⟩ => (by omega)⟩
    · rename_i long
      constructor
      · intro same
        cases same
        exact ⟨not_not.mp low, by omega, rfl⟩
      · rintro ⟨-, -, rfl⟩
        rfl

theorem extractable_whole {byteOffset bitPosition count size : Nat}
    (known : count = 1 ∨ count = 2 ∨ count = 4 ∨ count = 8) :
    Extractable byteOffset bitPosition (8 * count) size ↔
      bitPosition = 0 ∧ byteOffset + count ≤ size := by
  constructor
  · rintro ⟨-, _⟩
    omega
  · rintro ⟨_, _⟩
    exact ⟨by omega, by omega⟩

theorem extractBytes_whole {data raw : List UInt8} {byteOffset count : Nat} {bitPosition : UInt8}
    (known : count = 1 ∨ count = 2 ∨ count = 4 ∨ count = 8) :
    extractBytes data byteOffset bitPosition count = .ok raw ↔
      Extractable byteOffset bitPosition.toNat (8 * count) data.length ∧
        raw = fieldBytes data (8 * byteOffset + bitPosition.toNat) (8 * count) := by
  have zero : bitPosition = 0 ↔ bitPosition.toNat = 0 := UInt8.toNat_inj.symm
  rw [extractBytes_eq_ok, extractable_whole known, zero, and_assoc]
  constructor
  · rintro ⟨low, fits, rfl⟩
    rw [low, Nat.add_zero]
    exact ⟨rfl, fits, (fieldBytes_whole fits).symm⟩
  · rintro ⟨low, fits, rfl⟩
    rw [low, Nat.add_zero]
    exact ⟨rfl, fits, fieldBytes_whole fits⟩

/-- The decoder takes exactly the bits of a field, if it can take the field at all. -/
theorem extractField_eq_ok {data raw : List UInt8} {byteOffset bitPosition bitLength : UInt8} :
    extractField data byteOffset bitPosition bitLength = .ok raw ↔
      Extractable byteOffset.toNat bitPosition.toNat bitLength.toNat data.length ∧
        raw = fieldBytes data (8 * byteOffset.toNat + bitPosition.toNat) bitLength.toNat := by
  rw [extractField]
  cases found : data[byteOffset.toNat]? with
  | none =>
    have outside := List.getElem?_eq_none_iff.mp found
    exact ⟨fun impossible => (by cases impossible),
      fun ⟨field, _⟩ => absurd field.inside (by omega)⟩
  | some byte =>
    obtain ⟨inside, same⟩ := List.getElem?_eq_some_iff.mp found
    simp only
    split
    · rename_i two
      subst two
      split
      · rename_i high
        have above : 6 < bitPosition.toNat := UInt8.lt_iff_toNat_lt.mp high
        refine ⟨fun impossible => (by cases impossible), fun ⟨field, _⟩ => ?_⟩
        rcases field.shape with ⟨-, low⟩ | ⟨-, impossible, -⟩
        · omega
        · simp at impossible
      · rename_i low
        have below : bitPosition ≤ 6 := UInt8.not_lt.mp low
        have small : bitPosition.toNat ≤ 6 := UInt8.le_iff_toNat_le.mp below
        have taken := fieldBytes_pair found below
        constructor
        · intro same
          cases same
          exact ⟨⟨inside, .inl ⟨rfl, small⟩⟩, taken.symm⟩
        · rintro ⟨-, rfl⟩
          exact congrArg Except.ok taken.symm
    · rename_i notTwo
      split
      · rename_i eight
        subst eight
        have single : (data.drop byteOffset.toNat).take 1 = [byte] := by
          rw [List.drop_eq_getElem_cons inside, same]
          rfl
        have fits : ¬ byteOffset.toNat + 1 > data.length := by omega
        have whole := @extractBytes_whole data raw byteOffset.toNat 1 bitPosition (.inl rfl)
        rw [extractBytes, if_neg fits, single] at whole
        exact whole
      · rename_i notEight
        split
        · rename_i sixteen
          subst sixteen
          exact extractBytes_whole (.inr (.inl rfl))
        · rename_i notSixteen
          split
          · rename_i thirtyTwo
            subst thirtyTwo
            exact extractBytes_whole (.inr (.inr (.inl rfl)))
          · rename_i notThirtyTwo
            split
            · rename_i sixtyFour
              subst sixtyFour
              exact extractBytes_whole (.inr (.inr (.inr rfl)))
            · rename_i notSixtyFour
              refine ⟨fun impossible => (by cases impossible), fun ⟨field, _⟩ => ?_⟩
              rw [← UInt8.toNat_inj] at notTwo notEight notSixteen notThirtyTwo notSixtyFour
              rcases field.shape with ⟨two, -⟩ | ⟨-, known, -⟩
              · exact absurd two notTwo
              · rcases known with eight | sixteen | thirtyTwo | sixtyFour
                · exact absurd eight notEight
                · exact absurd sixteen notSixteen
                · exact absurd thirtyTwo notThirtyTwo
                · exact absurd sixtyFour notSixtyFour

/-- A point is decoded exactly when its field can be taken and is long enough for its data type. -/
theorem decodePoint_eq_ok {point : CanPoint} {frame : List UInt8} {value : Value} :
    decodePoint point frame = .ok value ↔
      Extractable point.byteOffset.toNat point.bitPosition.toNat point.bitLength.toNat frame.length ∧
      point.dataType.size ≤ (point.bitLength.toNat + 7) / 8 ∧
      ∃ raw, raw = fieldBytes frame (8 * point.byteOffset.toNat + point.bitPosition.toNat)
          point.bitLength.toNat ∧
        value = applyScale point.scale point.offset
          (point.dataType.valueOf (Bytes.leValue (raw.take point.dataType.size))
            (asciiText raw)) := by
  constructor
  · intro decoded
    rw [decodePoint] at decoded
    cases extracted : extractField frame point.byteOffset point.bitPosition point.bitLength with
    | error =>
      rw [extracted] at decoded
      cases decoded
    | ok raw =>
      obtain ⟨field, taken⟩ := extractField_eq_ok.mp extracted
      have size : raw.length = (point.bitLength.toNat + 7) / 8 := by
        rw [taken]
        exact Bytes.length_leBytes _ _
      rw [extracted] at decoded
      change (decodeRaw point.dataType raw).bind _ = _ at decoded
      rw [decodeRaw] at decoded
      split at decoded
      · cases decoded
      · rename_i enough
        cases decoded
        exact ⟨field, by omega, raw, taken, rfl⟩
  · rintro ⟨field, _, raw, taken, rfl⟩
    have extracted := extractField_eq_ok.mpr ⟨field, taken⟩
    have size : raw.length = (point.bitLength.toNat + 7) / 8 := by
      rw [taken]
      exact Bytes.length_leBytes _ _
    have long : ¬ raw.length < point.dataType.size := by omega
    rw [decodePoint, extracted]
    change (decodeRaw point.dataType raw).bind _ = _
    rw [decodeRaw, if_neg long]
    rfl

end AetherIot.Io.Can
