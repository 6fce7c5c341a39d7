import AetherIot.Foundation.Float64

/-!
# Points

The configuration of a point of a channel, the values that a poll returns for it, and the decoding of
register contents.
-/

namespace AetherIot.Io

inductive PointType where
  | telemetry
  | signal
  | control
  | adjustment
  deriving DecidableEq

inductive Value where
  | float (value : Float)
  | integer (value : Int)
  | bool (value : Bool)
  | text (value : String)
  | bytes (value : List UInt8)
  | null

structure DataPoint where
  id : UInt32
  pointType : PointType
  value : Value

structure PointFailure where
  pointId : UInt32
  error : String
  deriving DecidableEq

/-- What a poll returns: the points that were read and the points that failed. -/
structure PollResult where
  data : List DataPoint
  failures : List PointFailure

namespace PollResult

def success (data : List DataPoint) : PollResult := ⟨data, []⟩

def partially (data : List DataPoint) (failures : List PointFailure) : PollResult :=
  ⟨data, failures⟩

def failed (failures : List PointFailure) : PollResult := ⟨[], failures⟩

end PollResult

inductive ConnectionState where
  | disconnected
  | connecting
  | connected
  | reconnecting
  | error
  deriving DecidableEq

inductive DataFormat where
  | bool
  | uint16
  | int16
  | uint32
  | int32
  | uint64
  | int64
  | float32
  | float64
  | string
  deriving DecidableEq

def DataFormat.registerCount : DataFormat → UInt16
  | .bool | .uint16 | .int16 => 1
  | .uint32 | .int32 | .float32 => 2
  | .uint64 | .int64 | .float64 => 4
  | .string => 8

inductive ByteOrder where
  | abcd
  | dcba
  | badc
  | cdab
  deriving DecidableEq

structure ModbusAddress where
  slaveId : UInt8
  functionCode : UInt8
  register : UInt16
  format : DataFormat
  byteOrder : ByteOrder
  bitPosition : Option UInt8
  deriving DecidableEq

/-- An address of the Modbus protocol, or of another one. -/
inductive ProtocolAddress where
  | modbus (address : ModbusAddress)
  | other (protocol : String)
  deriving DecidableEq

structure TransformConfig where
  scale : Float
  offset : Float
  reverse : Bool

namespace TransformConfig

def apply (transform : TransformConfig) (raw : Float) : Float :=
  raw * transform.scale + transform.offset

def applyBool (transform : TransformConfig) (raw : Bool) : Bool :=
  if transform.reverse then !raw else raw

end TransformConfig

structure PointConfig where
  id : UInt32
  pointType : PointType
  address : ProtocolAddress
  transform : TransformConfig

def applyTransform (value : Value) (transform : TransformConfig) : Value :=
  match value with
  | .float v => .float (transform.apply v)
  | .integer v => .float (transform.apply (Float.ofInt v))
  | .bool v => .bool (transform.applyBool v)
  | .text v => .text v
  | .bytes v => .bytes v
  | .null => .null

def highByte (register : UInt16) : UInt8 := (register >>> 8).toUInt8

def lowByte (register : UInt16) : UInt8 := (register &&& 0xFF).toUInt8

def reorderBytes32 (r0 r1 : UInt16) (order : ByteOrder) : List UInt8 :=
  let a := highByte r0
  let b := lowByte r0
  let c := highByte r1
  let d := lowByte r1
  match order with
  | .abcd => [a, b, c, d]
  | .dcba => [d, c, b, a]
  | .badc => [b, a, d, c]
  | .cdab => [c, d, a, b]

def reorderBytes64 (r0 r1 r2 r3 : UInt16) (order : ByteOrder) : List UInt8 :=
  let a := highByte r0
  let b := lowByte r0
  let c := highByte r1
  let d := lowByte r1
  let e := highByte r2
  let f := lowByte r2
  let g := highByte r3
  let h := lowByte r3
  match order with
  | .abcd => [a, b, c, d, e, f, g, h]
  | .dcba => [h, g, f, e, d, c, b, a]
  | .badc => [b, a, d, c, f, e, h, g]
  | .cdab => [c, d, a, b, g, h, e, f]

/-- The number with the given bytes, the most significant one first. -/
def bigEndian (bytes : List UInt8) : Nat :=
  bytes.foldl (fun number byte => number * 256 + byte.toNat) 0

/-- Two hexadecimal digits. -/
def hexByte (byte : UInt8) : String :=
  let digit (value : Nat) : Char := Char.ofNat (if value < 10 then 48 + value else 55 + value)
  String.ofList [digit (byte.toNat / 16), digit (byte.toNat % 16)]

/-- A single-precision number that is neither infinite nor a NaN. -/
def isFinite32 (bits : UInt32) : Bool := bits &&& 0x7F800000 != 0x7F800000

/-- The characters of a register; zero bytes are skipped. -/
def registerChars (register : UInt16) : List Char :=
  ([highByte register, lowByte register].filter (· ≠ 0)).map fun byte => Char.ofNat byte.toNat

/-- Decode a value from registers, or say why not. -/
def decodeRegisters (registers : List UInt16) (format : DataFormat) (byteOrder : ByteOrder)
    (bitPosition : Option UInt8) : Except String Value :=
  match format with
  | .bool =>
    match registers with
    | [] => .error "No registers for bool"
    | register :: _ =>
      let bit := bitPosition.getD 0
      if bit > 15 then .error "Bit position must be 0-15"
      else .ok (.bool ((register >>> bit.toUInt16) &&& 1 == 1))
  | .uint16 =>
    match registers with
    | [] => .error "No registers for uint16"
    | register :: _ => .ok (.integer register.toNat)
  | .int16 =>
    match registers with
    | [] => .error "No registers for int16"
    | register :: _ => .ok (.integer register.toInt16.toInt)
  | .uint32 | .int32 =>
    match registers with
    | r0 :: r1 :: _ =>
      let word := UInt32.ofNat (bigEndian (reorderBytes32 r0 r1 byteOrder))
      .ok (.integer (if format = .uint32 then word.toNat else word.toInt32.toInt))
    | _ => .error "Need 2 registers for 32-bit value"
  | .float32 =>
    match registers with
    | r0 :: r1 :: _ =>
      let word := UInt32.ofNat (bigEndian (reorderBytes32 r0 r1 byteOrder))
      if isFinite32 word then .ok (.float (Float32.ofBits word).toFloat)
      else .error "Invalid float32 value"
    | _ => .error "Need 2 registers for float32"
  | .uint64 | .int64 =>
    match registers with
    | r0 :: r1 :: r2 :: r3 :: _ =>
      let word := UInt64.ofNat (bigEndian (reorderBytes64 r0 r1 r2 r3 byteOrder))
      .ok (.integer word.toInt64.toInt)
    | _ => .error "Need 4 registers for 64-bit value"
  | .float64 =>
    match registers with
    | r0 :: r1 :: r2 :: r3 :: _ =>
      let word := UInt64.ofNat (bigEndian (reorderBytes64 r0 r1 r2 r3 byteOrder))
      if Float64.isFinite word then .ok (.float (Float.ofBits word))
      else .error "Invalid float64 value"
    | _ => .error "Need 4 registers for float64"
  | .string =>
    let text := registers.flatMap registerChars
    .ok (.text (String.ofList (text.reverse.dropWhile (· = Char.ofNat 0)).reverse))

end AetherIot.Io
