import AetherIot.Io.SerialBus

/-!
# DL/T 645 meters

A poll reads the eleven standard data items of one meter.  The decoder of a response checks its frame
and its checksum and returns the meter address and the data identifier in it.
-/

namespace AetherIot.Io.Dl645

/-- Six bytes of two decimal digits each, the first digits first. -/
structure MeterAddress where
  bytes : List UInt8
  size : bytes.length = 6
  deriving DecidableEq

/-- Four bytes in the order of the wire. -/
structure DataIdentifier where
  bytes : List UInt8
  size : bytes.length = 4
  deriving DecidableEq

/-- The bytes of two digits each. -/
def packDigits : List UInt8 → List UInt8
  | high :: low :: rest => ((high - 48) <<< 4 ||| (low - 48)) :: packDigits rest
  | _ => []

def MeterAddress.parse (text : String) : Except String MeterAddress :=
  let bytes := text.toByteArray.data.toList
  if bytes.length ≠ 12 then
    .error s!"Configuration error: Meter address must be 12 digits, got {bytes.length} digits"
  else if bytes.any fun byte => byte < 48 ∨ 57 < byte then
    .error "Configuration error: Meter address must contain only digits"
  else if size : (packDigits bytes).length = 6 then .ok ⟨packDigits bytes, size⟩
  else .error "Configuration error: Meter address must be 12 digits"

def MeterAddress.toWireBytes (address : MeterAddress) : List UInt8 := address.bytes.reverse

def DataIdentifier.fromU32 (value : UInt32) : DataIdentifier :=
  ⟨[value.toUInt8, (value >>> 8).toUInt8, (value >>> 16).toUInt8, (value >>> 24).toUInt8], rfl⟩

def encodeData (data : List UInt8) : List UInt8 := data.map (· + 0x33)

def decodeData (data : List UInt8) : List UInt8 := data.map (· - 0x33)

def calculateChecksum (bytes : List UInt8) : UInt8 := bytes.foldl (· + ·) 0

/-- A request to read a data item. -/
structure ReadRequest where
  meterAddr : MeterAddress
  dataId : DataIdentifier
  deriving DecidableEq

def encodeReadRequest (request : ReadRequest) : List UInt8 :=
  let header := [0x68] ++ request.meterAddr.toWireBytes ++ [0x68, 0x11, 4] ++
    encodeData request.dataId.bytes
  header ++ [calculateChecksum header, 0x16]

structure Dl645Response where
  meterAddr : MeterAddress
  dataId : DataIdentifier
  data : List UInt8
  deriving DecidableEq

def protocolError {α : Type} (message : String) : Except String α :=
  .error ("Protocol error: " ++ message)

/-- The text of an error code of a meter. -/
def meterError (code : UInt8) : String :=
  if code = 0x01 then "Data does not exist"
  else if code = 0x02 then "Date/time error"
  else if code = 0x04 then "No permission"
  else if code = 0x08 then "Frame verification error"
  else "Other error"

/-- The byte before the last one is the sum of those before it. -/
def ChecksumValid (frame : List UInt8) : Prop :=
  frame[frame.length - 2]? = some (calculateChecksum (frame.take (frame.length - 2)))

/-- The content of a frame whose markers, checksum and length are right. -/
def decodeContent (frame : List UInt8) (meterAddr : MeterAddress) : Except String Dl645Response :=
  let control := frame[8]?.getD 0
  let dataLength := (frame[9]?.getD 0).toNat
  if control = 0xD1 then
    if dataLength > 0 then
      protocolError ("Meter error: " ++ meterError (frame[10]?.getD 0 - 0x33))
    else protocolError "Meter returned error without code"
  else if control ≠ 0x91 then protocolError ("Unexpected control code: " ++ hexByte control)
  else
    let decoded := decodeData ((frame.drop 10).take dataLength)
    if size : (decoded.take 4).length = 4 then .ok ⟨meterAddr, ⟨decoded.take 4, size⟩, decoded.drop 4⟩
    else protocolError "Response data too short for DI"

def decodeResponse (frame : List UInt8) : Except String Dl645Response :=
  if frame.length < 14 then protocolError s!"Frame too short: {frame.length} bytes"
  else if frame[0]? ≠ some 0x68 ∨ frame[7]? ≠ some 0x68 then
    protocolError "Invalid frame start markers"
  else if frame[frame.length - 1]? ≠ some 0x16 then protocolError "Invalid frame end marker"
  else
    let expected := calculateChecksum (frame.take (frame.length - 2))
    if frame[frame.length - 2]? ≠ some expected then
      protocolError ("Checksum mismatch: expected " ++ hexByte expected ++ ", got " ++
        hexByte (frame[frame.length - 2]?.getD 0))
    else
      let wire := (frame.drop 1).take 6
      if size : wire.reverse.length = 6 then
        let expectedLength := 10 + (frame[9]?.getD 0).toNat + 2
        if frame.length ≠ expectedLength then
          protocolError s!"Frame length mismatch: expected {expectedLength}, got {frame.length}"
        else decodeContent frame ⟨wire.reverse, size⟩
      else protocolError s!"Expected 6 bytes for meter address, got {wire.length}"

variable {frame buffer : List UInt8} {closed : String}

theorem checksumValid_of_decodeResponse {response : Dl645Response}
    (decoded : decodeResponse frame = .ok response) : ChecksumValid frame := by
  simp only [decodeResponse, protocolError, Attempt.refuse_eq_ok] at decoded
  obtain ⟨-, -, -, valid, -⟩ := decoded
  exact not_not.mp valid

def maxFrameSize : Nat := 256

/-- A complete frame from the first start marker on. -/
def completeFrame (buffer : List UInt8) : Option (List UInt8) :=
  if buffer.length ≥ 14 then
    match buffer.findIdx? (· = 0x68) with
    | some start =>
      match buffer[start + 9]? with
      | some dataLength =>
        let expected := 10 + dataLength.toNat + 2
        if buffer.length ≥ start + expected then
          some ((buffer.take (start + expected)).drop start)
        else none
      | none => none
    | none => none
  else none

/-- Read until there is a complete frame.  What was read beyond it is dropped. -/
def receiveFrame (ending closed : String) : List UInt8 → List (List UInt8) →
    Except String (List UInt8)
  | _, [] => .error ending
  | buffer, piece :: pieces =>
    let received := piece.take (maxFrameSize - buffer.length)
    if received = [] then .error ("Connection error: " ++ closed)
    else
      match completeFrame (buffer ++ received) with
      | some frame => .ok frame
      | none =>
        if (buffer ++ received).length ≥ maxFrameSize then protocolError "Response too large"
        else receiveFrame ending closed (buffer ++ received) pieces

def transactStream (closed : String) (arrival : Arrival) : Except String (List UInt8) :=
  match arrival.writeError with
  | some error => .error error
  | none => receiveFrame arrival.ending closed [] arrival.reads

theorem completeFrame_part (complete : completeFrame buffer = some frame) : frame <:+: buffer := by
  rw [completeFrame] at complete
  split at complete
  · split at complete
    · split at complete
      · simp only at complete
        split at complete
        · cases complete
          exact (List.drop_suffix _ _).isInfix.trans (List.take_prefix _ _).isInfix
        · cases complete
      · cases complete
    · cases complete
  · cases complete

theorem receiveFrame_part {ending : String} {pieces : List (List UInt8)}
    (received : receiveFrame ending closed buffer pieces = .ok frame) :
    frame <:+: buffer ++ pieces.flatten := by
  induction pieces generalizing buffer with
  | nil => cases received
  | cons piece pieces ih =>
    rw [receiveFrame] at received
    split at received
    · cases received
    · split at received
      · rename_i complete
        cases received
        have within : buffer ++ piece.take (maxFrameSize - buffer.length) <+:
            buffer ++ (piece :: pieces).flatten := by
          refine List.prefix_append_right_inj buffer |>.mpr ?_
          rw [List.flatten_cons]
          exact (List.take_prefix _ _).trans (List.prefix_append _ _)
        exact (completeFrame_part complete).trans within.isInfix
      · split at received
        · cases received
        · rename_i room
          have whole : piece.take (maxFrameSize - buffer.length) = piece := by
            rw [List.length_append, List.length_take] at room
            refine List.take_of_length_le ?_
            omega
          rw [whole] at received
          rw [List.flatten_cons, ← List.append_assoc]
          exact ih received

theorem transactStream_part {arrival : Arrival}
    (received : transactStream closed arrival = .ok frame) : frame <:+: arrival.bytes := by
  rw [transactStream] at received
  split at received
  · cases received
  · exact receiveFrame_part received

inductive DataFormat where
  | energy
  | voltage
  | current
  | power
  | powerFactor
  | raw
  deriving DecidableEq

def bcdToU32 (byte : UInt8) : Nat := (byte >>> 4).toNat * 10 + (byte &&& 0x0F).toNat

/-- The low and the high digit of a byte. -/
def digits (byte : UInt8) : Nat × Nat := (bcdToU32 (byte &&& 0x0F), bcdToU32 (byte >>> 4))

/-- A number with a decimal part. -/
def decimalNumber (integer decimal : Nat) (scale : Float) : Float :=
  Float.ofNat integer + Float.ofNat decimal / scale

def signed (negative : Bool) (value : Float) : Float := if negative then -value else value

/-- The value in the data of a response; the bytes beyond it are ignored. -/
def parseBcdData (data : List UInt8) : DataFormat → Except String Float
  | .energy =>
    match data with
    | b0 :: b1 :: b2 :: b3 :: _ => .ok (decimalNumber
        (bcdToU32 b1 + bcdToU32 b2 * 100 + bcdToU32 b3 * 10000) (bcdToU32 b0) 100.0)
    | _ => protocolError "Insufficient data for energy"
  | .voltage =>
    match data with
    | b0 :: b1 :: _ => .ok (decimalNumber
        ((digits b0).2 + (digits b1).1 * 10 + (digits b1).2 * 100) (digits b0).1 10.0)
    | _ => protocolError "Insufficient data for voltage"
  | .current =>
    match data with
    | b0 :: b1 :: b2 :: _ => .ok (decimalNumber
        ((digits b1).2 + (digits b2).1 * 10 + (digits b2).2 * 100)
        ((digits b1).1 * 100 + (digits b0).2 * 10 + (digits b0).1) 1000.0)
    | _ => protocolError "Insufficient data for current"
  | .power =>
    match data with
    | b0 :: b1 :: b2 :: _ =>
      let last := b2 &&& 0x7F
      .ok (signed (b2 &&& 0x80 ≠ 0) (decimalNumber ((digits last).1 + (digits last).2 * 10)
        ((digits b1).2 * 1000 + (digits b1).1 * 100 + (digits b0).2 * 10 + (digits b0).1)
        10000.0))
    | _ => protocolError "Insufficient data for power"
  | .powerFactor =>
    match data with
    | b0 :: b1 :: _ =>
      let last := b1 &&& 0x7F
      .ok (signed (b1 &&& 0x80 ≠ 0) (decimalNumber (digits last).2
        ((digits last).1 * 100 + (digits b0).2 * 10 + (digits b0).1) 1000.0))
    | _ => protocolError "Insufficient data for power factor"
  | .raw => .ok (Float.ofNat (data.head?.getD 0).toNat)

/-- A data item that every poll reads. -/
structure StandardPoint where
  diCode : UInt32
  pointId : UInt32
  format : DataFormat
  deriving DecidableEq

def standardPoints : List StandardPoint :=
  [⟨0x00010000, 1, .energy⟩, ⟨0x00020000, 2, .energy⟩,
    ⟨0x02010100, 3, .voltage⟩, ⟨0x02010200, 4, .voltage⟩, ⟨0x02010300, 5, .voltage⟩,
    ⟨0x02020100, 6, .current⟩, ⟨0x02020200, 7, .current⟩, ⟨0x02020300, 8, .current⟩,
    ⟨0x02030000, 9, .power⟩, ⟨0x02040000, 10, .power⟩, ⟨0x02060000, 11, .powerFactor⟩]

variable (meterAddr : MeterAddress)

/-- The address and the data identifier of a response are not compared with those of the request. -/
def meterProtocol (closed : String) : SerialProtocol StandardPoint ReadRequest Dl645Response where
  request standard := ⟨meterAddr, .fromU32 standard.diCode⟩
  transact _ arrival := transactStream closed arrival
  decode := decodeResponse
  point standard response := (parseBcdData response.data standard.format).map fun value =>
    ⟨standard.pointId, .telemetry, .float value⟩
  pointId standard := standard.pointId

/-- The response has the meter address and the data identifier of the request. -/
def Answers (request : ReadRequest) (response : Dl645Response) : Prop :=
  response.meterAddr = request.meterAddr ∧ response.dataId = request.dataId

instance (request : ReadRequest) (response : Dl645Response) : Decidable (Answers request response) :=
  inferInstanceAs (Decidable (_ ∧ _))

def readSingleDi (closed : String) (retryCount : Nat) (standard : StandardPoint) :
    BusProgram ReadRequest (Except String Dl645Response) :=
  (meterProtocol meterAddr closed).query ((meterProtocol meterAddr closed).request standard)
    (retryCount + 1) none

def readStandardPoints (closed : String) (retryCount : Nat) : BusProgram ReadRequest PollResult :=
  (meterProtocol meterAddr closed).pollTargets retryCount standardPoints ⟨[], []⟩

def failAllStandardPoints (message : String) : List PointFailure :=
  standardPoints.map fun standard => ⟨standard.pointId, message⟩

/-- Poll the meter of a channel over its transport, if there is one. -/
def pollOnce (meterAddress : String) (transport : Option String) (retryCount : Nat) :
    BusProgram ReadRequest PollResult :=
  match transport with
  | none => .done (.failed (failAllStandardPoints "Not connected"))
  | some closed =>
    match MeterAddress.parse meterAddress with
    | .error error => .done (.failed (failAllStandardPoints ("Invalid meter address: " ++ error)))
    | .ok meterAddr => readStandardPoints meterAddr closed retryCount

end AetherIot.Io.Dl645
