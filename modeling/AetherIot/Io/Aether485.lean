import AetherIot.Io.SerialBus

/-!
# Aether-485 devices

A poll queries every configured device on the bus.  An echo of the request is skipped; the response
is checked by its checksum, and its device and command are returned.
-/

namespace AetherIot.Io.Aether485

/-- One bit of the reflected checksum of Modbus. -/
def crcBit (crc : UInt16) : UInt16 := if crc &&& 1 ≠ 0 then (crc >>> 1) ^^^ 0xA001 else crc >>> 1

def crc16Modbus (data : List UInt8) : UInt16 :=
  data.foldl (fun crc byte => crcBit^[8] (crc ^^^ byte.toUInt16)) 0xFFFF

structure Query where
  deviceId : UInt8
  command : UInt8
  deriving DecidableEq

/-- The low and the high byte of a checksum. -/
def crcBytes (crc : UInt16) : List UInt8 := [crc.toUInt8, (crc >>> 8).toUInt8]

def buildRequest (query : Query) : List UInt8 :=
  let content := [2, query.deviceId, query.command]
  [0x5A, 0xA5] ++ content ++ crcBytes (crc16Modbus content)

structure DeviceResponse where
  deviceId : UInt8
  command : Option UInt8
  powerMw : UInt16
  deriving DecidableEq

def protocolError {α : Type} (message : String) : Except String α :=
  .error ("Protocol error: " ++ message)

def bigEndianWord (high low : UInt8) : UInt16 := high.toUInt16 <<< 8 ||| low.toUInt16

/-- The data of a frame: device and power, or device, command and power. -/
def parseDeviceData (data : List UInt8) : Except String DeviceResponse :=
  match data with
  | [device, high, low] => .ok ⟨device, none, bigEndianWord high low⟩
  | device :: command :: high :: low :: _ => .ok ⟨device, some command, bigEndianWord high low⟩
  | _ => protocolError s!"Unexpected data length: {data.length}"

/-- The two bytes after the data are the checksum of the length and the data. -/
def ChecksumValid (frame : List UInt8) : Prop :=
  let length := (frame[2]?.getD 0).toNat
  (frame.drop (3 + length)).take 2 = crcBytes (crc16Modbus ((frame.drop 2).take (1 + length)))

instance (frame : List UInt8) : Decidable (ChecksumValid frame) :=
  inferInstanceAs (Decidable (_ = _))

def hexWord (word : UInt16) : String := hexByte (word >>> 8).toUInt8 ++ hexByte word.toUInt8

def parseResponse (frame : List UInt8) : Except String DeviceResponse :=
  let length := (frame[2]?.getD 0).toNat
  let expectedTotal := 2 + 1 + length + 2
  if frame.length < 8 then protocolError s!"Frame too short: {frame.length} bytes"
  else if frame.take 2 ≠ [0x5A, 0xA5] then
    protocolError ("Bad header: " ++ hexByte (frame[0]?.getD 0) ++ " " ++ hexByte (frame[1]?.getD 0))
  else if frame.length < expectedTotal then
    protocolError s!"Frame length mismatch: need {expectedTotal}, got {frame.length}"
  else if ¬ ChecksumValid frame then
    protocolError ("CRC mismatch: calc " ++ hexWord (crc16Modbus ((frame.drop 2).take (1 + length))) ++
      ", recv " ++ hexByte (frame[3 + length + 1]?.getD 0) ++ hexByte (frame[3 + length]?.getD 0))
  else parseDeviceData ((frame.drop 3).take length)

variable {frame : List UInt8}

theorem checksumValid_of_parseResponse {response : DeviceResponse}
    (parsed : parseResponse frame = .ok response) : ChecksumValid frame := by
  simp only [parseResponse, protocolError, Attempt.refuse_eq_ok] at parsed
  obtain ⟨-, -, -, valid, -⟩ := parsed
  exact not_not.mp valid

/-- A frame at the start of the bytes that arrive, and the bytes after it. -/
def readOneFrame (ending : String) (bytes : List UInt8) : Except String (List UInt8 × List UInt8) :=
  match bytes with
  | first :: second :: length :: rest =>
    if first ≠ 0x5A ∨ second ≠ 0xA5 then
      protocolError ("Bad response header: " ++ hexByte first ++ " " ++ hexByte second)
    else if length = 0 ∨ length.toNat > 264 - 5 then
      protocolError s!"Invalid response Len: {length.toNat}"
    else if rest.length < length.toNat + 2 then .error ending
    else .ok (bytes.take (3 + (length.toNat + 2)), bytes.drop (3 + (length.toNat + 2)))
  | _ => .error ending

/-- The frame after the request, or the one after its echo. -/
def transact (request : List UInt8) (arrival : Arrival) : Except String (List UInt8) :=
  match arrival.writeError with
  | some error => .error error
  | none =>
    match readOneFrame arrival.ending arrival.bytes with
    | .error error => .error error
    | .ok (first, rest) =>
      if first = request then (readOneFrame arrival.ending rest).map Prod.fst else .ok first

theorem readOneFrame_eq {ending : String} {bytes rest : List UInt8}
    (read : readOneFrame ending bytes = .ok (frame, rest)) : bytes = frame ++ rest := by
  unfold readOneFrame at read
  split at read
  · simp only [protocolError, Attempt.refuse_eq_ok] at read
    obtain ⟨-, -, -, ⟨⟩⟩ := read
    exact (List.take_append_drop _ _).symm
  · cases read

theorem transact_part {request : List UInt8} {arrival : Arrival}
    (received : transact request arrival = .ok frame) : frame <:+: arrival.bytes := by
  rw [transact] at received
  split at received
  · cases received
  · cases first : readOneFrame arrival.ending arrival.bytes with
    | error => simp [first] at received
    | ok pair =>
      obtain ⟨front, rest⟩ := pair
      have whole := readOneFrame_eq first
      simp only [first] at received
      split at received
      · obtain ⟨⟨_, after⟩, second, ⟨⟩⟩ := Attempt.map_eq_ok.mp received
        rw [whole, readOneFrame_eq second]
        exact ⟨front, after, by rw [List.append_assoc]⟩
      · cases received
        rw [whole]
        exact (List.prefix_append _ _).isInfix

structure PollTarget where
  pointId : UInt32
  pointType : PointType
  deviceId : UInt8
  command : UInt8
  deriving DecidableEq

/-- The device and the command of a response are not compared with those of the query. -/
def deviceProtocol : SerialProtocol PollTarget Query DeviceResponse where
  request target := ⟨target.deviceId, target.command⟩
  transact query := transact (buildRequest query)
  decode := parseResponse
  point target response := .ok ⟨target.pointId, target.pointType,
    .float (Float.ofNat response.powerMw.toNat)⟩
  pointId target := target.pointId

def Answers (query : Query) (response : DeviceResponse) : Prop :=
  response.deviceId = query.deviceId ∧ response.command = some query.command

instance (query : Query) (response : DeviceResponse) : Decidable (Answers query response) :=
  inferInstanceAs (Decidable (_ ∧ _))

def queryDevice (query : Query) (retryCount : Nat) :
    BusProgram Query (Except String DeviceResponse) :=
  deviceProtocol.query query (retryCount + 1) none

def pollAllTargets (targets : List PollTarget) (retryCount : Nat) : BusProgram Query PollResult :=
  deviceProtocol.pollTargets retryCount targets ⟨[], []⟩

def pollOnce (connected : Bool) (targets : List PollTarget) (retryCount : Nat) :
    BusProgram Query PollResult :=
  if connected then pollAllTargets targets retryCount
  else .done (.failed (targets.map fun target => ⟨target.pointId, "Not connected"⟩))

end AetherIot.Io.Aether485
