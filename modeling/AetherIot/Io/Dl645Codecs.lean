import AetherIot.Io.Dl645

/-!
# The two DL/T 645 codecs

The core library has a codec of its own, with an identifier in the order of its digits and the data of
a response in a buffer of 64 bytes.  It accepts and rejects the same frames as the codec of the meters
and returns the same content, but it panics on a response whose data does not fit its buffer.
-/

namespace AetherIot.Io.Dl645.Core

/-- Four bytes in the order of the digits. -/
@[ext]
structure DataIdentifier where
  bytes : List UInt8
  size : bytes.length = 4

instance : DecidableEq DataIdentifier :=
  fun _ _ => decidable_of_iff _ DataIdentifier.ext_iff.symm

inductive Dl645Error where
  | noData
  | dateError
  | noPermission
  | frameError
  | checksumError
  | invalidLength
  | invalidMarkers
  | addressError
  | otherError
  deriving DecidableEq

inductive Fault where
  | error (kind : Dl645Error)
  | panicked
  deriving DecidableEq

/-- A decoded response with its data in a buffer. -/
structure Dl645Frame where
  meterAddr : MeterAddress
  dataId : DataIdentifier
  data : List UInt8
  dataLen : Nat
  deriving DecidableEq

/-- A buffer of some size that starts with the bytes. -/
def fill (size : Nat) (bytes : List UInt8) : List UInt8 :=
  bytes.take size ++ List.replicate (size - bytes.length) 0

def decodeData (data : List UInt8) : List UInt8 := fill 64 (data.map (· - 0x33))

theorem length_fill (size : Nat) (bytes : List UInt8) : (fill size bytes).length = size := by
  rw [fill, List.length_append, List.length_take, List.length_replicate]
  omega

def calculateChecksum (frame : List UInt8) : UInt8 :=
  ((frame.foldl (fun sum byte => sum + byte.toUInt16) (0 : UInt16)) &&& 0xFF).toUInt8

def DataIdentifier.toWireBytes (dataId : DataIdentifier) : List UInt8 := dataId.bytes.reverse

/-- The buffer with the frame and the length of the frame. -/
def encodeReadRequest (meterAddr : MeterAddress) (dataId : DataIdentifier) : List UInt8 × Nat :=
  let header := [0x68] ++ meterAddr.toWireBytes ++ [0x68, 0x11, 4] ++
    dataId.toWireBytes.map (· + 0x33)
  let frame := header ++ [calculateChecksum header, 0x16]
  (fill 256 frame, frame.length)

def meterError (code : UInt8) : Dl645Error :=
  if code = 0x01 then .noData
  else if code = 0x02 then .dateError
  else if code = 0x04 then .noPermission
  else if code = 0x08 then .frameError
  else .otherError

/-- The content of a frame whose markers, checksum and length are right.  The data is copied out of a
buffer that holds the first 64 bytes of it. -/
def decodeContent (frame : List UInt8) (meterAddr : MeterAddress) : Except Fault Dl645Frame :=
  let control := frame[8]?.getD 0
  let dataLen := (frame[9]?.getD 0).toNat
  if control = 0xD1 then
    if dataLen > 0 then .error (.error (meterError (frame[10]?.getD 0 - 0x33)))
    else .error (.error .otherError)
  else if control ≠ 0x91 then .error (.error .frameError)
  else
    let decoded := decodeData ((frame.drop 10).take dataLen)
    if dataLen < 4 then .error (.error .invalidLength)
    else if 64 < 4 + (dataLen - 4) then .error .panicked
    else .ok ⟨meterAddr, ⟨(decoded.take 4).reverse, by simp [decoded, decodeData, length_fill]⟩,
      fill 64 ((decoded.drop 4).take (dataLen - 4)), dataLen - 4⟩

def decodeResponse (frame : List UInt8) : Except Fault Dl645Frame :=
  if frame.length < 14 then .error (.error .invalidLength)
  else if frame[0]? ≠ some 0x68 ∨ frame[7]? ≠ some 0x68 then .error (.error .invalidMarkers)
  else if frame[frame.length - 1]? ≠ some 0x16 then .error (.error .invalidMarkers)
  else if frame[frame.length - 2]? ≠ some (calculateChecksum (frame.take (frame.length - 2))) then
    .error (.error .checksumError)
  else
    let wire := (frame.drop 1).take 6
    if size : wire.reverse.length = 6 then
      if frame.length ≠ 10 + (frame[9]?.getD 0).toNat + 2 then .error (.error .invalidLength)
      else decodeContent frame ⟨wire.reverse, size⟩
    else .error (.error .addressError)

/-- A response of the one codec has the content of a frame of the other. -/
def SameContent (response : Dl645Response) (decoded : Dl645Frame) : Prop :=
  decoded.meterAddr = response.meterAddr ∧ decoded.dataId.toWireBytes = response.dataId.bytes ∧
    decoded.data.take decoded.dataLen = response.data

/-- Both decoders return an error, or both return the same content. -/
def Agree (decoded : Except String Dl645Response) (core : Except Fault Dl645Frame) : Prop :=
  (∃ message kind, decoded = .error message ∧ core = .error (.error kind)) ∨
  ∃ response frame, decoded = .ok response ∧ core = .ok frame ∧ SameContent response frame

/-- The data of the response does not fit the buffer of the core. -/
def Overflows (decoded : Except String Dl645Response) : Prop :=
  ∃ response, decoded = .ok response ∧ 60 < response.data.length

theorem calculateChecksum_eq (frame : List UInt8) :
    calculateChecksum frame = Dl645.calculateChecksum frame := by
  have folded (sum : UInt16) : (frame.foldl (fun sum byte => sum + byte.toUInt16) sum).toUInt8 =
      frame.foldl (· + ·) sum.toUInt8 := by
    induction frame generalizing sum with
    | nil => rfl
    | cons byte frame ih =>
      rw [List.foldl_cons, List.foldl_cons, ih, UInt16.toUInt8_add, UInt8.toUInt8_toUInt16]
  rw [calculateChecksum, UInt16.toUInt8_and, folded]
  exact UInt8.and_neg_one

theorem encodeReadRequest_eq (meterAddr : MeterAddress) (dataId : DataIdentifier)
    (wire : Dl645.DataIdentifier) (same : wire.bytes = dataId.toWireBytes) :
    (encodeReadRequest meterAddr dataId).1.take (encodeReadRequest meterAddr dataId).2 =
      Dl645.encodeReadRequest ⟨meterAddr, wire⟩ := by
  have short : meterAddr.toWireBytes.length = 6 := by
    rw [MeterAddress.toWireBytes, List.length_reverse, meterAddr.size]
  have few := wire.size
  rw [same] at few
  simp only [encodeReadRequest, Dl645.encodeReadRequest, fill, calculateChecksum_eq, same, encodeData]
  rw [List.take_append_of_le_length, List.take_take, List.take_of_length_le]
  all_goals simp [short, few]

theorem take_fill {size : Nat} {bytes : List UInt8} (fits : bytes.length ≤ size) :
    (fill size bytes).take bytes.length = bytes := by
  rw [fill, List.take_of_length_le fits, List.take_left']
  rfl

/-- What is taken out of the buffer is what was put into it. -/
theorem content_fill {bytes : List UInt8} {length : Nat} (size : bytes.length = length)
    (enough : 4 ≤ length) (fits : length ≤ 64) :
    (fill 64 bytes).take 4 = bytes.take 4 ∧
      (fill 64 (((fill 64 bytes).drop 4).take (length - 4))).take (length - 4) = bytes.drop 4 := by
  subst size
  have filled := take_fill fits
  have rest : ((fill 64 bytes).drop 4).take (bytes.length - 4) = bytes.drop 4 := by
    rw [← List.drop_take, filled]
  constructor
  · calc
      (fill 64 bytes).take 4 = ((fill 64 bytes).take bytes.length).take 4 := by
        rw [List.take_take, min_eq_left enough]
      _ = bytes.take 4 := by rw [filled]
  · rw [rest, ← List.length_drop]
    exact take_fill (by simp; omega)

theorem rejected {message : String} {kind : Dl645Error} :
    Agree (.error message) (.error (.error kind)) ↔ ¬ Overflows (.error message) := by
  simp [Agree, Overflows]

/-- The contents agree unless the data overflows the buffer. -/
theorem agree_decodeContent {frame : List UInt8} (meterAddr : MeterAddress)
    (length : frame.length = 10 + (frame[9]?.getD 0).toNat + 2) :
    Agree (Dl645.decodeContent frame meterAddr) (decodeContent frame meterAddr) ↔
      ¬ Overflows (Dl645.decodeContent frame meterAddr) := by
  have few : (Dl645.decodeData ((frame.drop 10).take (frame[9]?.getD 0).toNat)).length =
      (frame[9]?.getD 0).toNat := by
    rw [Dl645.decodeData, List.length_map, List.length_take, List.length_drop]
    omega
  unfold Dl645.decodeContent decodeContent protocolError
  simp only
  split
  · split
    · exact rejected
    · exact rejected
  split
  · exact rejected
  split
  · rename_i size
    rw [List.length_take, few] at size
    rw [if_neg (by omega)]
    split
    · simp [Agree, Overflows, few]
      omega
    · rename_i room
      refine ⟨fun _ => ?_, fun _ => .inr ⟨_, _, rfl, rfl, rfl, ?_⟩⟩
      · rintro ⟨_, ⟨⟩, long⟩
        rw [List.length_drop, few] at long
        omega
      · obtain ⟨identifier, data⟩ := content_fill few (by omega) (by omega)
        exact ⟨(List.reverse_reverse _).trans identifier, data⟩
  · rename_i size
    rw [List.length_take, few] at size
    rw [if_pos (by omega)]
    exact rejected

theorem agree_decodeResponse (frame : List UInt8) :
    Agree (Dl645.decodeResponse frame) (decodeResponse frame) ↔
      ¬ Overflows (Dl645.decodeResponse frame) := by
  unfold Dl645.decodeResponse decodeResponse protocolError
  simp only [calculateChecksum_eq]
  split
  · exact rejected
  split
  · exact rejected
  split
  · exact rejected
  split
  · exact rejected
  split
  · split
    · exact rejected
    · exact agree_decodeContent _ (not_not.mp ‹_›)
  · exact rejected

/-- The codecs send the same request, and they agree on a frame exactly if its data fits the buffer. -/
theorem codecs_agree_iff (meterAddr : MeterAddress) (dataId : DataIdentifier)
    (wire : Dl645.DataIdentifier) (frame : List UInt8) :
    (wire.bytes = dataId.toWireBytes →
      (encodeReadRequest meterAddr dataId).1.take (encodeReadRequest meterAddr dataId).2 =
        Dl645.encodeReadRequest ⟨meterAddr, wire⟩) ∧
    (Agree (Dl645.decodeResponse frame) (decodeResponse frame) ↔
      ¬ Overflows (Dl645.decodeResponse frame)) :=
  ⟨encodeReadRequest_eq meterAddr dataId wire, agree_decodeResponse frame⟩

/-- A response with 65 bytes in its data field. -/
def longResponse : List UInt8 :=
  [0x68, 0, 0, 0, 0, 0, 0, 0x68, 0x91, 65] ++ List.replicate 65 0x33 ++ [0x95, 0x16]

theorem long_response_panics : decodeResponse longResponse = .error .panicked ∧
    ¬ Agree (Dl645.decodeResponse longResponse) (decodeResponse longResponse) := by
  have long : Overflows (Dl645.decodeResponse longResponse) :=
    ⟨⟨⟨.replicate 6 0, rfl⟩, ⟨.replicate 4 0, rfl⟩, .replicate 61 0⟩, by decide +kernel, by decide⟩
  exact ⟨by decide +kernel, fun agree => (agree_decodeResponse longResponse).mp agree long⟩

end AetherIot.Io.Dl645.Core
