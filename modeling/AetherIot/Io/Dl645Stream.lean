import AetherIot.Io.Dl645

/-!
# Receiving DL/T 645 responses

A response arrives in pieces after any number of preamble bytes.  A response to a read is received and
decoded exactly if it fits the buffer together with its preamble.  A response with an error code has
13 bytes, and the receiver and the decoder both ask for 14.
-/

namespace AetherIot.Io.Dl645

/-- The bytes of a response that its checksum covers. -/
def responseBody (address : MeterAddress) (control : UInt8) (content : List UInt8) : List UInt8 :=
  [0x68] ++ address.toWireBytes ++ [0x68, control, UInt8.ofNat content.length] ++ encodeData content

/-- The frame with which a meter responds. -/
def responseFrame (address : MeterAddress) (control : UInt8) (content : List UInt8) : List UInt8 :=
  responseBody address control content ++
    [calculateChecksum (responseBody address control content), 0x16]

/-- The frame starts with its marker, and its length byte is right. -/
def Framed (frame : List UInt8) : Prop :=
  frame[0]? = some 0x68 ∧ ∃ dataLength, frame[9]? = some dataLength ∧
    frame.length = 10 + dataLength.toNat + 2

section Receiving

variable {preamble : Nat} {pieces : List (List UInt8)}

theorem completeFrame_take (framed : Framed frame) (count : Nat) :
    completeFrame (.replicate preamble 0xFE ++ frame.take count) =
      if 14 ≤ preamble + frame.length ∧ frame.length ≤ count then some frame else none := by
  obtain ⟨marker, dataLength, found, length⟩ := framed
  have size : (List.replicate preamble (0xFE : UInt8) ++ frame.take count).length =
      preamble + min count frame.length := by
    rw [List.length_append, List.length_replicate, List.length_take]
  have lengthByte : (.replicate preamble 0xFE ++ frame.take count)[preamble + 9]? =
      if 9 < count then some dataLength else none := by
    rw [List.getElem?_append_right (by simp), List.length_replicate, Nat.add_sub_cancel_left,
      List.getElem?_take, found]
  unfold completeFrame
  rw [size]
  cases count with
  | zero => simp [List.findIdx?_replicate, length]
  | succ count =>
    have start : (.replicate preamble 0xFE ++ frame.take (count + 1)).findIdx? (· = 0x68) =
        some preamble := by
      cases frame with
      | nil => cases marker
      | cons =>
        cases marker
        simp [List.findIdx?_append, List.findIdx?_replicate, List.findIdx?_cons]
    simp only [start, lengthByte]
    by_cases whole : frame.length ≤ count + 1
    · rw [if_pos (show 9 < count + 1 by omega), min_eq_right whole, List.take_of_length_le whole]
      have cut : ((List.replicate preamble 0xFE ++ frame).take (preamble + frame.length)).drop
          preamble = frame := by
        rw [List.take_of_length_le (by simp), List.drop_left' (by simp)]
      simp [whole, ← length, cut]
    · rw [if_neg (show ¬ (14 ≤ _ ∧ _) from fun both => whole both.2)]
      split_ifs
      · exact if_neg (by omega)
      · rfl
      · rfl

/-- Nothing is complete before the last byte of the frame. -/
theorem completeFrame_stream (framed : Framed frame) (enough : 14 ≤ preamble + frame.length)
    (part : buffer <+: .replicate preamble 0xFE ++ frame) : completeFrame buffer =
      if buffer.length = preamble + frame.length then some frame else none := by
  have few := part.length_le
  have positive : 0 < frame.length := by
    obtain ⟨-, _, -, length⟩ := framed
    omega
  rw [List.length_append, List.length_replicate] at few
  rw [List.prefix_iff_eq_take.mp part, List.take_append, List.take_replicate,
    List.length_replicate, completeFrame_take framed]
  refine if_congr ?_ rfl rfl
  simp
  omega

theorem receiveFrame_stream (framed : Framed frame) (enough : 14 ≤ preamble + frame.length)
    (each : ∀ piece ∈ pieces, piece ≠ []) (ending closed : String)
    (arrives : buffer ++ pieces.flatten = .replicate preamble 0xFE ++ frame)
    (few : buffer.length < preamble + frame.length) (room : buffer.length < maxFrameSize) :
    receiveFrame ending closed buffer pieces =
      if preamble + frame.length ≤ maxFrameSize then .ok frame
      else protocolError "Response too large" := by
  induction pieces generalizing buffer with
  | nil =>
    have whole := congrArg List.length arrives
    simp at whole
    omega
  | cons piece pieces ih =>
    obtain ⟨some, each⟩ := List.forall_mem_cons.mp each
    have positive := List.length_pos_of_ne_nil some
    have received : (piece.take (maxFrameSize - buffer.length)).length =
      min (maxFrameSize - buffer.length) piece.length := List.length_take
    have part : buffer ++ piece.take (maxFrameSize - buffer.length) <+:
        .replicate preamble 0xFE ++ frame := by
      rw [← arrives, List.flatten_cons]
      exact (List.prefix_append_right_inj _).mpr
        ((List.take_prefix _ _).trans (List.prefix_append _ _))
    have size := part.length_le
    rw [List.length_append, received, List.length_append, List.length_replicate] at size
    rw [receiveFrame]
    simp only [completeFrame_stream framed enough part, List.length_append, received]
    rw [if_neg (List.ne_nil_of_length_pos (by omega))]
    by_cases whole : buffer.length + min (maxFrameSize - buffer.length) piece.length =
      preamble + frame.length
    · rw [if_pos whole]
      exact (if_pos (by omega)).symm
    · rw [if_neg whole]
      simp only
      by_cases full : buffer.length + min (maxFrameSize - buffer.length) piece.length ≥ maxFrameSize
      · rw [if_pos full, if_neg (by omega)]
      · rw [if_neg full, List.take_of_length_le (by omega)]
        refine ih each ?_ ?_ ?_
        · rw [← arrives, List.append_assoc, List.flatten_cons]
        · rw [List.length_append]
          omega
        · rw [List.length_append]
          omega

end Receiving

section Decoding

variable (address : MeterAddress) (control : UInt8) (content : List UInt8)

theorem length_responseBody : (responseBody address control content).length = content.length + 10 := by
  simp [responseBody, MeterAddress.toWireBytes, address.size, encodeData]
  omega

theorem length_responseFrame : (responseFrame address control content).length = content.length + 12 := by
  rw [responseFrame, List.length_append, length_responseBody]
  rfl

theorem framed_responseFrame (short : content.length < 256) :
    Framed (responseFrame address control content) := by
  refine ⟨rfl, UInt8.ofNat content.length, ?_, ?_⟩
  · simp [responseFrame, responseBody, MeterAddress.toWireBytes, List.getElem?_append, address.size]
  · rw [length_responseFrame, UInt8.toNat_ofNat_of_lt' short]
    omega

theorem decodeResponse_responseFrame (short : content.length < 256) (enough : 2 ≤ content.length) :
    decodeResponse (responseFrame address control content) =
      decodeContent (responseFrame address control content) address := by
  have size := length_responseFrame address control content
  obtain ⟨-, dataLength, found, length⟩ := framed_responseFrame address control content short
  have body : content.length + 12 - 2 = (responseBody address control content).length := by
    rw [length_responseBody, Nat.add_sub_assoc (by decide)]
  have second : (responseFrame address control content)[7]? = some 0x68 := by
    simp [responseFrame, responseBody, MeterAddress.toWireBytes, address.size]
  have last : (responseFrame address control content)[content.length + 12 - 1]? = some 0x16 := by
    rw [responseFrame, List.getElem?_append_right (by rw [length_responseBody]; omega),
      length_responseBody, show content.length + 12 - 1 - (content.length + 10) = 1 by omega]
    rfl
  have sum : (responseFrame address control content)[content.length + 12 - 2]? =
      some (calculateChecksum ((responseFrame address control content).take
        (content.length + 12 - 2))) := by
    rw [body, responseFrame, List.getElem?_append_right le_rfl, List.take_left, Nat.sub_self]
    rfl
  have wire : ((responseFrame address control content).drop 1).take 6 = address.bytes.reverse := by
    simp [responseFrame, responseBody, MeterAddress.toWireBytes, address.size]
  unfold decodeResponse
  rw [size, if_neg (by omega), if_neg (by rw [second]; simp; rfl), if_neg (not_not.mpr last)]
  simp only
  rw [if_neg (not_not.mpr sum), dif_pos (by rw [wire]; simp [address.size])]
  rw [if_neg (by rw [found]; exact not_not.mpr (size.symm.trans length))]
  exact congrArg _ (MeterAddress.mk.injEq .. ▸ by rw [wire, List.reverse_reverse])

theorem decodeContent_responseFrame (dataId : DataIdentifier) (data : List UInt8)
    (short : (dataId.bytes ++ data).length < 256) :
    decodeContent (responseFrame address control (dataId.bytes ++ data)) address =
      .ok ⟨address, dataId, data⟩ ↔ control = 0x91 := by
  have kind : (responseFrame address control (dataId.bytes ++ data))[8]?.getD 0 = control := by
    simp [responseFrame, responseBody, MeterAddress.toWireBytes, List.getElem?_append, address.size]
  obtain ⟨-, dataLength, found, length⟩ := framed_responseFrame address control _ short
  rw [length_responseFrame] at length
  have field : decodeData (((responseFrame address control (dataId.bytes ++ data)).drop 10).take
      dataLength.toNat) = dataId.bytes ++ data := by
    rw [show dataLength.toNat = (encodeData (dataId.bytes ++ data)).length by
      rw [encodeData, List.length_map]; omega, responseFrame, responseBody, List.append_assoc,
      List.drop_left' (by simp [MeterAddress.toWireBytes, address.size]), List.take_left]
    simp [decodeData, encodeData, Function.comp_def]
  unfold decodeContent
  simp only [kind, found, Option.getD_some, field]
  constructor
  · intro decoded
    by_contra other
    rw [if_pos other] at decoded
    split_ifs at decoded
    all_goals cases decoded
  · rintro rfl
    rw [if_neg (by decide), if_neg (by decide), dif_pos (by simp [dataId.size])]
    simp only [List.take_left' dataId.size, List.drop_left' dataId.size]

end Decoding

/-- The response that there is no such data. -/
def errorResponse : List UInt8 := responseFrame ⟨[0, 0, 0, 0, 0, 1], rfl⟩ 0xD1 [1]

end AetherIot.Io.Dl645
