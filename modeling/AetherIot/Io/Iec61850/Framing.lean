import AetherIot.Io.Iec61850.Transport

/-!
# The frames of sent units

A unit is sent as the innermost of three nested elements, behind fixed session and COTP headers and
the length of the whole frame.  Reading takes off what wrapping put on.
-/

namespace AetherIot.Io.Iec61850

def berLenSize (len : Nat) : Nat := if len < 0x80 then 1 else if len < 0x100 then 2 else 3

def pushBerLen (len : Nat) : List UInt8 :=
  if len < 0x80 then [len.toUInt8]
  else if len < 0x100 then [0x81, len.toUInt8]
  else [0x82, (len >>> 8).toUInt8, len.toUInt8]

def presDataHeader (payloadLen : Nat) : List UInt8 :=
  let pdvContent := 3 + berLenSize payloadLen + 1
  let seqLen := pdvContent + payloadLen
  let fedLen := 1 + berLenSize seqLen + seqLen
  [0x61] ++ pushBerLen fedLen ++ [0x30] ++ pushBerLen seqLen ++ [0x02, 0x01, 0x03] ++
    [0xA0] ++ pushBerLen payloadLen

def wrapDataPdu (mmsPdu : List UInt8) : List UInt8 :=
  let sessionLen := 4
  let presHdr := presDataHeader mmsPdu.length
  let total := 3 + sessionLen + presHdr.length + mmsPdu.length
  let frameLen : UInt16 := (4 + total).toUInt16
  [(0x03 : UInt8), 0x00, (frameLen >>> 8).toUInt8, frameLen.toUInt8] ++ [0x02, 0xF0, 0x80] ++
    [0x01, 0x00, 0x01, 0x00] ++ presHdr ++ mmsPdu

/-- A tag, the length of the content and the content. -/
def element (tag : UInt8) (content : List UInt8) : List UInt8 :=
  tag :: (pushBerLen content.length ++ content)

variable {len : Nat} {content pdu : List UInt8}

@[simp]
theorem length_pushBerLen : (pushBerLen len).length = berLenSize len := by
  rw [pushBerLen, berLenSize]
  split
  · rfl
  · split <;> rfl

theorem length_element (tag : UInt8) :
    (element tag content).length = 1 + berLenSize content.length + content.length := by
  simp only [element, List.length_cons, List.length_append, length_pushBerLen]
  omega

theorem parseBerLen_pushBerLen (fits : len < 2 ^ 16) (rest : List UInt8) :
    parseBerLen (pushBerLen len ++ rest) = some (len, berLenSize len) := by
  rw [pushBerLen, berLenSize]
  by_cases short : len < 0x80
  · have first : len.toUInt8.toNat = len := UInt8.toNat_ofNat_of_lt' (lt_trans short (by decide))
    have below : len.toUInt8 < 0x80 := by
      rw [UInt8.lt_iff_toNat_lt, first]
      exact short
    simp [short, parseBerLen, below, first]
  · by_cases byte : len < 0x100
    · have low : len.toUInt8.toNat = len := UInt8.toNat_ofNat_of_lt' byte
      simp [short, byte, parseBerLen, low]
    · have high : (len >>> 8).toUInt8.toNat = len / 256 := by
        rw [Nat.shiftRight_eq_div_pow]
        exact UInt8.toNat_ofNat_of_lt' (Nat.div_lt_of_lt_mul fits)
      have low : len.toUInt8.toNat = len % 256 := UInt8.toNat_ofNat'
      have whole : len / 256 * 256 + len % 256 = len := Nat.div_add_mod' len 256
      simp [short, byte, parseBerLen, high, low, whole]

/-- Reading an element gives its content. -/
theorem parseTlv_element (tag : UInt8) (fits : content.length < 2 ^ 16) :
    parseTlv (element tag content) tag = some ([], content) := by
  have header : parseBerLen (element tag content).tail =
      some (content.length, berLenSize content.length) := parseBerLen_pushBerLen fits content
  have start : (element tag content).drop (1 + berLenSize content.length) = content := by
    rw [element, Nat.add_comm, List.drop_succ_cons, ← length_pushBerLen, List.drop_left]
  have first : (element tag content).head? = some tag := rfl
  simp only [parseTlv, first, if_true, header, length_element, lt_irrefl, if_false, start]
  rw [← length_element tag, List.drop_length, List.take_length]

theorem presDataHeader_append (pdu : List UInt8) : presDataHeader pdu.length ++ pdu =
    element 0x61 (element 0x30 ([0x02, 0x01, 0x03] ++ element 0xA0 pdu)) := by
  have inner : ([0x02, 0x01, 0x03] ++ element 0xA0 pdu).length =
      3 + berLenSize pdu.length + 1 + pdu.length := by
    simp only [element, List.length_cons, List.length_append, length_pushBerLen, List.length_nil]
    omega
  have outer : (element 0x30 ([0x02, 0x01, 0x03] ++ element 0xA0 pdu)).length =
      1 + berLenSize (3 + berLenSize pdu.length + 1 + pdu.length) +
        (3 + berLenSize pdu.length + 1 + pdu.length) := by
    rw [length_element, inner]
  rw [element, outer, element, inner, element, presDataHeader]
  simp only [List.append_assoc, List.cons_append, List.nil_append]

theorem drop_wrapDataPdu (pdu : List UInt8) : (wrapDataPdu pdu).drop 4 =
    [0x02, 0xF0, 0x80] ++ ([0x01, 0x00, 0x01, 0x00] ++
      element 0x61 (element 0x30 ([0x02, 0x01, 0x03] ++ element 0xA0 pdu))) := by
  rw [← presDataHeader_append]
  simp [wrapDataPdu]

theorem unwrapDataPdu_drop (fits : (wrapDataPdu pdu).length < 2 ^ 16) :
    unwrapDataPdu ((wrapDataPdu pdu).drop 4) = some pdu := by
  have data : (element 0x30 ([0x02, 0x01, 0x03] ++ element 0xA0 pdu)).length < 2 ^ 16 := by
    have payload := congrArg List.length (drop_wrapDataPdu pdu)
    simp only [List.length_drop, List.length_append, length_element 0x61] at payload
    omega
  have list : ([0x02, 0x01, 0x03] ++ element 0xA0 pdu).length < 2 ^ 16 := by
    rw [length_element] at data
    omega
  have unit : pdu.length < 2 ^ 16 := by
    rw [List.length_append, length_element] at list
    omega
  have strips : ∀ front rest : List UInt8, (front ++ rest).dropPrefix? front = some rest :=
    fun _ rest => List.dropPrefix?_append_of_beq rest (beq_self_eq_true _)
  simp only [drop_wrapDataPdu, unwrapDataPdu, strips, parseTlv_element _ data,
    parseTlv_element _ list, parseTlv_element _ unit, Option.bind_eq_bind, Option.bind_some]
  rfl

/-- The two bytes of a frame length. -/
theorem bigEndian_word (word : UInt16) :
    bigEndian [(word >>> 8).toUInt8, word.toUInt8] = word.toNat := by
  have bound := word.toNat_lt
  have high : (word >>> 8).toUInt8.toNat = word.toNat / 256 := by
    rw [UInt16.toNat_toUInt8, UInt16.toNat_shiftRight, Nat.shiftRight_eq_div_pow]
    exact Nat.mod_eq_of_lt (Nat.div_lt_of_lt_mul bound)
  have low : word.toUInt8.toNat = word.toNat % 256 := UInt16.toNat_toUInt8 word
  simp only [bigEndian, List.foldl_cons, List.foldl_nil, high, low]
  omega

theorem bigEndian_wrapDataPdu (fits : (wrapDataPdu pdu).length < 2 ^ 16) :
    bigEndian (((wrapDataPdu pdu).drop 2).take 2) = (wrapDataPdu pdu).length := by
  have total : (wrapDataPdu pdu).length =
      4 + (3 + 4 + (presDataHeader pdu.length).length + pdu.length) := by
    simp only [wrapDataPdu, List.length_append, List.length_cons, List.length_nil]
    omega
  rw [total] at fits ⊢
  exact (bigEndian_word _).trans (UInt16.toNat_ofNat_of_lt' fits)

theorem recvTpkt_wrapDataPdu (fits : (wrapDataPdu pdu).length < 2 ^ 16) (rest : List UInt8) :
    recvTpkt (wrapDataPdu pdu ++ rest) =
      .complete ((wrapDataPdu pdu).drop 4) (wrapDataPdu pdu).length := by
  obtain ⟨high, low, shape⟩ : ∃ high low,
      wrapDataPdu pdu = 0x03 :: 0x00 :: high :: low :: (wrapDataPdu pdu).drop 4 := ⟨_, _, rfl⟩
  have field := bigEndian_wrapDataPdu fits
  generalize (wrapDataPdu pdu).drop 4 = payload at shape ⊢
  rw [shape] at field ⊢
  have total : high.toNat * 256 + low.toNat = payload.length + 4 := by
    simpa [bigEndian] using field
  have enough : ¬ (payload ++ rest).length < payload.length + 4 - 4 := by simp
  have long : ¬ payload.length + 4 < 4 := by omega
  simp only [List.cons_append, recvTpkt, total, ne_eq, not_true_eq_false, if_false, long, enough]
  simp

/-- The receiver gets the unit of a frame back, whatever follows the frame. -/
theorem recvMmsRaw_wrapDataPdu (fits : (wrapDataPdu pdu).length < 2 ^ 16) (rest : List UInt8) :
    recvMmsRaw (wrapDataPdu pdu ++ rest) = .unit pdu (wrapDataPdu pdu).length := by
  rw [recvMmsRaw, recvTpkt_wrapDataPdu fits]
  simp only [unwrapDataPdu_drop fits]

theorem recvMmsRaw_wrapDataPdu_pair : (wrapDataPdu [0xA1]).length < 2 ^ 16 ∧
    recvMmsRaw (wrapDataPdu [0xA1] ++ wrapDataPdu [0xA3]) =
      .unit [0xA1] (wrapDataPdu [0xA1]).length :=
  ⟨by decide, recvMmsRaw_wrapDataPdu (by decide) _⟩

/-- The length field of a frame is its length, and unwrapping gives the unit that was wrapped. -/
theorem unwrapDataPdu_wrapDataPdu (pdu : List UInt8) (fits : (wrapDataPdu pdu).length ≤ 65535) :
    bigEndian (((wrapDataPdu pdu).drop 2).take 2) = (wrapDataPdu pdu).length ∧
      unwrapDataPdu ((wrapDataPdu pdu).drop 4) = some pdu := by
  have small : (wrapDataPdu pdu).length < 2 ^ 16 := Nat.lt_succ_of_le fits
  exact ⟨bigEndian_wrapDataPdu small, unwrapDataPdu_drop small⟩

theorem unwrapDataPdu_wrapDataPdu_response :
    (wrapDataPdu [0xA1, 0x03, 0x02, 0x01, 0x05]).length ≤ 65535 ∧
      bigEndian (((wrapDataPdu [0xA1, 0x03, 0x02, 0x01, 0x05]).drop 2).take 2) =
          (wrapDataPdu [0xA1, 0x03, 0x02, 0x01, 0x05]).length ∧
        unwrapDataPdu ((wrapDataPdu [0xA1, 0x03, 0x02, 0x01, 0x05]).drop 4) =
          some [0xA1, 0x03, 0x02, 0x01, 0x05] :=
  ⟨by decide, unwrapDataPdu_wrapDataPdu _ (by decide)⟩

end AetherIot.Io.Iec61850
