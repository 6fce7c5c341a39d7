import Mathlib

/-!
# Byte strings

Little-endian words, the reflected CRC-32 checksum, and byte codecs of values.
-/

namespace Bytes

/-- The `width` low-order bytes of `value`, least significant first. -/
def leBytes : Nat → Nat → List UInt8
  | 0, _ => []
  | width + 1, value => UInt8.ofNat value :: leBytes width (value / 256)

/-- The number written by bytes in little-endian order. -/
def leValue : List UInt8 → Nat
  | [] => 0
  | byte :: bytes => byte.toNat + 256 * leValue bytes

@[simp]
theorem length_leBytes (width value : Nat) : (leBytes width value).length = width := by
  induction width generalizing value with
  | zero => rfl
  | succ _ ih => simp [leBytes, ih]

theorem leValue_leBytes {width value : Nat} (fits : value < 256 ^ width) :
    leValue (leBytes width value) = value := by
  induction width generalizing value with
  | zero => simp_all [leBytes, leValue]
  | succ width ih =>
    have quotient : value / 256 < 256 ^ width := by
      rw [Nat.div_lt_iff_lt_mul (by decide), ← Nat.pow_succ]
      exact fits
    simp only [leBytes, leValue, ih quotient, UInt8.toNat_ofNat']
    omega

section

variable (bytes : List UInt8)

theorem leBytes_leValue : leBytes bytes.length (leValue bytes) = bytes := by
  induction bytes with
  | nil => rfl
  | cons byte bytes ih =>
    have bound := byte.toNat_lt
    have rest : (byte.toNat + 256 * leValue bytes) / 256 = leValue bytes := by omega
    have first : UInt8.ofNat (byte.toNat + 256 * leValue bytes) = byte := by
      apply UInt8.toNat_inj.mp
      rw [UInt8.toNat_ofNat']
      omega
    rw [List.length_cons, leBytes, leValue, rest, first, ih]

theorem leValue_drop (count : Nat) : leValue (bytes.drop count) = leValue bytes / 256 ^ count := by
  induction count generalizing bytes with
  | zero => simp
  | succ _ ih =>
    cases bytes with
    | nil => simp [leValue]
    | cons byte bytes =>
      have bound := byte.toNat_lt
      have rest : (byte.toNat + 256 * leValue bytes) / 256 = leValue bytes := by omega
      rw [List.drop_succ_cons, ih, leValue, Nat.pow_succ', ← Nat.div_div_eq_div_mul, rest]

theorem leValue_take (count : Nat) : leValue (bytes.take count) = leValue bytes % 256 ^ count := by
  induction count generalizing bytes with
  | zero => simp [leValue, Nat.mod_one]
  | succ _ ih =>
    cases bytes with
    | nil => simp [leValue]
    | cons byte bytes =>
      have bound := byte.toNat_lt
      have low : (byte.toNat + 256 * leValue bytes) % 256 = byte.toNat := by omega
      have rest : (byte.toNat + 256 * leValue bytes) / 256 = leValue bytes := by omega
      rw [List.take_succ_cons, leValue, ih, leValue, Nat.pow_succ', Nat.mod_mul, low, rest]

/-- The bytes of a 32-bit word. -/
def u32Bytes (word : UInt32) : List UInt8 := leBytes 4 word.toNat

/-- The 32-bit word written by four bytes. -/
def u32Value : UInt32 := UInt32.ofNat (leValue bytes)

/-- The bytes of a 64-bit word. -/
def u64Bytes (word : UInt64) : List UInt8 := leBytes 8 word.toNat

/-- The 64-bit word written by eight bytes. -/
def u64Value : UInt64 := UInt64.ofNat (leValue bytes)

@[simp]
theorem length_u32Bytes (word : UInt32) : (u32Bytes word).length = 4 := length_leBytes 4 _

@[simp]
theorem length_u64Bytes (word : UInt64) : (u64Bytes word).length = 8 := length_leBytes 8 _

@[simp]
theorem u32Value_u32Bytes (word : UInt32) : u32Value (u32Bytes word) = word := by
  rw [u32Value, u32Bytes, leValue_leBytes word.toNat_lt, UInt32.ofNat_toNat]

@[simp]
theorem u64Value_u64Bytes (word : UInt64) : u64Value (u64Bytes word) = word := by
  rw [u64Value, u64Bytes, leValue_leBytes word.toNat_lt, UInt64.ofNat_toNat]

theorem leValue_lt : leValue bytes < 256 ^ bytes.length := by
  induction bytes with
  | nil => exact Nat.one_pos
  | cons byte =>
    have bound := byte.toNat_lt
    rw [leValue, List.length_cons, Nat.pow_succ']
    omega

end

variable {bytes : List UInt8}

theorem u32Bytes_u32Value (length : bytes.length = 4) : u32Bytes (u32Value bytes) = bytes := by
  have bound := leValue_lt bytes
  rw [length] at bound
  rw [u32Bytes, u32Value, UInt32.toNat_ofNat_of_lt' bound, ← length, leBytes_leValue]

theorem u64Bytes_u64Value (length : bytes.length = 8) : u64Bytes (u64Value bytes) = bytes := by
  have bound := leValue_lt bytes
  rw [length] at bound
  rw [u64Bytes, u64Value, UInt64.toNat_ofNat_of_lt' bound, ← length, leBytes_leValue]

/-- One bit of the reflected CRC-32 division. -/
def crcBit (crc : UInt32) : UInt32 :=
  (crc >>> 1) ^^^ (0xedb88320 &&& (0 - (crc &&& 1)))

/-- The reflected CRC-32 of `bytes`. -/
def crc32 (bytes : List UInt8) : UInt32 :=
  ~~~(bytes.foldl (fun crc byte => crcBit^[8] (crc ^^^ byte.toUInt32)) 0xffffffff)

/-- An encoding of values that decoding inverts wherever it succeeds. -/
structure Codec (α : Type) where
  encode : α → Except String (List UInt8)
  decode : List UInt8 → Except String α
  decode_encode : ∀ value bytes, encode value = .ok bytes → decode bytes = .ok value

/-- The codec that knows exactly the values of a table. -/
def Codec.ofTable {α : Type} [DecidableEq α] (table : List (α × List UInt8))
    (distinct : (table.map Prod.snd).Nodup) : Codec α where
  encode value :=
    match table.find? fun entry => entry.1 = value with
    | some entry => .ok entry.2
    | none => .error "unknown value"
  decode bytes :=
    match table.find? fun entry => entry.2 = bytes with
    | some entry => .ok entry.1
    | none => .error "unknown bytes"
  decode_encode := by
    intro value bytes encoded
    split at encoded
    · rename_i entry found
      cases encoded
      have member := List.mem_of_find?_eq_some found
      have named := List.find?_some found
      cases search : table.find? fun other => other.2 = entry.2 with
      | none =>
        rw [List.find?_eq_none] at search
        exact absurd (by simp) (search entry member)
      | some other =>
        have sameBytes : other.2 = entry.2 := by simpa using List.find?_some search
        have same := List.inj_on_of_nodup_map distinct (List.mem_of_find?_eq_some search) member
          sameBytes
        simpa [same] using named
    · cases encoded

end Bytes
