import Mathlib

/-!
# Checked words and UTF-8 text

Overflow-checked addition on 64-bit words, and the byte view of text on which identifier and
digest alphabets are decided.
-/

namespace MachineText

/-- Addition that reports overflow instead of wrapping. -/
def checkedAdd (left right : UInt64) : Option UInt64 :=
  if left.toNat + right.toNat < 2 ^ 64 then some (left + right) else none

theorem checkedAdd_one_eq_some {value after : UInt64} :
    checkedAdd value 1 = some after ↔ value < after ∧ after = value + 1 := by
  have bound := value.toNat_lt
  simp only [checkedAdd, UInt64.reduceToNat, Option.ite_none_right_eq_some, Option.some.injEq]
  constructor
  · rintro ⟨_, rfl⟩
    refine ⟨?_, rfl⟩
    rw [UInt64.lt_iff_toNat_lt, UInt64.toNat_add]
    simp only [UInt64.reduceToNat]
    omega
  · rintro ⟨below, rfl⟩
    refine ⟨?_, rfl⟩
    rw [UInt64.lt_iff_toNat_lt, UInt64.toNat_add] at below
    simp only [UInt64.reduceToNat] at below
    omega

theorem checkedAdd_one_eq_none {value : UInt64} :
    checkedAdd value 1 = none ↔ value.toNat + 1 = 2 ^ 64 := by
  have bound := value.toNat_lt
  simp only [checkedAdd, UInt64.reduceToNat, ite_eq_right_iff, reduceCtorEq, imp_false]
  omega

theorem max_word (left right : UInt64) : max left right = if left ≤ right then right else left := rfl

/-- The UTF-8 bytes of a text. -/
def utf8 (text : String) : List UInt8 := text.toByteArray.data.toList

/-- Read UTF-8 bytes back as text. -/
def fromUtf8 (bytes : List UInt8) : Option String := String.fromUTF8? bytes.toByteArray

@[simp]
theorem fromUtf8_utf8 (text : String) : fromUtf8 (utf8 text) = some text := by
  have bytes : (utf8 text).toByteArray = text.toByteArray := by
    apply ByteArray.ext
    apply Array.ext'
    simp [utf8]
  simp [fromUtf8, bytes, String.fromUTF8?, String.fromUTF8, text.isValidUTF8]

theorem utf8_of_fromUtf8 {bytes : List UInt8} {text : String} (read : fromUtf8 bytes = some text) :
    utf8 text = bytes := by
  rw [fromUtf8, String.fromUTF8?] at read
  split at read
  · cases read
    simp [utf8, String.fromUTF8]
  · cases read

/-- The byte of an ASCII character. -/
def ascii (character : Char) : UInt8 := character.toNat.toUInt8

theorem utf8_append (left right : String) : utf8 (left ++ right) = utf8 left ++ utf8 right := by
  simp [utf8, String.toByteArray_append]

/-- Every ASCII character is one byte. -/
theorem utf8_ofList_of_ascii {characters : List Char}
    (small : ∀ character ∈ characters, character.toNat ≤ 127) :
    utf8 (String.ofList characters) = characters.map ascii := by
  induction characters with
  | nil => rfl
  | cons character _ ih =>
    have first : String.utf8EncodeChar character = [ascii character] := by
      have bound := small character List.mem_cons_self
      rw [String.utf8EncodeChar]
      exact if_pos bound
    have others := ih fun other member => small other (List.mem_cons_of_mem _ member)
    rw [utf8, String.toByteArray_ofList] at others ⊢
    rw [List.utf8Encode_cons, ByteArray.data_append, Array.toList_append, others, List.map_cons]
    simp [List.utf8Encode, first]

variable (byte : UInt8)

def isAsciiDigit : Bool := ascii '0' ≤ byte && byte ≤ ascii '9'

def isAsciiUppercase : Bool := ascii 'A' ≤ byte && byte ≤ ascii 'Z'

def isAsciiLowercase : Bool := ascii 'a' ≤ byte && byte ≤ ascii 'z'

def isAsciiAlphanumeric : Bool :=
  isAsciiDigit byte || isAsciiUppercase byte || isAsciiLowercase byte

def isAsciiHexdigit : Bool :=
  isAsciiDigit byte || (ascii 'A' ≤ byte && byte ≤ ascii 'F') ||
    (ascii 'a' ≤ byte && byte ≤ ascii 'f')

end MachineText
