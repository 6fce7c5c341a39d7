import AetherIot.Foundation.MachineText

/-!
# Canonical JSON

Values and their canonical text: no white space, the fields of an object in the order of the UTF-16
units of their names, and one spelling of every string.  Numbers are given by their canonical text.
The length of a text is the sum of the lengths of its parts.
-/

namespace CanonicalJson

open MachineText

/-- A number, by its canonical text. -/
structure Number where
  text : List UInt8
  nonempty : text ≠ []
  deriving DecidableEq

inductive Json where
  | null
  | bool (value : Bool)
  | number (number : Number)
  | string (text : String)
  | array (items : List Json)
  | object (fields : List (String × Json))

def hexDigit (value : Nat) : UInt8 :=
  if value < 10 then ascii '0' + value.toUInt8 else ascii 'a' + (value - 10).toUInt8

/-- A character of a string.  Quotes, backslashes and control characters are escaped. -/
def characterText (character : Char) : List UInt8 :=
  match character with
  | '"' => utf8 "\\\""
  | '\\' => utf8 "\\\\"
  | '\x08' => utf8 "\\b"
  | '\t' => utf8 "\\t"
  | '\n' => utf8 "\\n"
  | '\x0c' => utf8 "\\f"
  | '\r' => utf8 "\\r"
  | character =>
    if character.toNat < 0x20 then
      utf8 "\\u00" ++ [hexDigit (character.toNat / 16), hexDigit (character.toNat % 16)]
    else utf8 (String.singleton character)

def stringText (text : String) : List UInt8 :=
  [ascii '"'] ++ text.toList.flatMap characterText ++ [ascii '"']

def utf16Units (text : String) : List Nat :=
  text.toList.flatMap fun character =>
    let scalar := character.toNat
    if scalar < 0x10000 then [scalar]
    else [0xd800 + (scalar - 0x10000) / 0x400, 0xdc00 + (scalar - 0x10000) % 0x400]

/-- Parts separated by commas. -/
def separated : List (List UInt8) → List UInt8
  | [] => []
  | [part] => part
  | part :: rest => part ++ [ascii ','] ++ separated rest

/-- Fields in the order of their names. -/
def sortFields (fields : List (String × List UInt8)) : List (String × List UInt8) :=
  fields.insertionSort fun left right => utf16Units left.1 ≤ utf16Units right.1

def fieldText (field : String × List UInt8) : List UInt8 :=
  stringText field.1 ++ [ascii ':'] ++ field.2

mutual

/-- The canonical text of a value. -/
def Json.text : Json → List UInt8
  | .null => utf8 "null"
  | .bool true => utf8 "true"
  | .bool false => utf8 "false"
  | .number number => number.text
  | .string text => stringText text
  | .array items => [ascii '['] ++ separated (itemTexts items) ++ [ascii ']']
  | .object fields =>
    [ascii '\x7b'] ++ separated ((sortFields (fieldTexts fields)).map fieldText) ++
      [ascii '\x7d']

def itemTexts : List Json → List (List UInt8)
  | [] => []
  | item :: rest => item.text :: itemTexts rest

def fieldTexts : List (String × Json) → List (String × List UInt8)
  | [] => []
  | (name, value) :: rest => (name, value.text) :: fieldTexts rest

end

theorem itemTexts_eq (items : List Json) : itemTexts items = items.map Json.text := by
  induction items with
  | nil => rfl
  | cons _ _ ih => rw [itemTexts, ih, List.map_cons]

theorem fieldTexts_eq (fields : List (String × Json)) :
    fieldTexts fields = fields.map fun field => (field.1, field.2.text) := by
  induction fields with
  | nil => rfl
  | cons _ _ ih => rw [fieldTexts, ih, List.map_cons]

theorem length_separated (parts : List (List UInt8)) :
    (separated parts).length = (parts.map List.length).sum + (parts.length - 1) := by
  induction parts with
  | nil => rfl
  | cons _ rest ih =>
    cases rest with
    | nil => simp [separated]
    | cons =>
      rw [separated, List.length_append, List.length_append, ih]
      · simp only [List.map_cons, List.sum_cons, List.length_cons, List.length_nil]
        omega
      · simp

namespace Json

/-- The number of bytes of the canonical text. -/
def size (value : Json) : Nat := value.text.length

theorem size_array (items : List Json) :
    (array items).size = 2 + (items.map size).sum + (items.length - 1) := by
  have lengths : (items.map text).map List.length = items.map size := by
    rw [List.map_map]
    rfl
  rw [size, text, itemTexts_eq, List.length_append, List.length_append, length_separated, lengths,
    List.length_map]
  simp only [List.length_cons, List.length_nil]
  omega

/-- One more item costs its own text, and a comma if it is not the first. -/
theorem size_array_snoc (items : List Json) (item : Json) : (array (items ++ [item])).size =
      (array items).size + (if items.isEmpty then 0 else 1) + item.size := by
  rw [size_array, size_array, List.map_append, List.sum_append, List.length_append]
  cases items with
  | nil => simp
  | cons =>
    simp only [List.map_cons, List.map_nil, List.sum_cons, List.sum_nil, List.length_cons,
      List.length_nil, List.isEmpty_cons, Bool.false_eq_true, if_false]
    omega

/-- The bytes a field takes without its comma. -/
def fieldSize (field : String × Json) : Nat := (stringText field.1).length + 1 + field.2.size

theorem size_object (fields : List (String × Json)) :
    (object fields).size = 2 + (fields.map fieldSize).sum + (fields.length - 1) := by
  have sorted : (sortFields (fieldTexts fields)).Perm (fieldTexts fields) :=
    List.perm_insertionSort _ _
  have lengths : ((fieldTexts fields).map fieldText).map List.length = fields.map fieldSize := by
    rw [fieldTexts_eq, List.map_map, List.map_map]
    apply List.map_congr_left
    intro _ _
    simp only [Function.comp_apply, fieldText, fieldSize, size, List.length_append,
      List.length_cons, List.length_nil]
  have total := ((sorted.map fieldText).map List.length).sum_eq
  have count : (sortFields (fieldTexts fields)).length = fields.length := by
    rw [sorted.length_eq, fieldTexts_eq, List.length_map]
  rw [size, text, List.length_append, List.length_append, length_separated, total, lengths,
    List.length_map, count]
  simp only [List.length_cons, List.length_nil]
  omega

/-- Exchanging the value of one field changes the size by the difference of the values. -/
theorem size_object_exchange (before after : List (String × Json)) (name : String)
    (left right : Json) :
    (object (before ++ (name, left) :: after)).size + right.size =
      (object (before ++ (name, right) :: after)).size + left.size := by
  simp only [size_object, List.map_append, List.map_cons, List.sum_append, List.sum_cons,
    List.length_append, List.length_cons, fieldSize]
  omega

/-- A value is no larger than an object around it. -/
theorem size_le_object {fields : List (String × Json)} {name : String} {value : Json}
    (member : (name, value) ∈ fields) : value.size ≤ (object fields).size := by
  have part : fieldSize (name, value) ≤ (fields.map fieldSize).sum :=
    List.le_sum_of_mem (List.mem_map_of_mem member)
  rw [size_object]
  simp only [fieldSize] at part
  omega

theorem text_ne_nil (value : Json) : value.text ≠ [] := by
  cases value with
  | null =>
    rw [text]
    decide
  | bool value => cases value <;> rw [text] <;> decide
  | number number =>
    rw [text]
    exact number.nonempty
  | string => simp [Json.text, stringText]
  | array | object => simp [text]

end Json

namespace Json

def get (value : Json) (name : String) : Option Json :=
  match value with
  | .object fields => (fields.find? fun field => field.1 = name).map Prod.snd
  | _ => none

def asStr : Json → Option String
  | .string text => some text
  | _ => none

end Json

end CanonicalJson
