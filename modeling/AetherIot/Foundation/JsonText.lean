import AetherIot.Foundation.MachineText

/-!
# JSON text

The compact JSON of values whose strings need no escapes, as bytes.
-/

namespace JsonText

open MachineText

def quoted (text : String) : List UInt8 := utf8 "\"" ++ utf8 text ++ utf8 "\""

def jsonArray (items : List (List UInt8)) : List UInt8 :=
  utf8 "[" ++ (utf8 ",").intercalate items ++ utf8 "]"

def jsonObject (fields : List (String × List UInt8)) : List UInt8 :=
  utf8 "\x7b" ++ (utf8 ",").intercalate (fields.map fun (name, value) =>
    quoted name ++ utf8 ":" ++ value) ++ utf8 "\x7d"

def jsonNumber (word : UInt64) : List UInt8 := utf8 (toString word)

/-- A field that is left out when it has no value. -/
def optionalField (name : String) (value : Option String) : List (String × List UInt8) :=
  (value.map fun text => (name, quoted text)).toList

end JsonText
