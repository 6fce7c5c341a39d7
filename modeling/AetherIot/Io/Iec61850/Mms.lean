import AetherIot.Foundation.Utf8
import AetherIot.Io.Point

/-!
# MMS protocol data units

The decoder of the subset of MMS that an IEC 61850 channel receives: responses to reads and writes,
and information reports.  Slicing beyond the end of a buffer and an underflow of the bitmap size do
not return; both are the fault `panicked`.
-/

namespace AetherIot.Io.Iec61850

/-- Why a decoder did not return a value. -/
inductive Fault where
  | error (message : String)
  | panicked
  deriving DecidableEq

/-- A length, and the number of bytes that it takes. -/
def parseBerLen : List UInt8 → Option (Nat × Nat)
  | [] => none
  | first :: rest =>
    if first < 0x80 then some (first.toNat, 1)
    else if first = 0x81 then
      match rest with
      | low :: _ => some (low.toNat, 2)
      | [] => none
    else if first = 0x82 then
      match rest with
      | high :: low :: _ => some (high.toNat * 256 + low.toNat, 3)
      | _ => none
    else none

variable (buffer : List UInt8)

/-- The bytes after an element with the expected tag, and its content. -/
def parseTlv (tag : UInt8) : Option (List UInt8 × List UInt8) :=
  if buffer.head? = some tag then
    match parseBerLen buffer.tail with
    | some (length, header) =>
      let start := 1 + header
      if start + length > buffer.length then none
      else some (buffer.drop (start + length), (buffer.drop start).take length)
    | none => none
  else none

inductive MmsValue where
  | float32 (bits : UInt32)
  | float64 (bits : UInt64)
  | boolean (value : Bool)
  | integer (value : Int64)
  | unsigned (value : UInt64)
  | visibleString (text : String)
  | bitString (bytes : List UInt8) (unusedBits : UInt8)
  | utcTime (bytes : List UInt8)
  | octetString (bytes : List UInt8)
  | failure (code : UInt8)
  deriving DecidableEq

def MmsValue.isOk : MmsValue → Bool
  | .failure _ => false
  | _ => true

/-- Bytes shifted one after another into a word. -/
def shiftIn (word : UInt64) (bytes : List UInt8) : UInt64 :=
  bytes.foldl (fun word byte => word <<< 8 ||| byte.toUInt64) word

/-- The content of an integer, extended by its sign. -/
def parseInteger (content : List UInt8) : Option Int64 :=
  match content with
  | [] => none
  | first :: _ => some (shiftIn (if first &&& 0x80 ≠ 0 then -1 else 0) content).toInt64

/-- The content of a float: one byte for the exponent width and the IEEE bytes. -/
def parseFloat (content : List UInt8) : Option MmsValue :=
  if content.length = 5 then some (.float32 (UInt32.ofNat (bigEndian content.tail)))
  else if content.length = 9 then some (.float64 (UInt64.ofNat (bigEndian content.tail)))
  else none

def isDataTag (tag : UInt8) : Bool :=
  tag ∈ [0x83, 0x84, 0x85, 0x86, 0x87, 0x89, 0x8A, 0x91, 0x90]

/-- The data value at the start of a buffer.  Its length is not compared with the buffer. -/
def parseData : Except Fault MmsValue :=
  match buffer with
  | [] => .error (.error "MMS: empty Data")
  | tag :: rest =>
    match parseBerLen rest with
    | none => .error (.error "MMS: BER length error")
    | some (length, header) =>
      if rest.length < header + length then .error .panicked
      else
        let content := (rest.drop header).take length
        if tag = 0x83 then .ok (.boolean (content.head?.getD 0 ≠ 0))
        else if tag = 0x85 then
          match parseInteger content with
          | some value => .ok (.integer value)
          | none => .error (.error "MMS: zero-length integer")
        else if tag = 0x86 then .ok (.unsigned (shiftIn 0 content))
        else if tag = 0x87 then
          match parseFloat content with
          | some value => .ok value
          | none => .error (.error s!"MMS: unexpected float length {content.length}")
        else if tag = 0x84 then
          match content with
          | [] => .error .panicked
          | unused :: bytes => .ok (.bitString bytes unused)
        else if tag = 0x89 then .ok (.octetString content)
        else if tag = 0x8A ∨ tag = 0x90 then .ok (.visibleString (Utf8.fromUtf8Lossy content))
        else if tag = 0x91 then
          if content.length = 8 then .ok (.utcTime content)
          else .error (.error s!"MMS: UTC time length {content.length} (expected 8)")
        else .error (.error ("MMS: unknown Data tag 0x" ++ hexByte tag))

/-- The first access result of a buffer. -/
def parseAccessResult : Except Fault MmsValue :=
  match buffer with
  | [] => .error (.error "MMS: empty AccessResult")
  | tag :: _ =>
    if tag = 0x80 then .ok (.failure (buffer[2]?.getD 0))
    else if tag = 0xA1 then
      match parseTlv buffer 0xA1 with
      | some (_, data) => parseData data
      | none => .error (.error "MMS: malformed AccessResult success")
    else if isDataTag tag then parseData buffer
    else .error (.error ("MMS: unknown AccessResult tag 0x" ++ hexByte tag))

/-- Require an element with a tag. -/
def expectTlv (tag : UInt8) (message : String) : Except Fault (List UInt8 × List UInt8) :=
  match parseTlv buffer tag with
  | some element => .ok element
  | none => .error (.error message)

variable (pdu : List UInt8)

def parseReadResponse : Except Fault (UInt8 × MmsValue) := do
  let (_, content) ← expectTlv pdu 0xA1 "MMS: expected confirmedResponsePDU (A1)"
  let (rest, identifier) ← expectTlv content 0x02 "MMS: missing invokeID"
  let (_, response) ← expectTlv rest 0xA4 "MMS: expected Read-Response (A4)"
  let (_, results) ← expectTlv response 0xA1 "MMS: expected listOfAccessResults (A1)"
  let value ← parseAccessResult results
  return (identifier.head?.getD 0, value)

/-- The invoke identifier of a response to a successful write. -/
def parseWriteResponse : Except Fault UInt8 := do
  let (_, content) ← expectTlv pdu 0xA1 "MMS: expected confirmedResponsePDU (A1)"
  let (rest, identifier) ← expectTlv content 0x02 "MMS: missing invokeID in write response"
  let (_, response) ← expectTlv rest 0xA5 "MMS: expected Write-Response tag (A5)"
  match response.head? with
  | none => .error (.error "MMS: empty Write-Response body")
  | some tag =>
    if tag = 0x81 then .ok (identifier.head?.getD 0)
    else if tag = 0x80 then
      .error (.error s!"MMS Write data-access error code {(response[2]?.getD 0).toNat}")
    else .error (.error ("MMS: unexpected WriteResponse tag 0x" ++ hexByte tag))

/-- The item at the start of a buffer: the bytes that it takes, and its value unless it is a
structure, an array or of an unknown kind. -/
def parseDataItem : Option (Nat × Option MmsValue) :=
  match buffer with
  | [] => none
  | tag :: rest =>
    match parseBerLen rest with
    | none => none
    | some (length, header) =>
      let total := 1 + header + length
      if buffer.length < total then none
      else
        let content := (rest.drop header).take length
        if tag = 0x83 then some (total, some (.boolean (content.head?.getD 0 ≠ 0)))
        else if tag = 0x84 then
          some (total, some (.bitString content.tail (content.head?.getD 0)))
        else if tag = 0x85 then
          (parseInteger content).map fun value => (total, some (.integer value))
        else if tag = 0x86 then some (total, some (.unsigned (shiftIn 0 content)))
        else if tag = 0x87 then some (total, parseFloat content)
        else if tag = 0x89 ∨ tag = 0x8C then some (total, some (.octetString content))
        else if tag = 0x8A ∨ tag = 0x90 then
          some (total, some (.visibleString (Utf8.fromUtf8Lossy content)))
        else if tag = 0x91 then
          some (total, if content.length = 8 then some (.utcTime content) else none)
        else some (total, none)

def nextItem (items : List UInt8) : Option (Option MmsValue × List UInt8) :=
  (parseDataItem items).map fun (consumed, value) => (value, items.drop consumed)

/-- The next items and those after them. -/
def nextItems : Nat → List UInt8 → Option (List (Option MmsValue) × List UInt8)
  | 0, items => some ([], items)
  | count + 1, items => do
      let (value, items) ← nextItem items
      let (values, items) ← nextItems count items
      return (value :: values, items)

def skipItems (present : Bool) (count : Nat) (items : List UInt8) : Option (List UInt8) :=
  if present then (nextItems count items).map Prod.snd else some items

/-- A bit of a bit string; bit zero is the highest one of the first byte. -/
def bitAt (bytes : List UInt8) (index : Nat) : Bool :=
  match bytes[index / 8]? with
  | some byte => byte.toNat.testBit (7 - index % 8)
  | none => false

/-- The milliseconds since the epoch in a time of six bytes. -/
def reportTime : Option MmsValue → Option Nat
  | some (.octetString bytes) =>
    if bytes.length = 6 then
      some (bigEndian (bytes.drop 4) * 86400000 + bigEndian (bytes.take 4))
    else none
  | _ => none

structure ParsedReport where
  rptId : String
  timestampMs : Option Nat
  datasetSize : Nat
  elementIndices : List Nat
  values : List MmsValue
  deriving DecidableEq

/-- The items of a report up to the inclusion bitmap. -/
structure ReportHeader where
  rptId : String
  optionalFields : List UInt8
  timestampMs : Option Nat
  inclusion : List UInt8
  unusedBits : UInt8
  items : List UInt8

/-- The timestamp of a report that carries one. -/
def takeTimestamp (present : Bool) (items : List UInt8) : Option (Option Nat × List UInt8) :=
  if present then (nextItem items).map fun (value, items) => (reportTime value, items)
  else some (none, items)

/-- A string at the start of the items. -/
def takeString (items : List UInt8) : Option (String × List UInt8) :=
  match nextItem items with
  | some (some (.visibleString text), items) => some (text, items)
  | _ => none

/-- A bit string at the start of the items. -/
def takeBitString (items : List UInt8) : Option ((List UInt8 × UInt8) × List UInt8) :=
  match nextItem items with
  | some (some (.bitString bytes unused), items) => some ((bytes, unused), items)
  | _ => none

def parseReportHeader : Option ReportHeader := do
  let (_, service) ← parseTlv pdu 0xA3
  let (_, info) ← parseTlv service 0xA0
  let (rest, _) ← parseTlv info 0xA1
  let (_, items) ← parseTlv rest 0xA0
  let (rptId, items) ← takeString items
  let ((optionalFields, _), items) ← takeBitString items
  let items ← skipItems (bitAt optionalFields 1) 1 items
  let (timestampMs, items) ← takeTimestamp (bitAt optionalFields 2) items
  let items ← skipItems (bitAt optionalFields 4) 1 items
  let items ← skipItems (bitAt optionalFields 6) 1 items
  let items ← skipItems (bitAt optionalFields 7) 1 items
  let items ← skipItems (bitAt optionalFields 8) 1 items
  let items ← skipItems (bitAt optionalFields 9) 2 items
  let ((inclusion, unusedBits), items) ← takeBitString items
  return ⟨rptId, optionalFields, timestampMs, inclusion, unusedBits, items⟩

/-- The items of a report after its header.  An item without a value counts as a failure. -/
def parseReportBody (header : ReportHeader) : Option ParsedReport := do
  let datasetSize := header.inclusion.length * 8 - header.unusedBits.toNat
  let elementIndices := (List.range datasetSize).filter (bitAt header.inclusion)
  let items ← skipItems (bitAt header.optionalFields 5) elementIndices.length header.items
  let (values, _) ← nextItems elementIndices.length items
  return ⟨header.rptId, header.timestampMs, datasetSize, elementIndices,
    values.map fun value => value.getD (.failure 0)⟩

/-- An information report, or nothing if the unit is malformed or another one. -/
def parseReport : Except Fault (Option ParsedReport) :=
  match parseReportHeader pdu with
  | none => .ok none
  | some header =>
    if header.inclusion.length * 8 < header.unusedBits.toNat then .error .panicked
    else .ok (parseReportBody header)

end AetherIot.Io.Iec61850
