import AetherIot.Foundation.FramedLog
import AetherIot.Foundation.MachineText
import AetherIot.Foundation.OrderedMap

/-!
# The file outbox journal

An outbox journal is a sixteen-byte header followed by framed records: enqueued entries, batches of
acknowledged identifiers, and the checkpoint that starts a compacted file.  The journal owns the
file and the live entries; an operation reports success only after its record has been written.
-/

namespace AetherIot.Outbox

open MachineText OrderedMap Bytes FramedLog

/-- Stable classes of port failures. -/
inductive PortErrorKind where
  | unavailable
  | timeout
  | notFound
  | rejected
  | invalidData
  | conflict
  | permanent
  deriving DecidableEq, Repr

/-- Error returned by a capability port. -/
structure PortError where
  kind : PortErrorKind
  message : String
  deriving DecidableEq, Repr

/-- Payload waiting to be delivered to an uplink. -/
structure OutboxMessage where
  destination : String
  payload : List UInt8
  createdAt : UInt64
  deriving DecidableEq, Repr

/-- Stored message with its identifier. -/
structure OutboxEntry where
  id : UInt64
  message : OutboxMessage
  attempts : UInt32
  deriving DecidableEq, Repr

def fileMagic : List UInt8 := utf8 "AETHOBX1"

def fileVersion : UInt32 := 1

def fileHeaderLen : Nat := 16

def recordMagic : UInt32 := 0x58424f41

def recordHeaderLen : Nat := 12

def maxRecordLen : Nat := 16 * 1024 * 1024

def maxCapacity : Nat := (maxRecordLen - 5) / 8

def opEnqueue : UInt8 := 1

def opAcknowledge : UInt8 := 2

def opCheckpoint : UInt8 := 3

def corrupt (message : String) : PortError := ⟨.invalidData, message⟩

def validateRecordSize (payload : List UInt8) : Except PortError Unit :=
  if payload.isEmpty || payload.length > maxRecordLen then
    .error ⟨.invalidData, "outbox journal record size " ++ toString payload.length ++
      " exceeds maximum " ++ toString maxRecordLen⟩
  else .ok ()

/-- A length that fits 32 bits. -/
def lengthWord (length : Nat) (failure : String) : Except PortError UInt32 :=
  if length < 2 ^ 32 then .ok (UInt32.ofNat length) else .error (corrupt failure)

def encodeEnqueue (entry : OutboxEntry) : Except PortError (List UInt8) := do
  let destination := utf8 entry.message.destination
  let messagePayload := entry.message.payload
  let destinationLen ← lengthWord destination.length "outbox destination is too large"
  let payloadLen ← lengthWord messagePayload.length "outbox payload is too large"
  let bytes := [opEnqueue] ++ u64Bytes entry.id ++ u64Bytes entry.message.createdAt ++
    u32Bytes entry.attempts ++ u32Bytes destinationLen ++ u32Bytes payloadLen ++ destination ++
    messagePayload
  validateRecordSize bytes
  return bytes

def encodeAcknowledge (ids : List UInt64) : Except PortError (List UInt8) := do
  let count ← lengthWord ids.length "too many outbox acknowledgements"
  let bytes := [opAcknowledge] ++ u32Bytes count ++ (ids.map u64Bytes).flatten
  validateRecordSize bytes
  return bytes

def encodeCheckpoint (nextId : UInt64) : List UInt8 := [opCheckpoint] ++ u64Bytes nextId

/-- Take `length` bytes off a record. -/
def readBytes (length : Nat) (rest : List UInt8) : Except PortError (List UInt8 × List UInt8) :=
  if length ≤ rest.length then .ok (rest.take length, rest.drop length)
  else .error (corrupt "outbox record ended before all fields were decoded")

variable (rest : List UInt8)

def readU8 : Except PortError (UInt8 × List UInt8) :=
  match rest with
  | byte :: rest => .ok (byte, rest)
  | [] => .error (corrupt "outbox record ended before all fields were decoded")

def readU32 : Except PortError (UInt32 × List UInt8) := do
  let (bytes, rest) ← readBytes 4 rest
  return (u32Value bytes, rest)

def readU64 : Except PortError (UInt64 × List UInt8) := do
  let (bytes, rest) ← readBytes 8 rest
  return (u64Value bytes, rest)

/-- A record must be used up. -/
def finish : Except PortError Unit :=
  if rest ≠ [] then .error (corrupt "outbox record contains trailing bytes") else .ok ()

/-- The logical contents of an outbox: the next identifier and the live entries. -/
structure OutboxContents where
  nextId : UInt64
  entries : BTreeMap UInt64 OutboxEntry
  deriving DecidableEq

/-- The contents of an empty journal. -/
def OutboxContents.empty : OutboxContents := ⟨1, ∅⟩

/-- The listed identifiers that are live, in ascending order and without repetition. -/
def OutboxContents.liveIds (contents : OutboxContents) (ids : List UInt64) : List UInt64 :=
  contents.entries.keys.filter fun id => ids.contains id

def decodeEnqueue : Except PortError OutboxEntry := do
  let (id, rest) ← readU64 rest
  let (createdAt, rest) ← readU64 rest
  let (attempts, rest) ← readU32 rest
  let (destinationLen, rest) ← readU32 rest
  let (payloadLen, rest) ← readU32 rest
  let (destinationBytes, rest) ← readBytes destinationLen.toNat rest
  let destination ← match fromUtf8 destinationBytes with
    | some destination => .ok destination
    | none => .error (corrupt "outbox destination is not UTF-8")
  let (payload, rest) ← readBytes payloadLen.toNat rest
  finish rest
  return ⟨id, ⟨destination, payload, createdAt⟩, attempts⟩

/-- Insert a replayed entry. -/
def recoverEntry (recovered : OutboxContents) (entry : OutboxEntry) :
    Except PortError OutboxContents :=
  if entry.id ∈ recovered.entries then
    .error (corrupt ("duplicate outbox enqueue identifier " ++ toString entry.id))
  else
    match checkedAdd entry.id 1 with
    | none => .error (corrupt "outbox identifier exhausted in journal")
    | some nextId =>
      .ok ⟨max recovered.nextId nextId, recovered.entries.insert entry.id entry⟩

/-- Remove `count` replayed identifiers. -/
def recoverAcknowledged : Nat → BTreeMap UInt64 OutboxEntry → List UInt8 →
      Except PortError (BTreeMap UInt64 OutboxEntry × List UInt8)
  | 0, entries, rest => .ok (entries, rest)
  | count + 1, entries, rest => do
      let (id, rest) ← readU64 rest
      recoverAcknowledged count (entries.erase id) rest

def applyRecord (recovered : OutboxContents) (payload : List UInt8) :
    Except PortError OutboxContents := do
  let (operation, rest) ← readU8 payload
  if operation = opEnqueue then
    let entry ← decodeEnqueue rest
    recoverEntry recovered entry
  else if operation = opAcknowledge then
    let (count, rest) ← readU32 rest
    let (entries, rest) ← recoverAcknowledged count.toNat recovered.entries rest
    finish rest
    return { recovered with entries }
  else if operation = opCheckpoint then
    let (nextId, rest) ← readU64 rest
    finish rest
    if nextId = 0 then .error (corrupt "outbox checkpoint contains identifier zero")
    else return { recovered with nextId := max recovered.nextId nextId }
  else .error (corrupt ("unknown outbox journal operation " ++ toString operation))

def fileHeader : List UInt8 := fileMagic ++ u32Bytes fileVersion ++ [0, 0, 0, 0]

/-- Magic, length, checksum and payload of one record. -/
def recordFrame (payload : List UInt8) : List UInt8 :=
  u32Bytes recordMagic ++ u32Bytes (UInt32.ofNat payload.length) ++ u32Bytes (crc32 payload) ++
    payload

/-- Read the record at `offset`, the head of a nonempty rest of the journal. -/
def readRecord (offset : Nat) (log : List UInt8) : FrameRead PortError :=
  if log.length < recordHeaderLen then .torn
  else if u32Value (log.take 4) ≠ recordMagic then
    .corrupt (corrupt ("outbox record at offset " ++ toString offset ++ " has invalid magic"))
  else
    let payloadLen := (u32Value ((log.drop 4).take 4)).toNat
    let expectedChecksum := u32Value ((log.drop 8).take 4)
    let body := log.drop recordHeaderLen
    if payloadLen = 0 ∨ payloadLen > maxRecordLen then
      .corrupt (corrupt ("outbox record at offset " ++ toString offset ++ " has invalid length " ++
        toString payloadLen))
    else if body.length < payloadLen then .torn
    else if crc32 (body.take payloadLen) ≠ expectedChecksum then
      if body.length = payloadLen then .torn
      else
        .corrupt (corrupt ("outbox record at offset " ++ toString offset ++ " failed checksum"))
    else .frame (body.take payloadLen) (body.drop payloadLen)

/-- The recovered contents and the repaired file. -/
def recover (file : List UInt8) : Except PortError (OutboxContents × List UInt8) :=
  if file.length = 0 then .ok (.empty, fileHeader)
  else if file.length < fileHeaderLen then
    .error (corrupt "outbox journal has an incomplete file header")
  else if file.take 8 ≠ fileMagic then
    .error (corrupt "outbox journal magic does not match")
  else if u32Value ((file.drop 8).take 4) ≠ fileVersion then
    .error (corrupt ("unsupported outbox journal version " ++
      toString (u32Value ((file.drop 8).take 4))))
  else
    let log := file.drop fileHeaderLen
    (scan readRecord applyRecord log.length fileHeaderLen .empty log).map fun recovered =>
      (recovered.1, file.take recovered.2)

/-- An open journal: the file, its bound and the live contents. -/
structure Journal where
  file : List UInt8
  capacity : Nat
  contents : OutboxContents
  poisoned : Option String
  deriving DecidableEq

/-- How far the append of a record gets.  A failed append truncates the file back to where it
started, unless that fails as well. -/
inductive AppendOutcome where
  | synced
  | failed (written : Nat) (failure : PortError) (rolledBack : Bool)
  deriving DecidableEq

/-- How far a compaction gets: nothing replaces the journal before the rename; afterwards the new
file has to be opened again and its directory synchronised. -/
inductive CompactOutcome where
  | committed
  | abandoned (failure : PortError)
  | unopened (failure : PortError)
  | unsynced (failure : PortError)
  deriving DecidableEq

def PortError.text (failure : PortError) : String :=
  (match failure.kind with
    | .unavailable => "Unavailable"
    | .timeout => "Timeout"
    | .notFound => "NotFound"
    | .rejected => "Rejected"
    | .invalidData => "InvalidData"
    | .conflict => "Conflict"
    | .permanent => "Permanent") ++ ": " ++ failure.message

/-- Append a record.  The result is the file afterwards. -/
def appendRecord (file payload : List UInt8) (outcome : AppendOutcome) :
    List UInt8 × Except PortError Unit :=
  match validateRecordSize payload with
  | .error failure => (file, .error failure)
  | .ok () =>
    match outcome with
    | .synced => (file ++ recordFrame payload, .ok ())
    | .failed written failure rolledBack =>
      let torn := file ++ (recordFrame payload).take written
      (if rolledBack then torn.take file.length else torn, .error failure)

namespace Journal

def openJournal (file : List UInt8) (capacity : Nat) : Except PortError Journal :=
  (recover file).map fun recovered => ⟨recovered.2, capacity, recovered.1, none⟩

variable (journal : Journal)

def ensureHealthy : Except PortError Unit :=
  match journal.poisoned with
  | some reason =>
    .error ⟨.permanent,
      "file outbox is unavailable after a fatal journal error: " ++ reason⟩
  | none => .ok ()

/-- The checks an enqueue makes before it writes: the record, the entry and the next identifier. -/
def prepareEnqueue (message : OutboxMessage) :
    Except PortError (List UInt8 × OutboxEntry × UInt64) := do
  journal.ensureHealthy
  if journal.contents.entries.size ≥ journal.capacity then
    .error ⟨.unavailable, "file outbox capacity " ++ toString journal.capacity ++ " reached"⟩
  else
    match checkedAdd journal.contents.nextId 1 with
    | none => .error ⟨.permanent, "outbox identifier exhausted"⟩
    | some nextId =>
      let entry : OutboxEntry := ⟨journal.contents.nextId, message, 0⟩
      let payload ← encodeEnqueue entry
      return (payload, entry, nextId)

def enqueue (message : OutboxMessage) (outcome : AppendOutcome) :
    Journal × Except PortError UInt64 :=
  match journal.prepareEnqueue message with
  | .error failure => (journal, .error failure)
  | .ok (payload, entry, nextId) =>
    match appendRecord journal.file payload outcome with
    | (file, .error failure) => ({ journal with file }, .error failure)
    | (file, .ok ()) =>
      ({ journal with
          file
          contents := ⟨nextId, journal.contents.entries.insert entry.id entry⟩ },
        .ok entry.id)

def peek (limit : Nat) : Except PortError (List OutboxEntry) := do
  journal.ensureHealthy
  return (valueList journal.contents.entries).take limit

/-- The checks an acknowledgement makes before it writes: the live identifiers and the record,
or nothing when there is nothing to remove. -/
def prepareAcknowledge (ids : List UInt64) :
    Except PortError (Option (List UInt8 × List UInt64)) := do
  journal.ensureHealthy
  let existing := journal.contents.liveIds ids
  if existing.isEmpty then return none
  else
    let payload ← encodeAcknowledge existing
    return some (payload, existing)

def acknowledge (ids : List UInt64) (outcome : AppendOutcome) : Journal × Except PortError Nat :=
  match journal.prepareAcknowledge ids with
  | .error failure => (journal, .error failure)
  | .ok none => (journal, .ok 0)
  | .ok (some (payload, existing)) =>
    match appendRecord journal.file payload outcome with
    | (file, .error failure) => ({ journal with file }, .error failure)
    | (file, .ok ()) =>
      ({ journal with
          file
          contents := { journal.contents with
            entries := removeAll journal.contents.entries existing } },
        .ok existing.length)

/-- The file a compaction writes. -/
def compactedFile : Except PortError (List UInt8) := do
  journal.ensureHealthy
  let payloads ← (valueList journal.contents.entries).mapM encodeEnqueue
  return fileHeader ++
    ((encodeCheckpoint journal.contents.nextId :: payloads).map recordFrame).flatten

def compact (outcome : CompactOutcome) : Journal × Except PortError Unit :=
  match journal.compactedFile with
  | .error failure => (journal, .error failure)
  | .ok file =>
    match outcome with
    | .abandoned failure => (journal, .error failure)
    | .unopened failure =>
      ({ journal with file, poisoned := some failure.text }, .error failure)
    | .unsynced failure => ({ journal with file }, .error failure)
    | .committed => ({ journal with file }, .ok ())

end Journal

end AetherIot.Outbox
