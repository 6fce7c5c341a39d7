import AetherIot.Foundation.Interaction

/-!
# Point slots

A point slot is five atomics of a shared mapping.  Its operations are programs over single atomic
accesses; one writer and any number of readers interleave at these accesses.
-/

namespace AetherIot.Dataplane

/-- The quiet NaN that marks a slot without data. -/
def slotUnwrittenBits : UInt64 := 0x7FF8000000000000

structure PointSlot where
  valueBits : UInt64
  timestamp : UInt64
  rawBits : UInt64
  seq : UInt32
  dirty : UInt32
  deriving DecidableEq

def PointSlot.new : PointSlot where
  valueBits := slotUnwrittenBits
  timestamp := 0
  rawBits := slotUnwrittenBits
  seq := 0
  dirty := 0

/-- A value, its raw value and its timestamp.  Floating-point numbers are given by their bits. -/
structure Reading where
  value : UInt64
  raw : UInt64
  timestamp : UInt64
  deriving DecidableEq

/-- The data fields of a slot. -/
def PointSlot.reading (slot : PointSlot) : Reading := ⟨slot.valueBits, slot.rawBits, slot.timestamp⟩

/-- The triple of a slot that was never written. -/
def Reading.unwritten : Reading := PointSlot.new.reading

def unifiedMagic : UInt64 := 0x564F4C544147455F

def unifiedVersion : UInt32 := 4

structure UnifiedHeader where
  magic : UInt64
  version : UInt32
  maxSlots : UInt32
  slotCount : UInt32
  writerHeartbeat : UInt64
  routingHash : UInt64
  writerGeneration : UInt64
  deriving DecidableEq

inductive DataplaneError where
  | invalidLayout (detail : String)
  deriving DecidableEq

/-- Bytes of a mapping: a header of 64 bytes and slots of 32 bytes. -/
def calculateFileSize (maxSlots : UInt32) : Nat := 64 + maxSlots.toNat * 32

def validateMappingLayout (mappedLength : Nat) (maxSlots : UInt32) (slotCount : Nat) :
    Except DataplaneError Unit :=
  if slotCount > maxSlots.toNat then
    .error (.invalidLayout s!"slot_count {slotCount} exceeds declared max_slots {maxSlots}")
  else
    let required := calculateFileSize maxSlots
    if mappedLength < required then
      .error (.invalidLayout (s!"SHM mapping too small: have {mappedLength} bytes, need " ++
        s!"{required} for max_slots={maxSlots}"))
    else .ok ()

/-- A writer of an open mapping. -/
structure SlotWriter where
  maxSlots : UInt32
  slotCount : Nat
  deriving DecidableEq

/-- `0x` and sixteen hexadecimal digits. -/
def hexWord (word : UInt64) : String :=
  "0x" ++ String.ofList ((List.range 16).reverse.map fun digit =>
    Nat.digitChar (word.toNat / 16 ^ digit % 16))

/-- `0x` and the hexadecimal digits of a word. -/
def hexText (word : UInt64) : String := "0x" ++ String.ofList (Nat.toDigits 16 word.toNat)

/-- Open an existing mapping.  Only its header and its length are looked at. -/
def SlotWriter.openExisting (path : String) (mappedLength : Nat) (header : UnifiedHeader)
    (expectedSlotCount : Nat) (expectedLayoutHash : UInt64) : Except DataplaneError SlotWriter :=
  if mappedLength < 64 then
    .error (.invalidLayout s!"SHM file \"{path}\" is shorter than its header")
  else if header.magic ≠ unifiedMagic then
    .error (.invalidLayout (s!"SHM magic mismatch: expected {hexText unifiedMagic}, got " ++
      hexText header.magic))
  else if header.version ≠ unifiedVersion then
    .error (.invalidLayout
      s!"SHM version mismatch: expected {unifiedVersion}, got {header.version}")
  else do
    let slotCount := header.slotCount.toNat
    validateMappingLayout mappedLength header.maxSlots slotCount
    if slotCount ≠ expectedSlotCount then
      .error (.invalidLayout
        s!"SHM slot_count mismatch: expected {expectedSlotCount}, got {slotCount}")
    else if header.routingHash ≠ expectedLayoutHash then
      .error (.invalidLayout (s!"SHM layout hash mismatch: expected " ++
        s!"{hexWord expectedLayoutHash}, got {hexWord header.routingHash}"))
    else if header.writerGeneration = 0 ∨ header.writerGeneration &&& 1 ≠ 0 then
      .error (.invalidLayout (s!"SHM writer generation {header.writerGeneration} is not a " ++
        "stable published generation"))
    else do
      validateMappingLayout mappedLength header.maxSlots slotCount
      return ⟨header.maxSlots, slotCount⟩

/-- The header of a mapping and one of its slots. -/
structure Mapping where
  header : UnifiedHeader
  slot : PointSlot
  deriving DecidableEq

inductive MemoryOrder where
  | relaxed
  | release
  deriving DecidableEq

/-- A single atomic access. -/
inductive MappingAccess where
  | fetchAddSeq (order : MemoryOrder)
  | loadSeq
  | loadValue
  | loadRaw
  | loadTimestamp
  | storeValue (bits : UInt64)
  | storeRaw (bits : UInt64)
  | storeTimestamp (timestamp : UInt64)
  | storeDirty (flag : UInt32)
  | storeHeartbeat (timestamp : UInt64)
  deriving DecidableEq

abbrev MappingAccess.Reply : MappingAccess → Type
  | .fetchAddSeq _ | .loadSeq => UInt32
  | .loadValue | .loadRaw | .loadTimestamp => UInt64
  | .storeValue _ | .storeRaw _ | .storeTimestamp _ | .storeDirty _ | .storeHeartbeat _ => Unit

/-- Perform an access.  The sequence counter wraps. -/
def Mapping.serve (mapping : Mapping) : (access : MappingAccess) → Mapping × access.Reply
  | .fetchAddSeq _ =>
    ({ mapping with slot := { mapping.slot with seq := mapping.slot.seq + 1 } }, mapping.slot.seq)
  | .loadSeq => (mapping, mapping.slot.seq)
  | .loadValue => (mapping, mapping.slot.valueBits)
  | .loadRaw => (mapping, mapping.slot.rawBits)
  | .loadTimestamp => (mapping, mapping.slot.timestamp)
  | .storeValue bits => ({ mapping with slot := { mapping.slot with valueBits := bits } }, ())
  | .storeRaw bits => ({ mapping with slot := { mapping.slot with rawBits := bits } }, ())
  | .storeTimestamp timestamp => ({ mapping with slot := { mapping.slot with timestamp } }, ())
  | .storeDirty flag => ({ mapping with slot := { mapping.slot with dirty := flag } }, ())
  | .storeHeartbeat timestamp =>
    ({ mapping with header := { mapping.header with writerHeartbeat := timestamp } }, ())

/-- A program over atomic accesses.  It fails with the message of a panic. -/
abbrev SlotProgram (α : Type) : Type := Interaction MappingAccess.Reply String α

def access (request : MappingAccess) : SlotProgram request.Reply := .send request

/-- A program that runs without interruption. -/
def SlotProgram.alone {α : Type} (mapping : Mapping) : SlotProgram α → Mapping × Except String α
  | .done value => (mapping, .ok value)
  | .fail panic => (mapping, .error panic)
  | .ask request next => alone (mapping.serve request).1 (next (mapping.serve request).2)

namespace PointSlot

/-- Single-attempt read, `none` on contention. -/
def tryLoadConsistent : SlotProgram (Option Reading) := do
  let seq1 ← access .loadSeq
  if seq1 &&& 1 ≠ 0 then
    return none
  else
    let value ← access .loadValue
    let raw ← access .loadRaw
    let timestamp ← access .loadTimestamp
    let seq2 ← access .loadSeq
    if seq1 = seq2 then return some ⟨value, raw, timestamp⟩ else return none

/-- Write all data of a slot. -/
def set (reading : Reading) : SlotProgram Unit := do
  let _ ← access (.fetchAddSeq .relaxed)
  access (.storeValue reading.value)
  access (.storeRaw reading.raw)
  access (.storeTimestamp reading.timestamp)
  let _ ← access (.fetchAddSeq .release)
  access (.storeDirty 1)

end PointSlot

/-- Write the slot with the given index. -/
def SlotWriter.setDirect (writer : SlotWriter) (slot : Nat) (reading : Reading) :
    SlotProgram Unit := do
  if slot < writer.slotCount then
    PointSlot.set reading
    access (.storeHeartbeat reading.timestamp)
  else
    .fail s!"set_direct: slot {slot} out of bounds (slot_count={writer.slotCount})"

inductive SlotEvent (ι : Type) where
  | setCompleted (reading : Reading)
  | loadStarted (reader : ι)
  | loadReturned (reader : ι) (result : Option Reading)
  deriving DecidableEq

/-- A mapping, what is left of the call of its writer, what is left of the calls of its readers, and
the events so far.  A set is complete when its sequence number is published. -/
structure SlotSystem (ι : Type) where
  mapping : Mapping
  writer : Option (Reading × SlotProgram Unit)
  readers : ι → Option (SlotProgram (Option Reading))
  log : List (SlotEvent ι)

inductive SlotInput (ι : Type) where
  | set (reading : Reading)
  | write
  | load (reader : ι)
  | read (reader : ι)
  | reopen
  deriving DecidableEq

namespace SlotSystem

variable {ι : Type}

def initial (mapping : Mapping) : SlotSystem ι := ⟨mapping, none, fun _ => none, []⟩

/-- The call of the writer, unless it has returned. -/
def remaining (reading : Reading) : SlotProgram Unit → Option (Reading × SlotProgram Unit)
  | .ask request next => some (reading, .ask request next)
  | .done _ | .fail _ => none

/-- Perform the next access of the writer. -/
def write (system : SlotSystem ι) : SlotSystem ι :=
  match system.writer with
  | some (reading, .ask request next) =>
    let served := system.mapping.serve request
    { system with
      mapping := served.1
      writer := remaining reading (next served.2)
      log := if request = .fetchAddSeq .release then system.log ++ [.setCompleted reading]
        else system.log }
  | _ => system

variable [DecidableEq ι]

/-- Perform the next access of a reader. -/
def read (system : SlotSystem ι) (reader : ι) : SlotSystem ι :=
  match system.readers reader with
  | some (.ask request next) =>
    let served := system.mapping.serve request
    match next served.2 with
    | .done result =>
      { system with
        mapping := served.1
        readers := Function.update system.readers reader none
        log := system.log ++ [.loadReturned reader result] }
    | rest =>
      { system with
        mapping := served.1
        readers := Function.update system.readers reader (some rest) }
  | _ => system

/-- One step of an interleaving.  `reopen` ends the writer and attaches another one; the mapping is
not touched. -/
def step (program : Reading → SlotProgram Unit) (system : SlotSystem ι) : SlotInput ι → SlotSystem ι
  | .set reading =>
    if system.writer.isNone then
      { system with writer := remaining reading (program reading) }
    else system
  | .write => system.write
  | .load reader =>
    if (system.readers reader).isNone then
      { system with
        readers := Function.update system.readers reader (some PointSlot.tryLoadConsistent)
        log := system.log ++ [.loadStarted reader] }
    else system
  | .read reader => system.read reader
  | .reopen => { system with writer := none }

end SlotSystem

/-- The arguments of the completed sets, in order. -/
def completedSets {ι : Type} (log : List (SlotEvent ι)) : List Reading :=
  log.filterMap fun
    | .setCompleted reading => some reading
    | _ => none

/-- The last of the sets, or the unwritten triple. -/
def lastSet (sets : List Reading) : Reading := sets.getLast?.getD .unwritten

/-- The arguments of the last completed set, or the unwritten triple. -/
def lastCompleted {ι : Type} (log : List (SlotEvent ι)) : Reading := lastSet (completedSets log)

end AetherIot.Dataplane
