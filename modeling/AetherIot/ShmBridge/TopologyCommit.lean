import AetherIot.Dataplane.PointSlot
import AetherIot.Outbox.Journal

/-!
# The topology commit

One topology publication replaces the point plane, then the channel-health plane, and then the
witness that authorises the pair.  The witness names both planes; it is a file of 80 bytes.
-/

namespace AetherIot.ShmBridge

open Bytes MachineText Dataplane Outbox

def commitMagic : List UInt8 := utf8 "AETHTP01"

def commitVersion : UInt32 := 1

def commitBytes : Nat := 80

def checksumOffset : Nat := 72

/-- The epoch that is never published. -/
def reservedEpoch : UInt64 := 0xFFFFFFFFFFFFFFFF

def transitionError (message : String) : PortError := ⟨.conflict, message⟩

def validateTopologyPublicationEpoch (publicationEpoch : UInt64) : Except PortError Unit :=
  if publicationEpoch = 0 ∨ publicationEpoch = reservedEpoch then
    .error ⟨.invalidData,
      "coordinated SHM topology publication requires a non-zero, non-reserved epoch"⟩
  else .ok ()

inductive Plane where
  | point
  | health
  deriving DecidableEq

def Plane.label : Plane → String
  | .point => "point"
  | .health => "channel-health"

/-- A mapped plane.  `publisher` is the publication that created it, if one did; it is not stored in
the file. -/
structure PlaneFile where
  mappedLength : Nat
  header : UnifiedHeader
  publicationEpoch : UInt64
  publisher : Option Nat
  deriving DecidableEq

def mapDataplaneError : DataplaneError → PortError
  | .invalidLayout message => ⟨.invalidData, message⟩

/-- `0x` and uppercase hexadecimal digits. -/
def hexUpper (word : UInt64) : String := "0x" ++ (hexText word |>.drop 2).toString.toUpper

/-- The checks of a reader that opens a plane. -/
def openReader (path : String) (plane : PlaneFile) : Except DataplaneError PlaneFile := do
  if plane.mappedLength < 64 then
    .error (.invalidLayout
      s!"SHM file \"{path}\" is shorter than its header: {plane.mappedLength} < 64")
  else if plane.header.magic ≠ unifiedMagic then
    .error (.invalidLayout (s!"invalid SHM magic for \"{path}\": expected " ++
      s!"{hexUpper unifiedMagic}, got {hexUpper plane.header.magic}"))
  else if plane.header.version ≠ unifiedVersion then
    .error (.invalidLayout (s!"unsupported SHM version for \"{path}\": expected " ++
      s!"{unifiedVersion}, got {plane.header.version}"))
  else
    validateMappingLayout plane.mappedLength plane.header.maxSlots plane.header.slotCount.toNat
    return plane

structure TopologyPublicationCommit where
  publicationEpoch : UInt64
  pointLayoutHash : UInt64
  pointSlotCount : UInt64
  pointWriterGeneration : UInt64
  healthLayoutHash : UInt64
  healthSlotCount : UInt64
  healthWriterGeneration : UInt64
  deriving DecidableEq

def validateHeaderEpoch (label : String) (header : UnifiedHeader)
    (observedEpoch publicationEpoch : UInt64) : Except PortError Unit :=
  if observedEpoch ≠ publicationEpoch then
    .error (transitionError (s!"{label} SHM publication epoch {observedEpoch} does not match " ++
      s!"requested epoch {publicationEpoch}"))
  else if header.writerGeneration = 0 ∨ header.writerGeneration &&& 1 ≠ 0 then
    .error (transitionError
      s!"{label} SHM writer generation {header.writerGeneration} is not stable")
  else .ok ()

namespace TopologyPublicationCommit

/-- The witness for two open planes. -/
def fromReaders (publicationEpoch : UInt64) (point health : PlaneFile) :
    Except PortError TopologyPublicationCommit := do
  validateHeaderEpoch Plane.point.label point.header point.publicationEpoch publicationEpoch
  validateHeaderEpoch Plane.health.label health.header health.publicationEpoch publicationEpoch
  return { publicationEpoch
           pointLayoutHash := point.header.routingHash
           pointSlotCount := point.header.slotCount.toUInt64
           pointWriterGeneration := point.header.writerGeneration
           healthLayoutHash := health.header.routingHash
           healthSlotCount := health.header.slotCount.toUInt64
           healthWriterGeneration := health.header.writerGeneration }

variable (commit : TopologyPublicationCommit)

def matchesReaders (point health : PlaneFile) : Bool :=
  commit.publicationEpoch ≠ 0 && point.publicationEpoch = commit.publicationEpoch &&
    health.publicationEpoch = commit.publicationEpoch &&
    point.header.routingHash = commit.pointLayoutHash &&
    point.header.slotCount.toUInt64 = commit.pointSlotCount &&
    point.header.writerGeneration = commit.pointWriterGeneration &&
    health.header.routingHash = commit.healthLayoutHash &&
    health.header.slotCount.toUInt64 = commit.healthSlotCount &&
    health.header.writerGeneration = commit.healthWriterGeneration

/-- The fields in the order of the file, from byte 16 on. -/
def words : List UInt64 :=
  [commit.publicationEpoch, commit.pointLayoutHash, commit.pointSlotCount,
    commit.pointWriterGeneration, commit.healthLayoutHash, commit.healthSlotCount,
    commit.healthWriterGeneration]

/-- The bytes under the checksum.  Bytes 12 to 16 are unused. -/
def body : List UInt8 :=
  commitMagic ++ u32Bytes commitVersion ++ [0, 0, 0, 0] ++ commit.words.flatMap u64Bytes

def encode : List UInt8 :=
  commit.body ++ u32Bytes (crc32 commit.body) ++ [0, 0, 0, 0]

end TopologyPublicationCommit

def readU32 (bytes : List UInt8) (offset : Nat) : UInt32 := u32Value ((bytes.drop offset).take 4)

def readU64 (bytes : List UInt8) (offset : Nat) : UInt64 := u64Value ((bytes.drop offset).take 8)

namespace TopologyPublicationCommit

def decode (bytes : List UInt8) : Except PortError TopologyPublicationCommit :=
  if bytes.length ≠ commitBytes then
    .error (transitionError (s!"SHM topology commit has invalid length {bytes.length}; " ++
      s!"expected {commitBytes}"))
  else if bytes.take 8 ≠ commitMagic then
    .error (transitionError "SHM topology commit magic is invalid")
  else if readU32 bytes 8 ≠ commitVersion then
    .error (transitionError
      s!"SHM topology commit version {readU32 bytes 8} is unsupported")
  else if readU32 bytes checksumOffset ≠ crc32 (bytes.take checksumOffset) then
    .error (transitionError "SHM topology commit checksum is invalid")
  else
    let commit : TopologyPublicationCommit :=
      { publicationEpoch := readU64 bytes 16
        pointLayoutHash := readU64 bytes 24
        pointSlotCount := readU64 bytes 32
        pointWriterGeneration := readU64 bytes 40
        healthLayoutHash := readU64 bytes 48
        healthSlotCount := readU64 bytes 56
        healthWriterGeneration := readU64 bytes 64 }
    if commit.publicationEpoch = 0 ∨ commit.publicationEpoch = reservedEpoch then
      .error (transitionError "SHM topology commit cannot authorize a reserved publication epoch")
    else .ok commit

theorem length_commitMagic : commitMagic.length = 8 := by decide

theorem length_body (commit : TopologyPublicationCommit) : commit.body.length = 72 := by
  simp [body, length_commitMagic, words]

variable {word : UInt64}

theorem readU64_flatMap {words : List UInt64} {index : Nat} (field : words[index]? = some word)
    (front back : List UInt8) :
    readU64 (front ++ (words.flatMap u64Bytes ++ back)) (front.length + 8 * index) = word := by
  induction words generalizing front index with
  | nil => cases field
  | cons first _ ih =>
    rw [List.flatMap_cons, List.append_assoc]
    cases index with
    | zero =>
      cases field
      rw [Nat.mul_zero, Nat.add_zero, readU64, List.drop_left' rfl,
        List.take_left' (length_u64Bytes word), u64Value_u64Bytes]
    | succ =>
      have shifted := ih field (front ++ u64Bytes first)
      rw [List.append_assoc, List.length_append, length_u64Bytes] at shifted
      rw [← shifted]
      congr 1
      omega

theorem readU64_encode (commit : TopologyPublicationCommit) (index : Nat)
    (field : commit.words[index]? = some word) :
    readU64 commit.encode (16 + 8 * index) = word := by
  have shape : commit.encode = (commitMagic ++ u32Bytes commitVersion ++ [0, 0, 0, 0]) ++
      (commit.words.flatMap u64Bytes ++ (u32Bytes (crc32 commit.body) ++ [0, 0, 0, 0])) := by
    simp [encode, body]
  have start : (commitMagic ++ u32Bytes commitVersion ++ [(0 : UInt8), 0, 0, 0]).length = 16 := by
    decide
  rw [shape, ← start]
  exact readU64_flatMap field _ _

/-- Reading back a written witness returns it, unless its epoch is reserved. -/
theorem decode_encode (commit : TopologyPublicationCommit) : decode commit.encode =
      if commit.publicationEpoch = 0 ∨ commit.publicationEpoch = reservedEpoch then
        .error (transitionError
          "SHM topology commit cannot authorize a reserved publication epoch")
      else .ok commit := by
  have length : commit.encode.length = commitBytes := by
    simp [encode, length_body, commitBytes]
  have magic : commit.encode.take 8 = commitMagic := by
    simp only [encode, body, List.append_assoc]
    exact List.take_left' length_commitMagic
  have version : readU32 commit.encode 8 = commitVersion := by
    simp only [encode, body, List.append_assoc, readU32]
    rw [List.drop_left' length_commitMagic, List.take_left' (length_u32Bytes _), u32Value_u32Bytes]
  have checked : commit.encode.take checksumOffset = commit.body := by
    rw [encode, List.append_assoc]
    exact List.take_left' (length_body commit)
  have checksum : readU32 commit.encode checksumOffset = crc32 commit.body := by
    rw [encode, List.append_assoc, readU32, checksumOffset, List.drop_left' (length_body commit),
      List.take_left' (length_u32Bytes _), u32Value_u32Bytes]
  have epoch : readU64 commit.encode 16 = _ := readU64_encode commit 0 rfl
  have pointHash : readU64 commit.encode 24 = _ := readU64_encode commit 1 rfl
  have pointSlots : readU64 commit.encode 32 = _ := readU64_encode commit 2 rfl
  have pointWriter : readU64 commit.encode 40 = _ := readU64_encode commit 3 rfl
  have healthHash : readU64 commit.encode 48 = _ := readU64_encode commit 4 rfl
  have healthSlots : readU64 commit.encode 56 = _ := readU64_encode commit 5 rfl
  have healthWriter : readU64 commit.encode 64 = _ := readU64_encode commit 6 rfl
  simp only [decode, length, magic, version, checked, checksum, ne_eq, not_true_eq_false,
    if_false, epoch, pointHash, pointSlots, pointWriter, healthHash, healthSlots, healthWriter]

end TopologyPublicationCommit

end AetherIot.ShmBridge
