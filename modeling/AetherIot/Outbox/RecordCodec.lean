import AetherIot.Outbox.Recovery

/-!
# The record codec of the outbox journal

Every reader accepts only what its writer writes.  A record that replays is therefore the encoding
of one operation, and the encoding of an operation replays to that operation.
-/

namespace AetherIot.Outbox

open MachineText OrderedMap Bytes Attempt

section

variable {input rest : List UInt8}

theorem eq_of_readBytes {length : Nat} {bytes : List UInt8}
    (read : readBytes length input = .ok (bytes, rest)) :
    input = bytes ++ rest ∧ bytes.length = length := by
  rw [readBytes] at read
  split at read
  · rename_i enough
    cases read
    exact ⟨(List.take_append_drop length input).symm, List.length_take_of_le enough⟩
  · cases read

theorem eq_of_readU32 {word : UInt32} (read : readU32 input = .ok (word, rest)) :
    input = u32Bytes word ++ rest := by
  obtain ⟨⟨_, _⟩, field, same⟩ := bind_eq_ok.mp read
  obtain ⟨rfl, length⟩ := eq_of_readBytes field
  cases same
  rw [u32Bytes_u32Value length]

theorem eq_of_readU64 {word : UInt64} (read : readU64 input = .ok (word, rest)) :
    input = u64Bytes word ++ rest := by
  obtain ⟨⟨_, _⟩, field, same⟩ := bind_eq_ok.mp read
  obtain ⟨rfl, length⟩ := eq_of_readBytes field
  cases same
  rw [u64Bytes_u64Value length]

theorem eq_of_readU8 {byte : UInt8} (read : readU8 input = .ok (byte, rest)) :
    input = byte :: rest := by
  cases input with
  | nil => cases read
  | cons =>
    cases read
    rfl

theorem eq_nil_of_finish (done : finish rest = .ok ()) : rest = [] := by
  rw [finish] at done
  split at done
  · cases done
  · rename_i empty
    exact not_not.mp empty

end

/-- What a record says. -/
inductive RecordOperation where
  | enqueue (entry : OutboxEntry)
  | acknowledge (ids : List UInt64)
  | checkpoint (nextId : UInt64)

namespace RecordOperation

def encode : RecordOperation → Except PortError (List UInt8)
  | enqueue entry => encodeEnqueue entry
  | acknowledge ids => encodeAcknowledge ids
  | checkpoint nextId => .ok (encodeCheckpoint nextId)

/-- The fields of the operation, whatever their size. -/
def bytes : RecordOperation → List UInt8
  | enqueue entry =>
    [opEnqueue] ++ u64Bytes entry.id ++ u64Bytes entry.message.createdAt ++
      u32Bytes entry.attempts ++ u32Bytes (UInt32.ofNat (utf8 entry.message.destination).length) ++
      u32Bytes (UInt32.ofNat entry.message.payload.length) ++ utf8 entry.message.destination ++
      entry.message.payload
  | acknowledge ids =>
    [opAcknowledge] ++ u32Bytes (UInt32.ofNat ids.length) ++ (ids.map u64Bytes).flatten
  | checkpoint nextId => encodeCheckpoint nextId

/-- The operation may follow the recovered contents: an entry has a new identifier that is not the
last one, and a checkpoint does not go back to zero. -/
def Admits (recovered : OutboxContents) : RecordOperation → Prop
  | enqueue entry => entry.id ∉ recovered.entries ∧ entry.id.toNat + 1 < 2 ^ 64
  | acknowledge _ => True
  | checkpoint nextId => nextId ≠ 0

def apply (recovered : OutboxContents) : RecordOperation → OutboxContents
  | enqueue entry =>
    ⟨max recovered.nextId (entry.id + 1), recovered.entries.insert entry.id entry⟩
  | acknowledge ids => { recovered with entries := removeAll recovered.entries ids }
  | checkpoint nextId => { recovered with nextId := max recovered.nextId nextId }

end RecordOperation

open RecordOperation

variable {recovered after : OutboxContents} {entry : OutboxEntry} {word : UInt32}
  {operation : RecordOperation} {payload : List UInt8}

theorem recoverEntry_eq_ok : recoverEntry recovered entry = .ok after ↔
      (enqueue entry).Admits recovered ∧ after = (enqueue entry).apply recovered := by
  have limit := entry.id.toNat_lt
  rw [recoverEntry, RecordOperation.Admits, apply]
  split
  · rename_i known
    exact iff_of_false (by simp) fun both => both.1.1 known
  · rename_i unknown
    split
    · rename_i exhausted
      have last := checkedAdd_one_eq_none.mp exhausted
      exact iff_of_false (by simp) fun both => absurd both.1.2 (by omega)
    · rename_i successor
      obtain ⟨_, rfl⟩ := checkedAdd_one_eq_some.mp successor
      have room : entry.id.toNat + 1 < 2 ^ 64 := by
        have different : checkedAdd entry.id 1 ≠ none := by simp [successor]
        rw [Ne, checkedAdd_one_eq_none] at different
        omega
      simp only [Except.ok.injEq, unknown, not_false_eq_true, room, and_self, true_and]
      exact eq_comm

theorem lengthWord_eq_ok_iff {length : Nat} {failure : String} :
    lengthWord length failure = .ok word ↔ length < 2 ^ 32 ∧ word = UInt32.ofNat length := by
  rw [lengthWord]
  split
  · rename_i short
    simp only [Except.ok.injEq, short, true_and]
    exact eq_comm
  · rename_i long
    exact iff_of_false (by simp) fun both => long both.1

theorem length_acknowledge (ids : List UInt64) :
    (acknowledge ids).bytes.length = 5 + ids.length * 8 := by
  simp [bytes, List.length_flatten, Function.comp_def]
  omega

/-- An operation is written if its record is not too large. -/
theorem encode_eq_ok : operation.encode = .ok payload ↔
      payload = operation.bytes ∧ operation.bytes.length ≤ maxRecordLen := by
  have large : maxRecordLen < 2 ^ 32 := by decide
  cases operation with
  | checkpoint =>
    simp [encode, bytes, encodeCheckpoint, maxRecordLen, eq_comm]
  | acknowledge ids =>
    constructor
    · intro encoded
      obtain ⟨_, counted, encoded⟩ := bind_eq_ok.mp encoded
      obtain ⟨-, rfl⟩ := lengthWord_eq_ok_iff.mp counted
      obtain ⟨_, sized, same⟩ := bind_eq_ok.mp encoded
      cases same
      exact ⟨rfl, (validateRecordSize_eq_ok.mp sized).2⟩
    · rintro ⟨rfl, sized⟩
      have short : ids.length < 2 ^ 32 := by
        rw [length_acknowledge] at sized
        omega
      have valid := validateRecordSize_eq_ok.mpr ⟨by simp [bytes], sized⟩
      exact bind_eq_ok.mpr ⟨_, lengthWord_eq_ok_iff.mpr ⟨short, rfl⟩,
        bind_eq_ok.mpr ⟨(), valid, rfl⟩⟩
  | enqueue entry =>
    constructor
    · intro encoded
      obtain ⟨_, destinationFits, encoded⟩ := bind_eq_ok.mp encoded
      obtain ⟨-, rfl⟩ := lengthWord_eq_ok_iff.mp destinationFits
      obtain ⟨_, payloadFits, encoded⟩ := bind_eq_ok.mp encoded
      obtain ⟨-, rfl⟩ := lengthWord_eq_ok_iff.mp payloadFits
      obtain ⟨_, sized, same⟩ := bind_eq_ok.mp encoded
      cases same
      exact ⟨rfl, (validateRecordSize_eq_ok.mp sized).2⟩
    · rintro ⟨rfl, sized⟩
      have total : (enqueue entry).bytes.length =
          29 + (utf8 entry.message.destination).length + entry.message.payload.length := by
        simp [bytes]
        omega
      have valid := validateRecordSize_eq_ok.mpr ⟨by simp [bytes], sized⟩
      exact bind_eq_ok.mpr ⟨_, lengthWord_eq_ok_iff.mpr ⟨by omega, rfl⟩,
        bind_eq_ok.mpr ⟨_, lengthWord_eq_ok_iff.mpr ⟨by omega, rfl⟩,
          bind_eq_ok.mpr ⟨(), valid, rfl⟩⟩⟩

theorem ofNat_length {bytes : List UInt8} (length : bytes.length = word.toNat) :
    UInt32.ofNat bytes.length = word := by
  rw [length, UInt32.ofNat_toNat]

theorem bytes_of_decodeEnqueue {body : List UInt8} (decoded : decodeEnqueue body = .ok entry) :
    opEnqueue :: body = (enqueue entry).bytes := by
  obtain ⟨⟨_, _⟩, readId, decoded⟩ := bind_eq_ok.mp decoded
  obtain ⟨⟨_, _⟩, readCreated, decoded⟩ := bind_eq_ok.mp decoded
  obtain ⟨⟨_, _⟩, readAttempts, decoded⟩ := bind_eq_ok.mp decoded
  obtain ⟨⟨_, _⟩, readDestinationLen, decoded⟩ := bind_eq_ok.mp decoded
  obtain ⟨⟨_, _⟩, readPayloadLen, decoded⟩ := bind_eq_ok.mp decoded
  obtain ⟨⟨destinationBytes, _⟩, readDestination, decoded⟩ := bind_eq_ok.mp decoded
  dsimp only at decoded
  cases text : fromUtf8 destinationBytes with
  | none =>
    rw [text] at decoded
    cases decoded
  | some =>
    rw [text] at decoded
    obtain ⟨_, ⟨⟩, decoded⟩ := bind_eq_ok.mp decoded
    obtain ⟨⟨_, _⟩, readPayload, decoded⟩ := bind_eq_ok.mp decoded
    obtain ⟨_, finished, same⟩ := bind_eq_ok.mp decoded
    cases same
    obtain rfl := eq_of_readU64 readId
    obtain rfl := eq_of_readU64 readCreated
    obtain rfl := eq_of_readU32 readAttempts
    obtain rfl := eq_of_readU32 readDestinationLen
    obtain rfl := eq_of_readU32 readPayloadLen
    obtain ⟨rfl, destinationLength⟩ := eq_of_readBytes readDestination
    obtain ⟨rfl, payloadLength⟩ := eq_of_readBytes readPayload
    obtain rfl := eq_nil_of_finish finished
    simp [bytes, utf8_of_fromUtf8 text, ofNat_length destinationLength, ofNat_length payloadLength]

theorem ids_of_recoverAcknowledged {count : Nat} {entries remaining : BTreeMap UInt64 OutboxEntry}
    {input rest : List UInt8}
    (removed : recoverAcknowledged count entries input = .ok (remaining, rest)) :
    ∃ ids : List UInt64, ids.length = count ∧ input = (ids.map u64Bytes).flatten ++ rest ∧
      remaining = removeAll entries ids := by
  induction count generalizing entries input with
  | zero =>
    cases removed
    exact ⟨[], rfl, rfl, rfl⟩
  | succ _ ih =>
    obtain ⟨⟨id, _⟩, read, later⟩ := bind_eq_ok.mp removed
    dsimp only at later
    obtain ⟨ids, rfl, rfl, rfl⟩ := ih later
    obtain rfl := eq_of_readU64 read
    exact ⟨id :: ids, rfl, by simp, by rw [removeAll, removeAll, List.foldl_cons]⟩

/-- A record that replays is the encoding of one operation. -/
theorem operation_of_applyRecord (applied : applyRecord recovered payload = .ok after) :
    ∃ operation : RecordOperation, payload = operation.bytes ∧ operation.Admits recovered ∧
      after = operation.apply recovered := by
  obtain ⟨⟨_, _⟩, first, continued⟩ := bind_eq_ok.mp applied
  obtain rfl := eq_of_readU8 first
  dsimp only at continued
  split_ifs at continued with enqueues acknowledges checkpoints
  · obtain ⟨entry, decoded, inserted⟩ := bind_eq_ok.mp continued
    refine ⟨.enqueue entry, ?_, recoverEntry_eq_ok.mp inserted⟩
    rw [enqueues, bytes_of_decodeEnqueue decoded]
  · obtain ⟨⟨_, _⟩, read, continued⟩ := bind_eq_ok.mp continued
    obtain ⟨⟨_, _⟩, removed, continued⟩ := bind_eq_ok.mp continued
    obtain ⟨_, finished, same⟩ := bind_eq_ok.mp continued
    obtain rfl := eq_of_readU32 read
    obtain rfl := eq_nil_of_finish finished
    obtain ⟨ids, counted, rfl, rfl⟩ := ids_of_recoverAcknowledged removed
    cases same
    refine ⟨.acknowledge ids, ?_, trivial, rfl⟩
    simp [bytes, counted, acknowledges]
  · obtain ⟨⟨nextId, _⟩, read, continued⟩ := bind_eq_ok.mp continued
    obtain ⟨_, finished, ending⟩ := bind_eq_ok.mp continued
    dsimp only at ending
    split_ifs at ending with zero
    cases ending
    obtain rfl := eq_of_readU64 read
    obtain rfl := eq_nil_of_finish finished
    refine ⟨.checkpoint nextId, ?_, zero, rfl⟩
    simp [bytes, encodeCheckpoint, checkpoints]

theorem not_applyRecord_zero : applyRecord recovered (encodeCheckpoint 0) ≠ .ok after := by
  have field := readU64_append 0 []
  rw [List.append_nil] at field
  simp [applyRecord, encodeCheckpoint, readU8, field, bind, Except.bind, finish, opEnqueue,
    opAcknowledge, opCheckpoint]

theorem applyRecord_of_encode (encoded : operation.encode = .ok payload) :
    applyRecord recovered payload = .ok after ↔
      operation.Admits recovered ∧ after = operation.apply recovered := by
  cases operation with
  | enqueue => rw [applyRecord_enqueue encoded, recoverEntry_eq_ok]
  | acknowledge =>
    rw [(encodeAcknowledge_eq_ok encoded).2, Except.ok.injEq]
    exact eq_comm.trans (and_iff_right trivial).symm
  | checkpoint nextId =>
    cases encoded
    by_cases zero : nextId = 0
    · subst zero
      exact iff_of_false not_applyRecord_zero fun both => both.1 rfl
    · rw [applyRecord_checkpoint zero, Except.ok.injEq]
      exact eq_comm.trans (and_iff_right zero).symm

/-- The record of an operation replays to exactly that operation where the contents admit it, and
every record that replays is the record of an operation, which is written again exactly if the
record is not too large. -/
theorem record_codec_exact (recovered after : OutboxContents) (payload : List UInt8) :
    (∀ operation : RecordOperation, operation.encode = .ok payload →
      (applyRecord recovered payload = .ok after ↔
        operation.Admits recovered ∧ after = operation.apply recovered)) ∧
    (applyRecord recovered payload = .ok after →
      ∃ operation : RecordOperation, operation.Admits recovered ∧
        after = operation.apply recovered ∧
        (operation.encode = .ok payload ↔ payload.length ≤ maxRecordLen)) := by
  refine ⟨fun _ encoded => applyRecord_of_encode encoded, fun applied => ?_⟩
  obtain ⟨operation, rfl, admitted, same⟩ := operation_of_applyRecord applied
  exact ⟨operation, admitted, same, encode_eq_ok.trans (and_iff_right rfl)⟩

/-- The first entry of an empty outbox is written and replays. -/
theorem record_codec_exact_first :
    let operation := enqueue ⟨1, ⟨"cloud", [0x7b, 0x7d], 1700000000000⟩, 0⟩
    operation.encode = .ok operation.bytes ∧
      applyRecord .empty operation.bytes = .ok (operation.apply .empty) := by
  intro operation
  have encoded : operation.encode = .ok operation.bytes := rfl
  have codec := record_codec_exact .empty (operation.apply .empty) operation.bytes
  exact ⟨encoded, (codec.1 operation encoded).mpr ⟨⟨by decide, by decide⟩, rfl⟩⟩

theorem applyRecord_acknowledge {ids : List UInt64} (short : ids.length < 2 ^ 32)
    (recovered : OutboxContents) :
    applyRecord recovered (acknowledge ids).bytes = .ok ((acknowledge ids).apply recovered) := by
  have removed := recoverAcknowledged_encoded ids recovered.entries []
  rw [List.append_nil] at removed
  have small : ids.length % 4294967296 = ids.length := Nat.mod_eq_of_lt short
  simp [bytes, apply, applyRecord, readU8, small, removed,
    bind, Except.bind, finish, pure, Except.pure, opEnqueue, opAcknowledge]

/-- An entry with the last identifier. -/
def lastEntry : OutboxEntry := ⟨0xffffffffffffffff, ⟨"", [], 0⟩, 0⟩

/-- An entry with the last identifier is written, but does not replay; and a record of more than
sixteen mebibytes replays, but is not written. -/
theorem record_codec_inexact : (∃ entry payload, encodeEnqueue entry = .ok payload ∧
      ∀ recovered after, applyRecord recovered payload ≠ .ok after) ∧
    ∃ payload after, applyRecord .empty payload = .ok after ∧
      ∀ operation : RecordOperation, operation.encode ≠ .ok payload := by
  constructor
  · have encoded : encodeEnqueue lastEntry = .ok (enqueue lastEntry).bytes := rfl
    refine ⟨lastEntry, _, encoded, fun recovered after applied => ?_⟩
    rw [applyRecord_enqueue encoded, recoverEntry_eq_ok] at applied
    exact absurd applied.1.2 (by decide)
  · refine ⟨(acknowledge (List.replicate 3000000 0)).bytes, _,
      applyRecord_acknowledge (by rw [List.length_replicate]; decide) .empty, fun operation encoded => ?_⟩
    obtain ⟨same, sized⟩ := encode_eq_ok.mp encoded
    rw [← same, length_acknowledge, List.length_replicate] at sized
    exact absurd sized (by decide)

end AetherIot.Outbox
