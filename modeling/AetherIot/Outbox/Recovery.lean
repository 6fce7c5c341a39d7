import AetherIot.Foundation.Attempt
import AetherIot.Outbox.Journal

/-!
# Replaying an outbox journal

Decoding inverts encoding, so a journal of whole records replays to the contents that were written,
and an unfinished record at its end is cut off.  Compaction rewrites a journal to another journal
of the same contents.
-/

namespace AetherIot.Outbox

open MachineText OrderedMap Bytes FramedLog

theorem readBytes_append (bytes rest : List UInt8) :
    readBytes bytes.length (bytes ++ rest) = .ok (bytes, rest) := by
  simp [readBytes]

@[simp]
theorem readU32_append (word : UInt32) (rest : List UInt8) :
    readU32 (u32Bytes word ++ rest) = .ok (word, rest) := by
  have field := readBytes_append (u32Bytes word) rest
  rw [length_u32Bytes] at field
  simp [readU32, field, bind, Except.bind, pure, Except.pure]

@[simp]
theorem readU64_append (word : UInt64) (rest : List UInt8) :
    readU64 (u64Bytes word ++ rest) = .ok (word, rest) := by
  have field := readBytes_append (u64Bytes word) rest
  rw [length_u64Bytes] at field
  simp [readU64, field, bind, Except.bind, pure, Except.pure]

/-- Payloads that fit one record. -/
def RecordSized (payload : List UInt8) : Prop :=
  0 < payload.length ∧ payload.length ≤ maxRecordLen

variable {payload : List UInt8} {entry : OutboxEntry} {entries : List OutboxEntry}
  {payloads : List (List UInt8)}

theorem validateRecordSize_eq_ok : validateRecordSize payload = .ok () ↔ RecordSized payload := by
  simp only [validateRecordSize, RecordSized, ← List.ne_nil_iff_length_pos]
  by_cases empty : payload = []
  · simp [empty]
  · by_cases large : payload.length > maxRecordLen
    · simp [empty, large]
    · simp [empty, large, Nat.le_of_not_lt large]

theorem lengthWord_eq_ok {length : Nat} {failure : String} {word : UInt32}
    (fits : lengthWord length failure = .ok word) : word.toNat = length := by
  simp only [lengthWord] at fits
  split at fits
  · rename_i short
    cases fits
    exact UInt32.toNat_ofNat_of_lt' short
  · cases fits

theorem encodeEnqueue_eq_ok (encoded : encodeEnqueue entry = .ok payload) :
    RecordSized payload ∧ ∃ body, payload = opEnqueue :: body ∧ decodeEnqueue body = .ok entry := by
  simp only [encodeEnqueue, Attempt.bind_eq_ok] at encoded
  obtain ⟨_, destinationFits, _, payloadFits, _, sized, ⟨⟩⟩ := encoded
  refine ⟨validateRecordSize_eq_ok.mp sized, _, rfl, ?_⟩
  have destination := readBytes_append (utf8 entry.message.destination) entry.message.payload
  have content := readBytes_append entry.message.payload []
  rw [← lengthWord_eq_ok destinationFits] at destination
  rw [← lengthWord_eq_ok payloadFits, List.append_nil] at content
  simp [decodeEnqueue, bind, Except.bind, destination, content, finish, pure, Except.pure]

theorem applyRecord_enqueue (encoded : encodeEnqueue entry = .ok payload)
    (recovered : OutboxContents) :
    applyRecord recovered payload = recoverEntry recovered entry := by
  obtain ⟨-, _, rfl, decoded⟩ := encodeEnqueue_eq_ok encoded
  simp [applyRecord, readU8, decoded, bind, Except.bind]

theorem recoverAcknowledged_encoded (ids : List UInt64) (entries : BTreeMap UInt64 OutboxEntry)
    (rest : List UInt8) :
    recoverAcknowledged ids.length entries ((ids.map u64Bytes).flatten ++ rest) =
      .ok (removeAll entries ids, rest) := by
  induction ids generalizing entries with
  | nil => rfl
  | cons id _ ih =>
    simp only [List.length_cons, recoverAcknowledged, List.map_cons, List.flatten_cons,
      List.append_assoc, readU64_append, bind, Except.bind]
    exact ih (entries.erase id)

theorem encodeAcknowledge_eq_ok {ids : List UInt64} (encoded : encodeAcknowledge ids = .ok payload) :
    RecordSized payload ∧ ∀ recovered, applyRecord recovered payload =
      .ok { recovered with entries := removeAll recovered.entries ids } := by
  simp only [encodeAcknowledge, Attempt.bind_eq_ok] at encoded
  obtain ⟨_, counted, _, sized, ⟨⟩⟩ := encoded
  refine ⟨validateRecordSize_eq_ok.mp sized, fun recovered => ?_⟩
  have removed := recoverAcknowledged_encoded ids recovered.entries []
  rw [List.append_nil, ← lengthWord_eq_ok counted] at removed
  simp [applyRecord, readU8, removed, bind, Except.bind, finish, pure, Except.pure, opEnqueue,
    opAcknowledge]

theorem applyRecord_checkpoint {nextId : UInt64} (positive : nextId ≠ 0)
    (recovered : OutboxContents) :
    applyRecord recovered (encodeCheckpoint nextId) =
      .ok { recovered with nextId := max recovered.nextId nextId } := by
  have field := readU64_append nextId []
  rw [List.append_nil] at field
  simp [applyRecord, encodeCheckpoint, readU8, field, bind, Except.bind, finish, pure, Except.pure,
    opEnqueue, opAcknowledge, opCheckpoint, positive]

theorem recordSized_encodeCheckpoint (nextId : UInt64) : RecordSized (encodeCheckpoint nextId) := by
  simp [RecordSized, encodeCheckpoint, maxRecordLen]

theorem length_recordFrame (payload : List UInt8) :
    (recordFrame payload).length = payload.length + recordHeaderLen := by
  simp [recordFrame, recordHeaderLen]
  omega

theorem RecordSized.lengthWord (sized : RecordSized payload) :
    (UInt32.ofNat payload.length).toNat = payload.length := by
  have bounded := sized.2
  simp only [maxRecordLen] at bounded
  exact UInt32.toNat_ofNat_of_lt' (by simp [UInt32.size]; omega)

/-- The three fields of a record header, read from bytes that begin with it. -/
theorem headerFields {log : List UInt8}
    (agrees : log.take recordHeaderLen = (recordFrame payload).take recordHeaderLen) :
    u32Value (log.take 4) = recordMagic ∧
      u32Value ((log.drop 4).take 4) = UInt32.ofNat payload.length ∧
      u32Value ((log.drop 8).take 4) = crc32 payload := by
  have split : log = u32Bytes recordMagic ++ (u32Bytes (UInt32.ofNat payload.length) ++
      (u32Bytes (crc32 payload) ++ log.drop recordHeaderLen)) := by
    conv_lhs => rw [← List.take_append_drop recordHeaderLen log, agrees]
    have header : (recordFrame payload).take recordHeaderLen = u32Bytes recordMagic ++
        (u32Bytes (UInt32.ofNat payload.length) ++ u32Bytes (crc32 payload)) := by
      rw [recordFrame, List.append_assoc, List.append_assoc, ← List.append_assoc (u32Bytes _)
        (u32Bytes _) payload, ← List.append_assoc (u32Bytes _) _ payload]
      exact List.take_left' (by simp [recordHeaderLen])
    rw [header, List.append_assoc, List.append_assoc]
  have second : log.drop 4 = u32Bytes (UInt32.ofNat payload.length) ++
      (u32Bytes (crc32 payload) ++ log.drop recordHeaderLen) := by
    conv_lhs => rw [split]
    exact List.drop_left' (length_u32Bytes _)
  have third : log.drop 8 = u32Bytes (crc32 payload) ++ log.drop recordHeaderLen := by
    rw [show 8 = 4 + 4 from rfl, ← List.drop_drop, second]
    exact List.drop_left' (length_u32Bytes _)
  refine ⟨?_, ?_, ?_⟩
  · conv_lhs => rw [split]
    rw [List.take_left' (length_u32Bytes _), u32Value_u32Bytes]
  · rw [second, List.take_left' (length_u32Bytes _), u32Value_u32Bytes]
  · rw [third, List.take_left' (length_u32Bytes _), u32Value_u32Bytes]

theorem drop_recordFrame (payload rest : List UInt8) :
    (recordFrame payload ++ rest).drop recordHeaderLen = payload ++ rest := by
  rw [recordFrame, List.append_assoc]
  exact List.drop_left' (by simp [recordHeaderLen])

theorem readRecord_frame (offset : Nat) (sized : RecordSized payload) (rest : List UInt8) :
    readRecord offset (recordFrame payload ++ rest) = .frame payload rest := by
  have long : recordHeaderLen ≤ (recordFrame payload ++ rest).length := by
    rw [List.length_append, length_recordFrame]
    omega
  have agrees : (recordFrame payload ++ rest).take recordHeaderLen =
      (recordFrame payload).take recordHeaderLen :=
    List.take_append_of_le_length (by rw [length_recordFrame]; omega)
  obtain ⟨magic, length, checksum⟩ := headerFields agrees
  obtain ⟨positive, bounded⟩ := sized
  have word := RecordSized.lengthWord ⟨positive, bounded⟩
  simp only [readRecord, magic, length, checksum, word, drop_recordFrame, List.take_left,
    List.drop_left, List.length_append]
  rw [if_neg (Nat.not_lt.mpr (by simpa using long)), if_neg (by simp), if_neg (by omega),
    if_neg (by omega), if_neg (by simp)]

theorem readRecord_part (offset : Nat) {part : List UInt8} (sized : RecordSized payload)
    (isPart : part <+: recordFrame payload) (proper : part ≠ recordFrame payload) :
    readRecord offset part = .torn := by
  have shorter : part.length < payload.length + recordHeaderLen := by
    rw [← length_recordFrame]
    exact lt_of_le_of_ne isPart.length_le fun same => proper (isPart.eq_of_length same)
  by_cases short : part.length < recordHeaderLen
  · simp [readRecord, short]
  · have agrees : part.take recordHeaderLen = (recordFrame payload).take recordHeaderLen := by
      obtain ⟨_, whole⟩ := isPart
      rw [← whole, List.take_append_of_le_length (by omega)]
    obtain ⟨magic, length, -⟩ := headerFields agrees
    obtain ⟨positive, bounded⟩ := sized
    have word := RecordSized.lengthWord ⟨positive, bounded⟩
    simp only [readRecord, magic, length, word, List.length_drop]
    rw [if_neg short, if_neg (by simp), if_neg (by omega), if_pos (by omega)]

/-- The frame layout of outbox journals. -/
def recordFraming : Framing PortError where
  Admissible := RecordSized
  frame := recordFrame
  read := readRecord
  frame_ne_nil payload empty := by
    have := congrArg List.length empty
    simp [length_recordFrame, recordHeaderLen] at this
  read_frame offset _ rest sized := readRecord_frame offset sized rest
  read_part offset _ _ sized _ isPart proper := readRecord_part offset sized isPart proper

/-- Every live entry is stored under its own identifier, below the next one to be assigned. -/
structure OutboxContents.Sound (contents : OutboxContents) : Prop where
  keyed : ∀ (id : UInt64) (entry : OutboxEntry), contents.entries[id]? = some entry → entry.id = id
  below : ∀ id ∈ contents.entries, id < contents.nextId
  positive : 0 < contents.nextId

theorem OutboxContents.Sound.empty : OutboxContents.empty.Sound where
  keyed id entry present := by simp [OutboxContents.empty] at present
  below id member := by simp [OutboxContents.empty] at member
  positive := by simp [OutboxContents.empty]

/-- The file is a header and whole records that replay to `contents`. -/
structure Records (file : List UInt8) (contents : OutboxContents) : Prop where
  sound : contents.Sound
  recorded : ∃ payloads, (∀ payload ∈ payloads, RecordSized payload) ∧
    file = fileHeader ++ recordFraming.log payloads ∧
    payloads.foldlM applyRecord .empty = .ok contents

@[simp]
theorem length_fileHeader : fileHeader.length = fileHeaderLen := by decide +kernel

/-- A journal that starts with a complete header recovers by scanning the bytes after it. -/
theorem recover_headed (log : List UInt8) : recover (fileHeader ++ log) =
      (scan readRecord applyRecord log.length fileHeaderLen .empty log).map fun recovered =>
        (recovered.1, (fileHeader ++ log).take recovered.2) := by
  have magic : (fileHeader ++ log).take 8 = fileMagic := by
    rw [List.take_append_of_le_length (by simp [fileHeaderLen])]
    decide +kernel
  have version : u32Value (((fileHeader ++ log).drop 8).take 4) = fileVersion := by
    rw [List.drop_append_of_le_length (by simp [fileHeaderLen]),
      List.take_append_of_le_length (by simp [fileHeaderLen])]
    decide +kernel
  have body : (fileHeader ++ log).drop fileHeaderLen = log := List.drop_left' length_fileHeader
  have long : (fileHeader ++ log).length = fileHeaderLen + log.length := by simp
  have nonempty : fileHeaderLen = 16 := rfl
  simp only [recover, magic, version, body]
  rw [if_neg (by omega), if_neg (by omega), if_neg (by simp), if_neg (by simp)]

namespace Records

variable {file : List UInt8} {contents : OutboxContents}

theorem created : Records fileHeader .empty where
  sound := .empty
  recorded := ⟨[], by simp, by simp, rfl⟩

/-- Opening a sound journal gives its contents back and cuts off an unfinished record. -/
theorem recover_torn (records : Records file contents) {part : List UInt8}
    (torn : recordFraming.Torn part) : recover (file ++ part) = .ok (contents, file) := by
  obtain ⟨payloads, sized, rfl, replayed⟩ := records.recorded
  have enough : payloads.length ≤ (recordFraming.log payloads ++ part).length := by
    have := recordFraming.length_le_log payloads
    simp only [List.length_append]
    omega
  have scanned := recordFraming.scan_log applyRecord sized torn enough fileHeaderLen .empty
  change scan readRecord _ _ _ _ _ = _ at scanned
  have kept : (fileHeader ++ (recordFraming.log payloads ++ part)).take
      (fileHeaderLen + (recordFraming.log payloads).length) =
        fileHeader ++ recordFraming.log payloads := by
    rw [← List.append_assoc]
    exact List.take_left' (by simp)
  rw [List.append_assoc, recover_headed, scanned, replayed]
  simp only [Except.map, kept]

theorem recover_whole (records : Records file contents) : recover file = .ok (contents, file) := by
  simpa using records.recover_torn Framing.torn_nil

/-- A record that replays to sound contents extends the journal. -/
theorem append (records : Records file contents) {payload : List UInt8}
    (sized : RecordSized payload) {next : OutboxContents}
    (applied : applyRecord contents payload = .ok next) (sound : next.Sound) :
    Records (file ++ recordFrame payload) next where
  sound := sound
  recorded := by
    obtain ⟨payloads, framed, rfl, replayed⟩ := records.recorded
    refine ⟨payloads ++ [payload], ?_, ?_, ?_⟩
    · intro other member
      rcases List.mem_append.mp member with earlier | last
      · exact framed other earlier
      · rwa [List.mem_singleton.mp last]
    · rw [recordFraming.log_snoc, List.append_assoc]
      rfl
    · rw [List.foldlM_append, replayed]
      simp [applied, bind, Except.bind, pure, Except.pure]

end Records

section

variable
  (encoded : List.Forall₂ (fun entry payload => encodeEnqueue entry = .ok payload) entries payloads)

include encoded

theorem recordSized_encodeEnqueue : ∀ payload ∈ payloads, RecordSized payload := by
  induction encoded with
  | nil => simp
  | cons head _ ih =>
    exact List.forall_mem_cons.mpr ⟨(encodeEnqueue_eq_ok head).1, ih⟩

/-- Replaying entries below the next identifier inserts them and leaves that identifier alone. -/
theorem foldlM_encodeEnqueue {recovered : OutboxContents}
    (below : ∀ entry ∈ entries, entry.id < recovered.nextId)
    (fresh : ∀ entry ∈ entries, entry.id ∉ recovered.entries)
    (distinct : (entries.map OutboxEntry.id).Nodup) :
    payloads.foldlM applyRecord recovered =
      .ok ⟨recovered.nextId, insertAll OutboxEntry.id recovered.entries entries⟩ := by
  induction encoded generalizing recovered with
  | nil => rfl
  | @cons entry payload entries _ head _ ih =>
    obtain ⟨_, tailBelow⟩ := List.forall_mem_cons.mp below
    obtain ⟨headFresh, tailFresh⟩ := List.forall_mem_cons.mp fresh
    rw [List.map_cons, List.nodup_cons] at distinct
    have successor : checkedAdd entry.id 1 = some (entry.id + 1) :=
      checkedAdd_one_eq_some.mpr ⟨by grind, rfl⟩
    have unchanged : max recovered.nextId (entry.id + 1) = recovered.nextId := by
      rw [max_word]
      grind
    have inserted : applyRecord recovered payload =
        .ok ⟨recovered.nextId, recovered.entries.insert entry.id entry⟩ := by
      rw [applyRecord_enqueue head]
      simp [recoverEntry, headFresh, successor, unchanged]
    rw [List.foldlM_cons, inserted]
    refine ih tailBelow ?_ distinct.2
    intro other member
    rw [Std.ExtTreeMap.mem_insert, Std.compare_eq_iff_eq, not_or]
    refine ⟨fun same => distinct.1 ?_, tailFresh other member⟩
    rw [same]
    exact List.mem_map_of_mem member

end

namespace Records

variable {contents : OutboxContents}

theorem compacted (sound : contents.Sound) {payloads : List (List UInt8)}
    (encoded : (valueList contents.entries).mapM encodeEnqueue = .ok payloads) :
    Records (fileHeader ++
      ((encodeCheckpoint contents.nextId :: payloads).map recordFrame).flatten) contents where
  sound := sound
  recorded := by
    have entries := Attempt.forall₂_of_mapM encoded
    refine ⟨encodeCheckpoint contents.nextId :: payloads, ?_, rfl, ?_⟩
    · exact List.forall_mem_cons.mpr
        ⟨recordSized_encodeCheckpoint contents.nextId, recordSized_encodeEnqueue entries⟩
    · have positive : contents.nextId ≠ 0 := by
        have := sound.positive
        grind
      have started : max OutboxContents.empty.nextId contents.nextId = contents.nextId := by
        have := sound.positive
        rw [max_word, if_pos]
        change 1 ≤ contents.nextId
        grind
      have below : ∀ entry ∈ valueList contents.entries, entry.id < contents.nextId := by
        intro entry member
        obtain ⟨id, present⟩ := mem_valueList.mp member
        rw [sound.keyed id entry present]
        exact sound.below id (Std.ExtTreeMap.mem_iff_isSome_getElem?.mpr (by simp [present]))
      have replayed : payloads.foldlM applyRecord ⟨contents.nextId, ∅⟩ = .ok ⟨contents.nextId, _⟩ :=
        foldlM_encodeEnqueue entries below (by simp) (nodup_map_key_valueList sound.keyed)
      rw [insertAll_valueList sound.keyed] at replayed
      rw [List.foldlM_cons, applyRecord_checkpoint positive, started]
      exact replayed

end Records

end AetherIot.Outbox
