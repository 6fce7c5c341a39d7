import AetherIot.CloudLink.SpoolInvariant
import AetherIot.Foundation.FramedLog

/-!
# The CloudLink spool journal

A journal is a header followed by framed mutations.  Compaction rewrites it as a checkpoint and the
retained records; every later change of the state appends one mutation.  The encoding of a mutation
is a parameter: the journal relies only on decoding being its inverse.
-/

namespace AetherIot.CloudLink

open MachineText OrderedMap Bytes FramedLog

/-- One journalled mutation, or a part of a compacted state. -/
inductive JournalEntry where
  | checkpoint (streamId : String) (streamEpoch nextPosition capacity : UInt64)
      (lastAck : Option CloudLinkDurableAck) (lastAcknowledgedPosition : UInt64)
      (dataLoss : Option CloudLinkDataLossEvidence)
  | record (record : CloudLinkRecord)
  | enqueued (record : CloudLinkRecord) (nextPosition : UInt64)
      (dataLoss : Option CloudLinkDataLossEvidence)
  | offered (identity : CloudLinkRecordIdentity) (session : CloudLinkSessionBinding)
  | transportPublished (identity : CloudLinkRecordIdentity) (session : CloudLinkSessionBinding)
  | acknowledged (ack : CloudLinkDurableAck)
  | rotated (streamEpoch : UInt64)
  | capacity (capacity : UInt64)
  deriving DecidableEq

/-- `AETHCL2` and a line feed. -/
def journalMagic : List UInt8 := utf8 "AETHCL2\n"

def maxJournalRecordBytes : Nat := 2 * 1024 * 1024

def compactAfterMutations : Nat := 256

section Journal

variable (path : String)

def storageError (action source : String) : CloudLinkSpoolError :=
  ⟨.storage, "cannot " ++ action ++ " CloudLink spool journal " ++ path ++ ": " ++ source⟩

def corrupt (message : String) : CloudLinkSpoolError :=
  ⟨.corruptJournal, "corrupt CloudLink spool journal " ++ path ++ ": " ++ message⟩

/-- Length, payload and checksum of one mutation. -/
def entryFrame (payload : List UInt8) : List UInt8 :=
  u32Bytes (UInt32.ofNat payload.length) ++ payload ++ u32Bytes (crc32 payload)

variable (codec : Codec JournalEntry)

/-- The bytes that `writeEntry` hands to the file. -/
def encodeEntry (entry : JournalEntry) : Except CloudLinkSpoolError (List UInt8) :=
  match codec.encode entry with
  | .error source =>
    .error ⟨.storage, "cannot encode CloudLink spool journal mutation: " ++ source⟩
  | .ok payload =>
    if payload.isEmpty || payload.length > maxJournalRecordBytes then
      .error ⟨.storage, "CloudLink spool journal mutation exceeds the 2 MiB safety bound"⟩
    else .ok (entryFrame payload)

/-- How far an append gets. -/
inductive AppendOutcome where
  | synced
  | seekFailed (source : String)
  | writeFailed (written : Nat) (source : String)
  | syncFailed (source : String)
  deriving DecidableEq

/-- The bytes of an append that reach the file. -/
def AppendOutcome.written (outcome : AppendOutcome) (bytes : List UInt8) : List UInt8 :=
  match outcome with
  | .synced => bytes
  | .seekFailed _ => []
  | .writeFailed written _ => bytes.take written
  | .syncFailed _ => bytes

def AppendOutcome.result (outcome : AppendOutcome) : Except CloudLinkSpoolError Unit :=
  match outcome with
  | .synced => .ok ()
  | .seekFailed source => .error (storageError path "seek append position" source)
  | .writeFailed _ source =>
    .error ⟨.storage, "cannot write CloudLink spool journal mutation: " ++ source⟩
  | .syncFailed source => .error (storageError path "sync journal mutation" source)

/-- Append one mutation at the end of the file.  A failed append leaves what it wrote. -/
def appendEntry (file : List UInt8) (entry : JournalEntry) (outcome : AppendOutcome) :
    List UInt8 × Except CloudLinkSpoolError Unit :=
  match outcome with
  | .seekFailed source => (file, (AppendOutcome.seekFailed source).result path)
  | outcome =>
    match encodeEntry codec entry with
    | .error failure => (file, .error failure)
    | .ok bytes => (file ++ outcome.written bytes, outcome.result path)

def checkpoint (state : CloudLinkSpoolState) : JournalEntry :=
  .checkpoint state.streamId state.streamEpoch state.nextPosition state.capacity state.lastAck
    state.lastAcknowledgedPosition state.dataLoss

variable (state : CloudLinkSpoolState)

def compactedEntries : List JournalEntry :=
  checkpoint state :: (valueList state.records).map .record

/-- A whole journal that holds only the current state. -/
def writeCompactedJournal (state : CloudLinkSpoolState) : Except CloudLinkSpoolError (List UInt8) :=
  match (compactedEntries state).mapM (encodeEntry codec) with
  | .error failure => .error failure
  | .ok frames => .ok (journalMagic ++ frames.flatten)

/-- Progress of a recovery. -/
structure Recovery where
  state : Option CloudLinkSpoolState
  mutations : Nat
  mutationsStarted : Bool

variable (recovery : Recovery)

def activeState : Except CloudLinkSpoolError CloudLinkSpoolState :=
  match recovery.state with
  | some state => .ok state
  | none => .error (corrupt path "journal mutation precedes checkpoint")

def validatePersistedRecord (record : CloudLinkRecord) : Except CloudLinkSpoolError Unit :=
  if record.identity.streamId = state.streamId ∧ record.identity.streamEpoch = state.streamEpoch ∧
      0 < record.identity.position ∧ (utf8 record.batchId).length ≠ 0 ∧
      (utf8 record.batchId).length ≤ 128 ∧ digestValid record.digest ∧
      record.payload.length ≠ 0 ∧ record.payload.length ≤ maxSpoolPayloadBytes ∧
      record.expiresAtMs.all (· > record.createdAtMs) then .ok ()
  else .error (corrupt path "persisted CloudLink record is invalid")

def restoreCheckpointRecord (record : CloudLinkRecord) :
    Except CloudLinkSpoolError CloudLinkSpoolState :=
  match validatePersistedRecord path state record with
  | .error failure => .error failure
  | .ok () =>
    let position := record.identity.position
    if position ≥ state.nextPosition ∨ state.records[position]?.isSome then
      .error (corrupt path "checkpoint record position is inconsistent")
    else
      let restored := { state with records := state.records.insert position record }
      if restored.records.size > restored.capacity.toNat then
        .error (corrupt path "checkpoint exceeds configured capacity")
      else .ok restored

def applyEnqueued (record : CloudLinkRecord) (nextPosition : UInt64)
    (dataLoss : Option CloudLinkDataLossEvidence) :
    Except CloudLinkSpoolError CloudLinkSpoolState :=
  match validatePersistedRecord path state record with
  | .error failure => .error failure
  | .ok () =>
    if record.state ≠ .queued ∨ record.offeredSession.isSome ∨
        record.identity.position ≠ state.nextPosition ∨
        nextPosition ≠ (checkedAdd state.nextPosition 1).getD 0 then
      .error (corrupt path "enqueue mutation position or state is inconsistent")
    else
      let finish (records : BTreeMap UInt64 CloudLinkRecord) : CloudLinkSpoolState :=
        { state with
          records := records.insert record.identity.position record
          nextPosition
          dataLoss }
      if state.records.size = state.capacity.toNat then
        match firstKey state.records with
        | none => .error (corrupt path "capacity eviction has no retained record")
        | some earliest => .ok (finish (state.records.erase earliest))
      else .ok (finish state.records)

/-- Count a mutation that was replayed on the recovered state. -/
def Recovery.replayed (state : CloudLinkSpoolState) : Recovery where
  state := some state
  mutations := recovery.mutations + 1
  mutationsStarted := true

/-- Replay a mutation by performing the operation again. -/
def reperform {α : Type} (recovery : Recovery)
    (operation : CloudLinkSpoolState → CloudLinkSpoolState × Except CloudLinkSpoolError α)
    (check : α → Except CloudLinkSpoolError Unit) : Except CloudLinkSpoolError Recovery :=
  match activeState path recovery with
  | .error failure => .error failure
  | .ok state =>
    match operation state with
    | (_, .error failure) => .error (corrupt path failure.message)
    | (next, .ok reply) =>
      match check reply with
      | .error failure => .error failure
      | .ok () => .ok (recovery.replayed next)

def applyEntry : JournalEntry → Except CloudLinkSpoolError Recovery
  | .checkpoint streamId streamEpoch nextPosition capacity lastAck lastAcknowledgedPosition
      dataLoss =>
      if recovery.state.isSome then
        .error (corrupt path "journal contains more than one checkpoint")
      else
        match CloudLinkSpoolState.new streamId capacity with
        | .error failure => .error (corrupt path failure.message)
        | .ok recovered =>
          .ok { recovery with
            state := some { recovered with
              streamEpoch, nextPosition, lastAck, lastAcknowledgedPosition, dataLoss } }
  | .record record =>
    if recovery.mutationsStarted then
      .error (corrupt path "checkpoint record appears after a mutation")
    else
      match activeState path recovery with
      | .error failure => .error failure
      | .ok state =>
        match restoreCheckpointRecord path state record with
        | .error failure => .error failure
        | .ok restored => .ok { recovery with state := some restored }
  | .enqueued record nextPosition dataLoss =>
    match activeState path recovery with
    | .error failure => .error failure
    | .ok state =>
      match applyEnqueued path state record nextPosition dataLoss with
      | .error failure => .error failure
      | .ok next => .ok (recovery.replayed next)
  | .offered identity session =>
    reperform path recovery (·.markOffered identity session) .ok
  | .transportPublished identity session =>
    reperform path recovery (·.markTransportPublished identity session) .ok
  | .acknowledged ack => reperform path recovery (·.acknowledge ack) fun _ => .ok ()
  | .rotated streamEpoch =>
    reperform path recovery (·.rotateStreamEpoch) fun recoveredEpoch =>
      if recoveredEpoch ≠ streamEpoch then
        .error (corrupt path "stream epoch mutation is inconsistent")
      else .ok ()
  | .capacity capacity =>
    reperform path recovery (fun state => state.validateOpen state.streamId capacity)
      fun _ => .ok ()

def validateRecoveredState : Except CloudLinkSpoolError Unit :=
  if state.streamEpoch = 0 ∨ state.nextPosition = 0 ∨ state.capacity = 0 ∨
      state.records.size > state.capacity.toNat ∨
      state.lastAcknowledgedPosition ≥ state.nextPosition then
    .error (corrupt path "recovered CloudLink cursor metadata is invalid")
  else if !(match state.lastAck with
      | some ack => ack.streamId = state.streamId && ack.streamEpoch = state.streamEpoch &&
          ack.acknowledgedPosition = state.lastAcknowledgedPosition
      | none => state.lastAcknowledgedPosition = 0) then
    .error (corrupt path "recovered durable ACK metadata is inconsistent")
  else if state.records.keys.any fun position =>
      position ≤ state.lastAcknowledgedPosition || position ≥ state.nextPosition then
    .error (corrupt path "recovered record range is inconsistent")
  else if state.dataLoss.any fun loss =>
      loss.streamId ≠ state.streamId || loss.streamEpoch ≠ state.streamEpoch ||
        loss.firstLostPosition = 0 || loss.firstLostPosition > loss.lastLostPosition ||
        loss.earliestRetainedPosition ≤ loss.lastLostPosition then
    .error (corrupt path "recovered data-loss evidence is inconsistent")
  else .ok ()

/-- Read the frame at the head of a nonempty rest of the journal. -/
def readEntry (log : List UInt8) : FrameRead CloudLinkSpoolError :=
  if log.length < 4 then .torn
  else
    let length := (u32Value (log.take 4)).toNat
    let body := log.drop 4
    if length = 0 ∨ length > maxJournalRecordBytes then
      .corrupt (corrupt path "journal mutation exceeds safety bound")
    else if body.length < length + 4 then .torn
    else
      let payload := body.take length
      if crc32 payload ≠ u32Value ((body.drop length).take 4) then
        .corrupt (corrupt path "journal mutation checksum mismatch")
      else .frame payload (body.drop (length + 4))

/-- Decode and apply one framed mutation. -/
def applyPayload (recovery : Recovery) (payload : List UInt8) :
    Except CloudLinkSpoolError Recovery :=
  match codec.decode payload with
  | .error source =>
    .error (corrupt path ("invalid CloudLink journal mutation: " ++ source))
  | .ok entry => applyEntry path recovery entry

/-- Accept a finished recovery: the state, the number of replayed mutations and the repaired file. -/
def Recovery.finish (repaired : List UInt8) :
    Except CloudLinkSpoolError (CloudLinkSpoolState × Nat × List UInt8) :=
  match recovery.state with
  | none => .error (corrupt path "journal contains no checkpoint")
  | some state =>
    match validateRecoveredState path state with
    | .error failure => .error failure
    | .ok () => .ok (state, recovery.mutations, repaired)

/-- Recover a journal, cutting off a torn tail. -/
def recover (file : List UInt8) :
    Except CloudLinkSpoolError (CloudLinkSpoolState × Nat × List UInt8) :=
  if file.length < journalMagic.length then
    .error (storageError path "read journal header" "failed to fill whole buffer")
  else if file.take journalMagic.length ≠ journalMagic then
    .error (corrupt path "invalid CloudLink spool journal header")
  else
    let log := file.drop journalMagic.length
    match scan (fun _ => readEntry path) (applyPayload path codec) log.length journalMagic.length
        ⟨none, 0, false⟩ log with
    | .error failure => .error failure
    | .ok (recovery, offset) => recovery.finish path (file.take offset)

end Journal

/-- An open journal with the state it stands for. -/
structure FileSpool where
  file : List UInt8
  state : CloudLinkSpoolState
  mutationsSinceCompaction : Nat
  deriving DecidableEq

/-- How far a compaction gets: nothing replaces the journal before the rename, and only the parent
directory is synchronised after it. -/
inductive CompactOutcome where
  | committed
  | abandoned (failure : CloudLinkSpoolError)
  | unsynced (failure : CloudLinkSpoolError)
  deriving DecidableEq

/-- The outcomes of the file operations of one call. -/
structure IoOutcome where
  compaction : CompactOutcome
  append : AppendOutcome
  deriving DecidableEq

/-- A call whose file operations all succeed. -/
def IoOutcome.success : IoOutcome := ⟨.committed, .synced⟩

/-- A call of one spool method. -/
inductive SpoolCall where
  | enqueue (input : CloudLinkEnqueue)
  | markOffered (identity : CloudLinkRecordIdentity) (session : CloudLinkSessionBinding)
  | markTransportPublished (identity : CloudLinkRecordIdentity)
      (session : CloudLinkSessionBinding)
  | acknowledge (ack : CloudLinkDurableAck)
  | rotateStreamEpoch
  deriving DecidableEq

namespace FileSpool

variable (path : String) (codec : Codec JournalEntry) (spool : FileSpool)

/-- The journal has grown enough to be compacted before the next mutation. -/
def Due : Prop := spool.mutationsSinceCompaction ≥ compactAfterMutations

instance (spool : FileSpool) : Decidable spool.Due := inferInstanceAs (Decidable (_ ≥ _))

def compactLocked (outcome : CompactOutcome) : FileSpool × Except CloudLinkSpoolError Unit :=
  match writeCompactedJournal codec spool.state with
  | .error failure => (spool, .error failure)
  | .ok file =>
    match outcome with
    | .abandoned failure => (spool, .error failure)
    | .committed => ({ spool with file, mutationsSinceCompaction := 0 }, .ok ())
    | .unsynced failure => ({ spool with file, mutationsSinceCompaction := 0 }, .error failure)

/-- Perform an operation on a copy of the state and journal it when it changed something. -/
def commit {α : Type} (spool : FileSpool) (outcome : AppendOutcome)
    (operation : CloudLinkSpoolState →
      CloudLinkSpoolState × Except CloudLinkSpoolError (α × JournalEntry)) :
    FileSpool × Except CloudLinkSpoolError α :=
  match operation spool.state with
  | (_, .error failure) => (spool, .error failure)
  | (next, .ok (result, entry)) =>
    if next ≠ spool.state then
      match appendEntry path codec spool.file entry outcome with
      | (file, .error failure) => ({ spool with file }, .error failure)
      | (file, .ok ()) =>
        ({ file
           state := next
           mutationsSinceCompaction := spool.mutationsSinceCompaction + 1 },
          .ok result)
    else (spool, .ok result)

def mutate {α : Type} (spool : FileSpool) (io : IoOutcome) (operation : CloudLinkSpoolState →
      CloudLinkSpoolState × Except CloudLinkSpoolError (α × JournalEntry)) :
    FileSpool × Except CloudLinkSpoolError α :=
  if spool.Due then
    match spool.compactLocked codec io.compaction with
    | (compacted, .error failure) => (compacted, .error failure)
    | (compacted, .ok ()) => compacted.commit path codec io.append operation
  else spool.commit path codec io.append operation

/-- Attach the mutation that journals a successful operation. -/
def journalled {α : Type} (outcome : CloudLinkSpoolState × Except CloudLinkSpoolError α)
    (entry : CloudLinkSpoolState → α → JournalEntry) :
    CloudLinkSpoolState × Except CloudLinkSpoolError (α × JournalEntry) :=
  match outcome with
  | (next, .error failure) => (next, .error failure)
  | (next, .ok reply) => (next, .ok (reply, entry next reply))

def enqueue (spool : FileSpool) (io : IoOutcome) (input : CloudLinkEnqueue) :
    FileSpool × Except CloudLinkSpoolError CloudLinkRecord :=
  spool.mutate path codec io fun state =>
    journalled (state.enqueue input) fun next record =>
      .enqueued record next.nextPosition next.dataLoss

def markOffered (spool : FileSpool) (io : IoOutcome) (identity : CloudLinkRecordIdentity)
    (session : CloudLinkSessionBinding) : FileSpool × Except CloudLinkSpoolError Unit :=
  spool.mutate path codec io fun state =>
    journalled (state.markOffered identity session) fun _ _ => .offered identity session

def markTransportPublished (spool : FileSpool) (io : IoOutcome)
    (identity : CloudLinkRecordIdentity) (session : CloudLinkSessionBinding) :
    FileSpool × Except CloudLinkSpoolError Unit :=
  spool.mutate path codec io fun state =>
    journalled (state.markTransportPublished identity session) fun _ _ =>
      .transportPublished identity session

def acknowledge (spool : FileSpool) (io : IoOutcome) (ack : CloudLinkDurableAck) :
    FileSpool × Except CloudLinkSpoolError DurableAckOutcome :=
  spool.mutate path codec io fun state =>
    journalled (state.acknowledge ack) fun _ _ => .acknowledged ack

def rotateStreamEpoch (spool : FileSpool) (io : IoOutcome) :
    FileSpool × Except CloudLinkSpoolError UInt64 :=
  spool.mutate path codec io fun state =>
    journalled state.rotateStreamEpoch fun _ streamEpoch => .rotated streamEpoch

/-- Perform one call. -/
def call (io : IoOutcome) :
    SpoolCall → FileSpool × Except CloudLinkSpoolError CloudLinkSpoolState.SpoolReply
  | .enqueue input => (spool.enqueue path codec io input).map id (Except.map .record)
  | .markOffered identity session =>
    (spool.markOffered path codec io identity session).map id (Except.map fun _ => .unit)
  | .markTransportPublished identity session =>
    (spool.markTransportPublished path codec io identity session).map id (Except.map fun _ => .unit)
  | .acknowledge ack => (spool.acknowledge path codec io ack).map id (Except.map .outcome)
  | .rotateStreamEpoch => (spool.rotateStreamEpoch path codec io).map id (Except.map .streamEpoch)

/-- Adopt the configuration of the opener and journal a changed capacity.  The first component is
the file left behind. -/
def reconfigure (streamId : String) (capacity : UInt64) (outcome : AppendOutcome) :
    List UInt8 × Except CloudLinkSpoolError FileSpool :=
  match spool.state.validateOpen streamId capacity with
  | (_, .error failure) => (spool.file, .error failure)
  | (state, .ok false) => (spool.file, .ok { spool with state })
  | (state, .ok true) =>
    match appendEntry path codec spool.file (.capacity capacity) outcome with
    | (file, .error failure) => (file, .error failure)
    | (file, .ok ()) => (file, .ok ⟨file, state, spool.mutationsSinceCompaction + 1⟩)

/-- Open a journal up to its final compaction: create it when it is empty, recover it otherwise. -/
def openJournal (file : List UInt8) (streamId : String) (capacity : UInt64)
    (outcome : AppendOutcome) : List UInt8 × Except CloudLinkSpoolError FileSpool :=
  if file.length = 0 then
    match CloudLinkSpoolState.new streamId capacity with
    | .error failure => (file, .error failure)
    | .ok state =>
      match writeCompactedJournal codec state with
      | .error failure => (file, .error failure)
      | .ok created =>
        FileSpool.reconfigure path codec ⟨created, state, 0⟩ streamId capacity outcome
  else
    match recover path codec file with
    | .error failure => (file, .error failure)
    | .ok (state, mutations, repaired) =>
      FileSpool.reconfigure path codec ⟨repaired, state, mutations⟩ streamId capacity outcome

def openSpool (file : List UInt8) (streamId : String) (capacity : UInt64) (io : IoOutcome) :
    List UInt8 × Except CloudLinkSpoolError FileSpool :=
  match openJournal path codec file streamId capacity io.append with
  | (file, .error failure) => (file, .error failure)
  | (file, .ok spool) =>
    if spool.Due then
      match spool.compactLocked codec io.compaction with
      | (compacted, .error failure) => (compacted.file, .error failure)
      | (compacted, .ok ()) => (compacted.file, .ok compacted)
    else (file, .ok spool)

end FileSpool

end AetherIot.CloudLink
