import AetherIot.CloudLink.SpoolJournal
import AetherIot.Foundation.Attempt

/-!
# Journal replay refines the spool

Replaying a journal gives back the state that wrote it.  A sound journal recovers to its state, a
torn tail is cut off, and every mutation appended by the spool is replayed to the state it left.
-/

namespace AetherIot.CloudLink

open MachineText OrderedMap Bytes FramedLog CloudLinkSpoolState

/-- Payloads that fit one frame. -/
def FramedPayload (payload : List UInt8) : Prop :=
  0 < payload.length ∧ payload.length ≤ maxJournalRecordBytes

theorem length_entryFrame (payload : List UInt8) :
    (entryFrame payload).length = payload.length + 8 := by
  simp [entryFrame]
  omega

variable {payload part file : List UInt8} {codec : Codec JournalEntry} {entry : JournalEntry}
  {entries : List JournalEntry} {payloads : List (List UInt8)} {path : String} {mutations : Nat}
  {record : CloudLinkRecord} {after : CloudLinkSpoolState}

theorem framedLength (framed : FramedPayload payload) :
    (UInt32.ofNat payload.length).toNat = payload.length := by
  have := framed.2
  unfold maxJournalRecordBytes at this
  rw [UInt32.toNat_ofNat_of_lt' (by simp [UInt32.size]; omega)]

section

variable (path)

theorem readEntry_frame (framed : FramedPayload payload) (rest : List UInt8) :
    readEntry path (entryFrame payload ++ rest) = .frame payload rest := by
  have layout : entryFrame payload ++ rest =
      u32Bytes (UInt32.ofNat payload.length) ++ (payload ++ (u32Bytes (crc32 payload) ++ rest)) := by
    simp [entryFrame]
  have header : (entryFrame payload ++ rest).take 4 = u32Bytes (UInt32.ofNat payload.length) := by
    rw [layout, List.take_left' (length_u32Bytes _)]
  have body : (entryFrame payload ++ rest).drop 4 =
      payload ++ (u32Bytes (crc32 payload) ++ rest) := by
    rw [layout, List.drop_left' (length_u32Bytes _)]
  have after : (payload ++ (u32Bytes (crc32 payload) ++ rest)).drop (payload.length + 4) = rest := by
    rw [List.drop_append, List.drop_of_length_le (by omega), Nat.add_sub_cancel_left,
      List.nil_append, List.drop_left' (length_u32Bytes _)]
  have long : ¬ (entryFrame payload ++ rest).length < 4 := by
    simp [length_entryFrame]
    omega
  obtain ⟨positive, bounded⟩ := framed
  unfold readEntry
  simp only [header, body, u32Value_u32Bytes, framedLength ⟨positive, bounded⟩, List.take_left,
    List.drop_left, List.take_left' (length_u32Bytes _), after]
  rw [if_neg long, if_neg (by omega), if_neg (by simp)]
  simp

theorem readEntry_part (framed : FramedPayload payload)
    (isPart : part <+: entryFrame payload) (proper : part ≠ entryFrame payload) :
    readEntry path part = .torn := by
  obtain ⟨missing, whole⟩ := isPart
  have shorter : part.length < payload.length + 8 := by
    have total := congrArg List.length whole
    have nonempty : missing ≠ [] := by
      rintro rfl
      exact proper (by simpa using whole)
    have := List.length_pos_of_ne_nil nonempty
    simp only [List.length_append, length_entryFrame] at total
    omega
  unfold readEntry
  by_cases short : part.length < 4
  · simp [short]
  · have header : part.take 4 = u32Bytes (UInt32.ofNat payload.length) := by
      have kept : (part ++ missing).take 4 = part.take 4 := List.take_append_of_le_length (by omega)
      rw [← kept, whole, entryFrame, List.append_assoc, List.take_left' (length_u32Bytes _)]
    obtain ⟨positive, bounded⟩ := framed
    simp only [header, u32Value_u32Bytes, framedLength ⟨positive, bounded⟩, List.length_drop]
    rw [if_neg short, if_neg (by omega), if_pos (by omega)]

/-- The frame layout of spool journals. -/
def entryFraming : Framing CloudLinkSpoolError where
  Admissible := FramedPayload
  frame := entryFrame
  read _ := readEntry path
  frame_ne_nil payload empty := by
    have := congrArg List.length empty
    simp [length_entryFrame] at this
  read_frame _ _ rest framed := readEntry_frame path framed rest
  read_part _ _ _ framed _ isPart proper := readEntry_part path framed isPart proper

def Encodes (codec : Codec JournalEntry) (entry : JournalEntry) (payload : List UInt8) : Prop :=
  codec.encode entry = .ok payload ∧ FramedPayload payload

theorem encodeEntry_eq_ok {bytes : List UInt8} (encoded : encodeEntry codec entry = .ok bytes) :
    ∃ payload, Encodes codec entry payload ∧ bytes = entryFrame payload := by
  unfold encodeEntry at encoded
  split at encoded
  · cases encoded
  · rename_i payload written
    split at encoded
    · cases encoded
    · rename_i framed
      simp only [Bool.or_eq_true, List.isEmpty_iff, decide_eq_true_eq, not_or, not_lt] at framed
      cases encoded
      exact ⟨payload, ⟨written, List.length_pos_of_ne_nil framed.1, framed.2⟩, rfl⟩

theorem encodeEntry_of_encodes (encodes : Encodes codec entry payload) :
    encodeEntry codec entry = .ok (entryFrame payload) := by
  obtain ⟨encoded, positive, bounded⟩ := encodes
  have nonempty : payload ≠ [] := List.ne_nil_of_length_pos positive
  simp [encodeEntry, encoded, nonempty, Nat.not_lt.mpr bounded]

theorem applyPayload_encodes (encodes : Encodes codec entry payload) (recovery : Recovery) :
    applyPayload path codec recovery payload = applyEntry path recovery entry := by
  simp [applyPayload, codec.decode_encode _ _ encodes.1]

theorem foldlM_encodes (encodes : List.Forall₂ (Encodes codec) entries payloads)
    (recovery : Recovery) :
    payloads.foldlM (applyPayload path codec) recovery =
      entries.foldlM (applyEntry path) recovery := by
  induction encodes generalizing recovery with
  | nil => rfl
  | cons head _ ih =>
    simp only [List.foldlM_cons, applyPayload_encodes path head, ih]

/-- The whole file is a log that recovers to `state`. -/
structure Journals (codec : Codec JournalEntry) (file : List UInt8)
    (state : CloudLinkSpoolState) (mutations : Nat) : Prop where
  wellFormed : state.WellFormed
  recorded : ∃ payloads started, (∀ payload ∈ payloads, FramedPayload payload) ∧
    file = journalMagic ++ (entryFraming path).log payloads ∧
    payloads.foldlM (applyPayload path codec) ⟨none, 0, false⟩ =
      .ok ⟨some state, mutations, started⟩

theorem validateRecoveredState_eq_ok {state : CloudLinkSpoolState}
    (wellFormed : state.WellFormed) : validateRecoveredState path state = .ok () := by
  have ordered := wellFormed.window.ordered
  have acknowledged := wellFormed.acknowledgedBelow
  have ranged : ∀ position ∈ state.records, state.lastAcknowledgedPosition < position ∧
      position < state.nextPosition := by
    intro position member
    have bounds := (wellFormed.window.mem_iff position).mp member
    exact ⟨by grind, bounds.2⟩
  have consistent := wellFormed.ackConsistent
  unfold validateRecoveredState
  rw [if_neg, if_neg, if_neg, if_neg]
  · simp only [Option.any_eq_true, not_exists, not_and]
    intro loss present
    have fits := wellFormed.evidenceFits loss present
    have positive := fits.positive
    have order := fits.ordered
    have recorded := fits.recorded
    simp only [fits.stream, fits.epoch]
    grind
  · simp only [List.any_eq_true, Std.ExtTreeMap.mem_keys, not_exists, not_and]
    intro position member
    have := ranged position member
    grind
  · simp only [CloudLinkSpoolState.AckConsistent] at consistent
    cases last : state.lastAck with
    | none | some => simp_all
  · have := wellFormed.epochPositive
    have := wellFormed.capacityPositive
    have := wellFormed.bounded
    grind

/-- Recovery of whole frames and a torn tail replays the payloads and keeps the frames. -/
theorem recover_log (codec : Codec JournalEntry)
    (framed : ∀ payload ∈ payloads, FramedPayload payload) (torn : (entryFraming path).Torn part) :
    recover path codec (journalMagic ++ (entryFraming path).log payloads ++ part) =
      payloads.foldlM (applyPayload path codec) ⟨none, 0, false⟩ >>= fun recovery =>
        recovery.finish path (journalMagic ++ (entryFraming path).log payloads) := by
  have header : (journalMagic ++ (entryFraming path).log payloads ++ part).take
      journalMagic.length = journalMagic := by
    rw [List.append_assoc, List.take_left]
  have log : (journalMagic ++ (entryFraming path).log payloads ++ part).drop
      journalMagic.length = (entryFraming path).log payloads ++ part := by
    rw [List.append_assoc, List.drop_left]
  have enough : payloads.length ≤ ((entryFraming path).log payloads ++ part).length := by
    have := (entryFraming path).length_le_log payloads
    simp only [List.length_append]
    omega
  have scanned := (entryFraming path).scan_log (applyPayload path codec) framed torn enough
    journalMagic.length ⟨none, 0, false⟩
  have kept : (journalMagic ++ (entryFraming path).log payloads ++ part).take
      (journalMagic.length + ((entryFraming path).log payloads).length) =
        journalMagic ++ (entryFraming path).log payloads := by
    rw [← List.length_append, List.take_left]
  unfold recover
  rw [if_neg (by simp), header, if_neg (by simp), log]
  change scan (fun _ => readEntry path) _ _ _ _ _ = _ at scanned
  simp only [scanned]
  cases payloads.foldlM (applyPayload path codec) ⟨none, 0, false⟩ with
  | error => rfl
  | ok recovery => exact congrArg (recovery.finish path) kept

end

theorem recover_journals {state : CloudLinkSpoolState}
    (sound : Journals path codec file state mutations) (torn : (entryFraming path).Torn part) :
    recover path codec (file ++ part) = .ok (state, mutations, file) := by
  obtain ⟨_, started, framed, rfl, replayed⟩ := sound.recorded
  rw [recover_log path codec framed torn, replayed]
  change Recovery.finish path ⟨some state, mutations, started⟩ _ = _
  simp only [Recovery.finish, validateRecoveredState_eq_ok path sound.wellFormed]

theorem validatePersistedRecord_eq_ok (path : String) (state : CloudLinkSpoolState)
    (stream : record.identity.streamId = state.streamId)
    (epoch : record.identity.streamEpoch = state.streamEpoch)
    (positive : 0 < record.identity.position) (valid : validateEnqueue record.content = .ok ()) :
    validatePersistedRecord path state record = .ok () := by
  obtain ⟨identifier, digest, nonempty, bounded, expiry⟩ := validateEnqueue_eq_ok.mp valid
  simp only [validIdentifier, Bool.and_eq_true, Bool.not_eq_true', List.isEmpty_eq_false_iff]
    at identifier
  refine if_pos ⟨stream, epoch, positive, ?_, of_decide_eq_true identifier.1.2, digest, ?_,
    bounded, ?_⟩
  · exact fun empty => identifier.1.1 (List.length_eq_zero_iff.mp empty)
  · exact fun empty => nonempty (List.length_eq_zero_iff.mp empty)
  · change record.expiresAtMs.any (· ≤ record.createdAtMs) = false at expiry
    cases expires : record.expiresAtMs with
    | none => rfl
    | some =>
      rw [expires] at expiry
      exact decide_eq_true (UInt64.not_le.mp (of_decide_eq_false expiry))

variable {state : CloudLinkSpoolState}

/-- Restoring retained records one by one inserts them into the recovered map. -/
theorem restoreRecords (path : String) (consistent : state.Consistent)
    (values : List CloudLinkRecord) (restored : BTreeMap UInt64 CloudLinkRecord)
    (retained : ∀ record ∈ values, state.records[record.identity.position]? = some record)
    (distinct : (values.map (·.identity.position)).Nodup)
    (fresh : ∀ record ∈ values, restored[record.identity.position]? = none)
    (fits : restored.size + values.length ≤ state.capacity.toNat) :
    (values.map JournalEntry.record).foldlM (applyEntry path)
        ⟨some { state with records := restored }, 0, false⟩ =
      .ok ⟨some { state with
        records := insertAll (·.identity.position) restored values }, 0, false⟩ := by
  induction values generalizing restored with
  | nil => rfl
  | cons record _ ih =>
    obtain ⟨here, later⟩ := List.forall_mem_cons.mp retained
    obtain ⟨vacant, others⟩ := List.forall_mem_cons.mp fresh
    rw [List.map_cons, List.nodup_cons] at distinct
    have identity := consistent.sound.identified _ _ here
    obtain ⟨_, _⟩ := consistent.bounds here
    have positive : 0 < record.identity.position := by
      have := consistent.acknowledgedBelow
      grind
    have persisted := validatePersistedRecord_eq_ok path
      { state with records := restored } (congrArg (·.streamId) identity)
      (congrArg (·.streamEpoch) identity) positive (consistent.sound.validContent _ _ here)
    have grown : (restored.insert record.identity.position record).size = restored.size + 1 := by
      rw [Std.ExtTreeMap.size_insert, if_neg]
      rw [Std.ExtTreeMap.contains_iff_mem, Std.ExtTreeMap.mem_iff_isSome_getElem?, vacant]
      simp
    have applied : applyEntry path ⟨some { state with records := restored }, 0, false⟩
        (.record record) = .ok ⟨some { state with
          records := restored.insert record.identity.position record }, 0, false⟩ := by
      have room : ¬ restored.size + 1 > state.capacity.toNat := by
        simp only [List.length_cons] at fits
        omega
      have below : ¬ record.identity.position ≥ state.nextPosition := by grind
      simp [applyEntry, activeState, restoreCheckpointRecord, persisted, vacant, grown, room, below]
    rw [List.map_cons, List.foldlM_cons, applied]
    refine ih _ later distinct.2 ?_ ?_
    · intro other member
      have elsewhere : record.identity.position ≠ other.identity.position := by
        intro same
        exact distinct.1 (same ▸ List.mem_map_of_mem member)
      have := others other member
      grind
    · simp only [List.length_cons] at fits
      omega

/-- Replaying a compacted journal restores the compacted state. -/
theorem foldlM_compactedEntries (path : String) (consistent : state.Consistent) :
    (compactedEntries state).foldlM (applyEntry path) ⟨none, 0, false⟩ =
      .ok ⟨some state, 0, false⟩ := by
  have keyed : ∀ (position : UInt64) (record : CloudLinkRecord),
      state.records[position]? = some record → record.identity.position = position := by
    intro position record found
    rw [consistent.sound.identified _ _ found]
  have created : new state.streamId state.capacity =
      .ok ⟨state.streamId, 1, 1, state.capacity, ∅, none, 0, none⟩ := by
    have limited := consistent.capacityLimited
    have valid := validateStreamId_eq_ok.mpr consistent.streamValid
    unfold new
    rw [valid]
    simp only
    rw [if_neg (by simp [consistent.capacityPositive, limited])]
  have blank : applyEntry path ⟨none, 0, false⟩ (checkpoint state) =
      .ok ⟨some { state with records := ∅ }, 0, false⟩ := by
    simp [applyEntry, checkpoint, created]
  have restored := restoreRecords path consistent (valueList state.records) ∅ ?_ (nodup_map_key_valueList keyed) (by simp) ?_
  · rw [compactedEntries, List.foldlM_cons, blank]
    refine restored.trans ?_
    rw [insertAll_valueList keyed]
  · intro record member
    obtain ⟨position, found⟩ := mem_valueList.mp member
    rw [keyed position record found]
    exact found
  · simpa [length_valueList] using consistent.bounded

theorem mapM_encodeEntry {frames : List (List UInt8)}
    (encoded : entries.mapM (encodeEntry codec) = .ok frames) :
    ∃ payloads, List.Forall₂ (Encodes codec) entries payloads ∧
      (∀ payload ∈ payloads, FramedPayload payload) ∧ frames = payloads.map entryFrame := by
  have each := Attempt.forall₂_of_mapM encoded
  clear encoded
  induction each with
  | nil => exact ⟨[], .nil, by simp, rfl⟩
  | cons head _ ih =>
    obtain ⟨payload, encodes, rfl⟩ := encodeEntry_eq_ok head
    obtain ⟨payloads, rest, framed, rfl⟩ := ih
    exact ⟨payload :: payloads, .cons encodes rest,
      List.forall_mem_cons.mpr ⟨encodes.2, framed⟩, rfl⟩

theorem Journals.compacted (path : String) (wellFormed : state.WellFormed)
    (written : writeCompactedJournal codec state = .ok file) :
    Journals path codec file state 0 := by
  unfold writeCompactedJournal at written
  split at written
  · cases written
  · rename_i encoded
    cases written
    obtain ⟨payloads, encodes, framed, rfl⟩ := mapM_encodeEntry encoded
    refine ⟨wellFormed, payloads, false, framed, rfl, ?_⟩
    rw [foldlM_encodes path encodes]
    exact foldlM_compactedEntries path wellFormed.toConsistent

/-- Replaying `entry` on `before` gives `after` and counts one mutation. -/
def Replays (path : String) (before : CloudLinkSpoolState) (entry : JournalEntry)
    (after : CloudLinkSpoolState) : Prop :=
  ∀ mutations started, applyEntry path ⟨some before, mutations, started⟩ entry =
    .ok ⟨some after, mutations + 1, true⟩

theorem Journals.append (sound : Journals path codec file state mutations)
    (encodes : Encodes codec entry payload) (replays : Replays path state entry after)
    (wellFormed : after.WellFormed) :
    Journals path codec (file ++ entryFrame payload) after (mutations + 1) := by
  obtain ⟨payloads, _, framed, rfl, replayed⟩ := sound.recorded
  refine ⟨wellFormed, payloads ++ [payload], true, ?_, ?_, ?_⟩
  · intro other member
    rcases List.mem_append.mp member with earlier | last
    · exact framed other earlier
    · rw [List.mem_singleton.mp last]
      exact encodes.2
  · rw [Framing.log_snoc, List.append_assoc]
    rfl
  · rw [List.foldlM_append, replayed]
    simp only [List.foldlM_cons, List.foldlM_nil]
    change (applyPayload path codec _ payload >>= pure) = _
    rw [applyPayload_encodes path encodes, replays]
    rfl

/-- An operation whose journalled mutations replay to the state it leaves. -/
def ReplaysFaithfully {α : Type} (path : String) (operation : CloudLinkSpoolState →
      CloudLinkSpoolState × Except CloudLinkSpoolError (α × JournalEntry)) : Prop :=
  ∀ before after reply entry, before.WellFormed → operation before = (after, .ok (reply, entry)) →
    after ≠ before → after.WellFormed ∧ Replays path before entry after

theorem reperform_replays {α : Type} (path : String)
    (operation : CloudLinkSpoolState → CloudLinkSpoolState × Except CloudLinkSpoolError α)
    (check : α → Except CloudLinkSpoolError Unit) {before : CloudLinkSpoolState} {reply : α}
    (done : operation before = (after, .ok reply)) (accepted : check reply = .ok ())
    (mutations : Nat) (started : Bool) :
    reperform path ⟨some before, mutations, started⟩ operation check =
      .ok ⟨some after, mutations + 1, true⟩ := by
  simp [reperform, activeState, done, accepted, Recovery.replayed]

/-- Replaying an enqueue stores the record, the cursor and the evidence it journalled. -/
theorem enqueued_replays (path : String) {input : CloudLinkEnqueue} (wellFormed : state.WellFormed)
    (done : state.enqueue input = (after, .ok record)) (changed : after ≠ state) :
    Replays path state (.enqueued record after.nextPosition after.dataLoss) after := by
  have positive : 0 < state.nextPosition := by
    have := wellFormed.window.ordered
    have := wellFormed.acknowledgedBelow
    grind
  have persisted : validateEnqueue input = .ok () →
      validatePersistedRecord path state (state.nextRecord input) = .ok () := fun valid =>
    validatePersistedRecord_eq_ok path state rfl rfl positive valid
  have applied : applyEnqueued path state record after.nextPosition after.dataLoss = .ok after := by
    have effect := state.enqueue_effect input
    rw [done] at effect
    cases effect with
    | repeated => exact absurd rfl changed
    | @appended _ valid _ room successor =>
      have next := checkedAdd_one_eq_some.mpr successor
      simp only [applyEnqueued, persisted valid]
      rw [if_neg (by simp [stored, nextRecord,
        CloudLinkRecord.fromEnqueue, next]), if_neg room]
      rfl
    | @displaced _ _ valid _ full oldest successor =>
      have next := checkedAdd_one_eq_some.mpr successor
      simp only [applyEnqueued, persisted valid]
      rw [if_neg (by simp [displaced, stored,
        evict, nextRecord,
        CloudLinkRecord.fromEnqueue, next]), if_pos full, oldest]
      rfl
  intro _ _
  simp [applyEntry, activeState, applied, Recovery.replayed]

namespace FileSpool

theorem journalled_eq_ok {α : Type} {outcome : CloudLinkSpoolState × Except CloudLinkSpoolError α}
    {entryOf : CloudLinkSpoolState → α → JournalEntry} {reply : α}
    (done : journalled outcome entryOf = (after, .ok (reply, entry))) :
    outcome = (after, .ok reply) ∧ entry = entryOf after reply := by
  unfold journalled at done
  split at done
  · cases done
  · cases done
    exact ⟨rfl, rfl⟩

/-- Present the reply of a journalled operation differently. -/
def relabel {α β : Type} (present : α → β)
    (outcome : CloudLinkSpoolState × Except CloudLinkSpoolError (α × JournalEntry)) :
    CloudLinkSpoolState × Except CloudLinkSpoolError (β × JournalEntry) :=
  outcome.map id (Except.map (Prod.map present id))

theorem relabel_eq_ok {α β : Type} {present : α → β}
    {outcome : CloudLinkSpoolState × Except CloudLinkSpoolError (α × JournalEntry)} {reply : β}
    (done : relabel present outcome = (after, .ok (reply, entry))) :
    ∃ original, outcome = (after, .ok (original, entry)) ∧ reply = present original := by
  obtain ⟨_, result⟩ := outcome
  cases result with
  | error => cases done
  | ok value =>
    cases done
    exact ⟨value.1, rfl, rfl⟩

theorem commit_relabel {α β : Type} (path : String) (codec : Codec JournalEntry)
    (spool : FileSpool) (outcome : AppendOutcome) (present : α → β)
    (operation : CloudLinkSpoolState →
      CloudLinkSpoolState × Except CloudLinkSpoolError (α × JournalEntry)) :
    (spool.commit path codec outcome operation).map id (Except.map present) =
      spool.commit path codec outcome fun state => relabel present (operation state) := by
  unfold commit
  rcases performed : operation spool.state with ⟨_, _ | value⟩
  · simp [relabel, performed, Except.map]
  · simp only [relabel, performed, Prod.map, Except.map, id]
    split_ifs
    · rcases appendEntry path codec spool.file value.2 outcome with ⟨_, _ | _⟩ <;> rfl
    · rfl

theorem mutate_relabel {α β : Type} (path : String) (codec : Codec JournalEntry)
    (spool : FileSpool) (io : IoOutcome) (present : α → β)
    (operation : CloudLinkSpoolState →
      CloudLinkSpoolState × Except CloudLinkSpoolError (α × JournalEntry)) :
    (spool.mutate path codec io operation).map id (Except.map present) =
      spool.mutate path codec io fun state => relabel present (operation state) := by
  unfold mutate
  split
  · split
    · rfl
    · exact commit_relabel path codec _ io.append present operation
  · exact commit_relabel path codec spool io.append present operation

end FileSpool

namespace SpoolCall

open FileSpool

/-- The operation a call performs on the state, with the mutation that journals it. -/
def operation (call : SpoolCall) (state : CloudLinkSpoolState) : CloudLinkSpoolState ×
      Except CloudLinkSpoolError (CloudLinkSpoolState.SpoolReply × JournalEntry) :=
  match call with
  | .enqueue input =>
    relabel .record (journalled (state.enqueue input) fun next record =>
      .enqueued record next.nextPosition next.dataLoss)
  | .markOffered identity session =>
    relabel (fun _ => .unit) (journalled (state.markOffered identity session) fun _ _ =>
      .offered identity session)
  | .markTransportPublished identity session =>
    relabel (fun _ => .unit) (journalled (state.markTransportPublished identity session)
      fun _ _ => .transportPublished identity session)
  | .acknowledge ack =>
    relabel .outcome (journalled (state.acknowledge ack) fun _ _ => .acknowledged ack)
  | .rotateStreamEpoch =>
    relabel .streamEpoch (journalled state.rotateStreamEpoch fun _ streamEpoch =>
      .rotated streamEpoch)

/-- The operation of the in-memory machine behind a call. -/
def toOperation : SpoolCall → CloudLinkSpoolState.SpoolOperation
  | .enqueue input => .enqueue input
  | .markOffered identity session => .markOffered identity session
  | .markTransportPublished identity session => .markTransportPublished identity session
  | .acknowledge ack => .acknowledge ack
  | .rotateStreamEpoch => .rotateStreamEpoch

theorem call_eq_mutate (path : String) (codec : Codec JournalEntry) (spool : FileSpool)
    (io : IoOutcome) (call : SpoolCall) :
    spool.call path codec io call = spool.mutate path codec io call.operation := by
  cases call <;> exact mutate_relabel path codec spool io _ _

theorem perform_of_operation {call : SpoolCall} {after : CloudLinkSpoolState}
    {reply : CloudLinkSpoolState.SpoolReply} {entry : JournalEntry}
    (done : call.operation state = (after, .ok (reply, entry))) :
    state.perform call.toOperation = (after, .ok reply) := by
  cases call <;>
  · obtain ⟨_, journal, rfl⟩ := relabel_eq_ok done
    simp [toOperation, perform, (journalled_eq_ok journal).1, Except.map]

theorem replaysFaithfully (path : String) (call : SpoolCall) :
    ReplaysFaithfully path call.operation := by
  intro _ _ _ _ wellFormed done changed
  refine ⟨wellFormed.of_ok (perform_of_operation done), ?_⟩
  cases call with
  | enqueue =>
    obtain ⟨_, journal, -⟩ := relabel_eq_ok done
    obtain ⟨enqueued, rfl⟩ := journalled_eq_ok journal
    exact enqueued_replays path wellFormed enqueued changed
  | markOffered identity session =>
    obtain ⟨_, journal, -⟩ := relabel_eq_ok done
    obtain ⟨marked, rfl⟩ := journalled_eq_ok journal
    exact reperform_replays path (·.markOffered identity session) .ok marked rfl
  | markTransportPublished identity session =>
    obtain ⟨_, journal, -⟩ := relabel_eq_ok done
    obtain ⟨marked, rfl⟩ := journalled_eq_ok journal
    exact reperform_replays path (·.markTransportPublished identity session) .ok marked rfl
  | acknowledge ack =>
    obtain ⟨_, journal, -⟩ := relabel_eq_ok done
    obtain ⟨acknowledged, rfl⟩ := journalled_eq_ok journal
    exact reperform_replays path (·.acknowledge ack) (fun _ => .ok ()) acknowledged rfl
  | rotateStreamEpoch =>
    obtain ⟨_, journal, -⟩ := relabel_eq_ok done
    obtain ⟨rotated, rfl⟩ := journalled_eq_ok journal
    exact reperform_replays path (·.rotateStreamEpoch) _ rotated (by simp)

end SpoolCall

end AetherIot.CloudLink
