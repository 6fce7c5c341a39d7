import AetherIot.CloudLink.SpoolExhaustion
import AetherIot.CloudLink.SpoolRecovery

/-!
# Cut journals recover the newest complete state

A history pairs an open journal with the offsets at which it has been in a state since its last
compaction.  Wherever the file is cut after that compaction, recovery returns the newest state
whose offset survives the cut.
-/

namespace AetherIot.CloudLink

open MachineText OrderedMap Bytes FramedLog FileSpool CloudLinkSpoolState SpoolCall

/-- The bytes a call appends to the journal, when it changes the state. -/
def pendingFrame (codec : Codec JournalEntry) (spool : FileSpool) (call : SpoolCall) :
    Option (List UInt8) :=
  match call.operation spool.state with
  | (_, .error _) => none
  | (next, .ok (_, entry)) =>
    if next ≠ spool.state then (encodeEntry codec entry).toOption else none

variable {path : String} {codec : Codec JournalEntry}

/-- Everything a call can do once its compaction is out of the way. -/
inductive CommitEffect (path : String) (codec : Codec JournalEntry) (spool : FileSpool)
    (call : SpoolCall) (outcome : AppendOutcome) :
    FileSpool × Except CloudLinkSpoolError CloudLinkSpoolState.SpoolReply → Prop where
  | rejected (failure : CloudLinkSpoolError) :
      CommitEffect path codec spool call outcome (spool, .error failure)
  | unchanged {reply : CloudLinkSpoolState.SpoolReply}
      (performed : spool.state.perform call.toOperation = (spool.state, .ok reply)) :
      CommitEffect path codec spool call outcome (spool, .ok reply)
  | interrupted {payload : List UInt8} (failure : CloudLinkSpoolError)
      (framed : FramedPayload payload)
      (pending : pendingFrame codec spool call = some (entryFrame payload))
      (failed : outcome ≠ .synced) :
      CommitEffect path codec spool call outcome
        ({ spool with file := spool.file ++ outcome.written (entryFrame payload) }, .error failure)
  | appended {entry : JournalEntry} {payload : List UInt8} {after : CloudLinkSpoolState}
      {reply : CloudLinkSpoolState.SpoolReply} (encodes : Encodes codec entry payload)
      (pending : pendingFrame codec spool call = some (entryFrame payload))
      (synced : outcome = .synced) (wellFormed : after.WellFormed)
      (replays : Replays path spool.state entry after)
      (performed : spool.state.perform call.toOperation = (after, .ok reply)) :
      CommitEffect path codec spool call outcome
        (⟨spool.file ++ entryFrame payload, after, spool.mutationsSinceCompaction + 1⟩, .ok reply)

variable {spool after : FileSpool} {reply : CloudLinkSpoolState.SpoolReply} {marks : Marks}
  {io : IoOutcome} {file repaired : List UInt8} {state : CloudLinkSpoolState} {mutations : Nat}

theorem commit_effect (path : String) (codec : Codec JournalEntry)
    (wellFormed : spool.state.WellFormed) (call : SpoolCall) (outcome : AppendOutcome) :
    CommitEffect path codec spool call outcome
      (spool.commit path codec outcome call.operation) := by
  unfold commit
  rcases performed : call.operation spool.state with ⟨next, failure | ⟨_, entry⟩⟩
  · exact .rejected failure
  · simp only
    split_ifs with changed
    · obtain ⟨after, replays⟩ := replaysFaithfully path call _ _ _ _ wellFormed performed
        changed
      have pending : ∀ bytes, encodeEntry codec entry = .ok bytes →
          pendingFrame codec spool call = some bytes := by
        intro _ encoded
        simp [pendingFrame, performed, changed, encoded, Except.toOption]
      unfold appendEntry
      cases encoded : encodeEntry codec entry with
      | error => cases outcome <;> exact .rejected _
      | ok =>
        obtain ⟨_, encodes, rfl⟩ := encodeEntry_eq_ok encoded
        cases outcome with
        | seekFailed => exact .rejected _
        | synced =>
          exact .appended encodes (pending _ encoded) rfl after replays
            (perform_of_operation performed)
        | writeFailed | syncFailed =>
          exact .interrupted _ encodes.2 (pending _ encoded) (by simp)
    · obtain rfl : next = spool.state := not_not.mp changed
      exact .unchanged (perform_of_operation performed)

theorem compactLocked_eq_ok {outcome : CompactOutcome}
    (done : spool.compactLocked codec outcome = (after, .ok ())) :
    writeCompactedJournal codec spool.state = .ok after.file ∧ after.state = spool.state ∧
      after.mutationsSinceCompaction = 0 := by
  unfold compactLocked at done
  split at done
  · cases done
  · rename_i written
    cases outcome with
    | abandoned | unsynced => cases done
    | committed =>
      cases done
      exact ⟨written, rfl, rfl⟩

theorem call_journalled {call : SpoolCall} {next : CloudLinkSpoolState} {entry : JournalEntry}
    {payload : List UInt8} (ready : ¬ spool.Due)
    (performed : call.operation spool.state = (next, .ok (reply, entry)))
    (changed : next ≠ spool.state) (encodes : Encodes codec entry payload) (io : IoOutcome) :
    spool.call path codec io call = match io.append.result path with
      | .ok () =>
        (⟨spool.file ++ entryFrame payload, next, spool.mutationsSinceCompaction + 1⟩, .ok reply)
      | .error failure =>
        ({ spool with file := spool.file ++ io.append.written (entryFrame payload) },
          .error failure) := by
  have encoded := encodeEntry_of_encodes encodes
  rw [call_eq_mutate, mutate, if_neg ready, commit, performed]
  simp only [ne_eq, changed, not_false_eq_true, if_true, appendEntry]
  cases io.append <;> simp [encoded, AppendOutcome.result, AppendOutcome.written]

/-- Journal offsets and the states they complete. -/
abbrev Marks := List (Nat × CloudLinkSpoolState)

/-- The end of the journal and the state it stands for. -/
def FileSpool.mark (spool : FileSpool) : Nat × CloudLinkSpoolState :=
  (spool.file.length, spool.state)

/-- Mark the end of the journal after an operation that extended it. -/
def Marks.extend (marks : Marks) (before after : FileSpool) : Marks :=
  if after.file = before.file then marks else marks ++ [after.mark]

/-- Where the last compacted section ends. -/
def Marks.compactedEnd (marks : Marks) : Nat := (marks.head?.map Prod.fst).getD 0

/-- The newest state whose offset is at or before `cut`. -/
def Marks.newest (marks : Marks) (cut : Nat) : Option CloudLinkSpoolState :=
  ((marks.filter fun mark => mark.1 ≤ cut).getLast?).map Prod.snd

/-- A journal reached by successful operations, with its marks since the last compaction. -/
inductive History (path : String) (codec : Codec JournalEntry) : FileSpool → Marks → Prop where
  | created {streamId : String} {capacity : UInt64} {io : IoOutcome} {file : List UInt8}
      {spool : FileSpool}
      (done : openSpool path codec [] streamId capacity io = (file, .ok spool)) :
      History path codec spool [spool.mark]
  | called {spool after : FileSpool} {marks : Marks} {io : IoOutcome} {call : SpoolCall}
      {reply : CloudLinkSpoolState.SpoolReply} (history : History path codec spool marks)
      (ready : ¬ spool.Due) (done : spool.call path codec io call = (after, .ok reply)) :
      History path codec after (marks.extend spool after)
  | compacted {spool after : FileSpool} {marks : Marks} {outcome : CompactOutcome}
      (history : History path codec spool marks)
      (done : spool.compactLocked codec outcome = (after, .ok ())) :
      History path codec after [after.mark]
  | reopened {spool after : FileSpool} {marks : Marks} {streamId : String} {capacity : UInt64}
      {outcome : AppendOutcome} {file : List UInt8} (history : History path codec spool marks)
      (done : openJournal path codec spool.file streamId capacity outcome = (file, .ok after)) :
      History path codec after (marks.extend spool after)

/-- A call that has to compact first is a compaction followed by the call. -/
theorem History.call {call : SpoolCall} (history : History path codec spool marks)
    (done : spool.call path codec io call = (after, .ok reply)) :
    ∃ marks, History path codec after marks := by
  by_cases due : spool.Due
  · rw [call_eq_mutate, mutate, if_pos due] at done
    split at done
    · cases done
    · rename_i fresh compaction
      have ready : ¬ fresh.Due := by
        simp [FileSpool.Due, (compactLocked_eq_ok compaction).2.2, compactAfterMutations]
      have again : fresh.call path codec io call = (after, .ok reply) := by
        rw [call_eq_mutate, mutate, if_neg ready]
        exact done
      exact ⟨_, (history.compacted compaction).called ready again⟩
  · exact ⟨_, history.called due done⟩

/-- Opening a journal again, with the compaction that may end it. -/
theorem History.openSpool {streamId : String} {capacity : UInt64}
    (history : History path codec spool marks)
    (done : openSpool path codec spool.file streamId capacity io = (file, .ok after)) :
    ∃ marks, History path codec after marks := by
  unfold FileSpool.openSpool at done
  split at done
  · cases done
  · rename_i journal
    split at done
    · split at done
      · cases done
      · rename_i compaction
        cases done
        exact ⟨_, (history.reopened journal).compacted compaction⟩
    · cases done
      exact ⟨_, history.reopened journal⟩

/-- The journal is sound, and every cut after the compacted section recovers the newest mark. -/
structure Recoverable (path : String) (codec : Codec JournalEntry) (spool : FileSpool)
    (marks : Marks) : Prop where
  journals : ∃ mutations, Journals path codec spool.file spool.state mutations
  marked : marks ≠ []
  cut : ∀ cut, marks.compactedEnd ≤ cut → ∃ state mutations repaired,
    marks.newest cut = some state ∧
      recover path codec (spool.file.take cut) = .ok (state, mutations, repaired)

theorem recover_whole (sound : Journals path codec file state mutations) :
    recover path codec file = .ok (state, mutations, file) := by
  simpa using recover_journals sound (entryFraming path).torn_nil

namespace Recoverable

variable {entry : JournalEntry} {streamId : String} {capacity : UInt64} {outcome : AppendOutcome}

theorem compacted (sound : Journals path codec after.file after.state mutations) :
    Recoverable path codec after [after.mark] := by
  refine ⟨⟨mutations, sound⟩, by simp, fun cut kept => ?_⟩
  have whole : after.file.length ≤ cut := kept
  refine ⟨after.state, mutations, after.file, by simp [Marks.newest, mark, whole], ?_⟩
  rw [List.take_of_length_le whole]
  exact recover_whole sound

theorem validateOpen_eq_ok {next : CloudLinkSpoolState} {changed : Bool}
    (done : state.validateOpen streamId capacity = (next, .ok changed)) :
    streamId = state.streamId ∧ next = { state with capacity } ∧
      changed = (state.capacity != capacity) := by
  unfold validateOpen at done
  split at done
  · cases done
  · split at done
    · cases done
    · rename_i sameStream
      split at done
      · cases done
      · cases done
        exact ⟨(not_not.mp sameStream).symm, rfl, rfl⟩

theorem appendEntry_eq_ok {grown : List UInt8}
    (done : appendEntry path codec file entry outcome = (grown, .ok ())) :
    ∃ payload, Encodes codec entry payload ∧ grown = file ++ entryFrame payload := by
  unfold appendEntry at done
  cases outcome with
  | seekFailed => cases done
  | synced =>
    cases encoded : encodeEntry codec entry with
    | error =>
      rw [encoded] at done
      cases done
    | ok =>
      rw [encoded] at done
      cases done
      obtain ⟨payload, encodes, rfl⟩ := encodeEntry_eq_ok encoded
      exact ⟨payload, encodes, rfl⟩
  | writeFailed | syncFailed =>
    cases encoded : encodeEntry codec entry <;> rw [encoded] at done <;> cases done

theorem length_ne_zero_of_journals (sound : Journals path codec file state mutations) :
    file.length ≠ 0 := by
  obtain ⟨_, _, -, rfl, -⟩ := sound.recorded
  simp [journalMagic, utf8]

section

variable (recoverable : Recoverable path codec spool marks)

include recoverable

/-- Appending a mutation adds the one state that only the whole frame completes. -/
theorem appended {payload : List UInt8}
    (encodes : Encodes codec entry payload) (file : after.file = spool.file ++ entryFrame payload)
    (replays : Replays path spool.state entry after.state) (wellFormed : after.state.WellFormed) :
    Recoverable path codec after (marks.extend spool after) := by
  obtain ⟨mutations, sound⟩ := recoverable.journals
  have grown := sound.append encodes replays wellFormed
  have changed : after.file ≠ spool.file := by
    intro same
    have := congrArg List.length (file.symm.trans same)
    simp [length_entryFrame] at this
  have extended : marks.extend spool after = marks ++ [after.mark] := if_neg changed
  rw [← file] at grown
  rw [extended]
  refine ⟨⟨mutations + 1, grown⟩, by simp, fun cut kept => ?_⟩
  have kept : marks.compactedEnd ≤ cut := by
    cases marks with
    | nil => exact absurd rfl recoverable.marked
    | cons => exact kept
  by_cases whole : after.file.length ≤ cut
  · refine ⟨after.state, mutations + 1, after.file, ?_, ?_⟩
    · simp [Marks.newest, mark, whole, List.filter_append]
    · rw [List.take_of_length_le whole]
      exact recover_whole grown
  · have newest : Marks.newest (marks ++ [after.mark]) cut = marks.newest cut := by
      simp [Marks.newest, mark, whole, List.filter_append]
    obtain ⟨state, count, repaired, found, recovered⟩ := recoverable.cut cut kept
    rw [newest]
    by_cases inside : cut ≤ spool.file.length
    · refine ⟨state, count, repaired, found, ?_⟩
      rw [file, List.take_append_of_le_length inside]
      exact recovered
    · rw [List.take_of_length_le (by omega), recover_whole sound] at recovered
      cases recovered
      refine ⟨spool.state, mutations, spool.file, found, ?_⟩
      have torn : (entryFraming path).Torn ((entryFrame payload).take
          (cut - spool.file.length)) := by
        refine (entryFraming path).torn_take encodes.2 ?_
        rw [file] at whole
        change _ < (entryFrame payload).length
        simp only [List.length_append] at whole
        omega
      rw [file, List.take_append, List.take_of_length_le (by omega)]
      exact recover_journals sound torn

theorem called {call : SpoolCall}
    {reply : CloudLinkSpoolState.SpoolReply} (ready : ¬ spool.Due)
    (done : spool.call path codec io call = (after, .ok reply)) :
    Recoverable path codec after (marks.extend spool after) := by
  obtain ⟨_, sound⟩ := recoverable.journals
  rw [call_eq_mutate, mutate, if_neg ready] at done
  have effect := commit_effect path codec sound.wellFormed call io.append
  rw [done] at effect
  cases effect with
  | unchanged =>
    rw [Marks.extend, if_pos rfl]
    exact recoverable
  | appended encodes _ _ wellFormed replays =>
    exact recoverable.appended encodes rfl replays wellFormed

/-- Adopting a configuration keeps a journal recoverable. -/
theorem reconfigured
    (done : spool.reconfigure path codec streamId capacity outcome = (file, .ok after)) :
    Recoverable path codec after (marks.extend spool after) := by
  obtain ⟨_, sound⟩ := recoverable.journals
  unfold reconfigure at done
  split at done
  · cases done
  · rename_i state validated
    cases done
    obtain ⟨-, same, unchanged⟩ := validateOpen_eq_ok validated
    obtain rfl : state = spool.state := by
      rw [same, ← bne_eq_false_iff_eq.mp unchanged.symm]
    rw [Marks.extend, if_pos rfl]
    exact recoverable
  · rename_i state validated
    split at done
    · cases done
    · rename_i appended
      cases done
      obtain ⟨_, encodes, rfl⟩ := appendEntry_eq_ok appended
      obtain ⟨rfl, -, -⟩ := validateOpen_eq_ok validated
      have performed : spool.state.perform (.validateOpen spool.state.streamId capacity) =
          (state, .ok (.changed true)) := by
        simp [perform, validated, Except.map]
      refine recoverable.appended encodes rfl ?_ (sound.wellFormed.of_ok performed)
      exact reperform_replays path (fun state => state.validateOpen state.streamId capacity)
        (fun _ => .ok ()) validated rfl

theorem reopened
    (done : openJournal path codec spool.file streamId capacity outcome =
      (file, .ok after)) : Recoverable path codec after (marks.extend spool after) := by
  obtain ⟨mutations, sound⟩ := recoverable.journals
  rw [openJournal, if_neg (length_ne_zero_of_journals sound), recover_whole sound] at done
  have same : Recoverable path codec ⟨spool.file, spool.state, mutations⟩ marks :=
    ⟨⟨mutations, sound⟩, recoverable.marked, recoverable.cut⟩
  exact same.reconfigured done

end

theorem created (done : openSpool path codec [] streamId capacity io = (file, .ok spool)) :
    Recoverable path codec spool [spool.mark] := by
  suffices ∃ mutations, Journals path codec spool.file spool.state mutations by
    obtain ⟨_, sound⟩ := this
    exact compacted sound
  unfold openSpool openJournal at done
  rw [if_pos List.length_nil] at done
  cases fresh : new streamId capacity with
  | error => simp [fresh] at done
  | ok state =>
    cases written : writeCompactedJournal codec state with
    | error => simp [fresh, written] at done
    | ok initial =>
      have base : Recoverable path codec ⟨initial, state, 0⟩ [(initial.length, state)] :=
        compacted (Journals.compacted path (new_wellFormed fresh) written)
      simp only [fresh, written] at done
      split at done
      · cases done
      · rename_i reconfigured
        have kept := base.reconfigured reconfigured
        split at done
        · split at done
          · cases done
          · rename_i compaction
            cases done
            obtain ⟨_, sound⟩ := kept.journals
            obtain ⟨written, same, -⟩ := compactLocked_eq_ok compaction
            exact ⟨0, same ▸ Journals.compacted path sound.wellFormed written⟩
        · cases done
          exact kept.journals

end Recoverable

theorem History.recoverable (history : History path codec spool marks) :
    Recoverable path codec spool marks := by
  induction history with
  | created done => exact .created done
  | called _ ready done ih => exact ih.called ready done
  | compacted _ done ih =>
    obtain ⟨_, sound⟩ := ih.journals
    obtain ⟨written, same, -⟩ := compactLocked_eq_ok done
    exact .compacted (same ▸ Journals.compacted path sound.wellFormed written)
  | reopened _ done ih => exact ih.reopened done

theorem validated_of_finish {recovery : Recovery} {kept : List UInt8}
    (finished : recovery.finish path kept = .ok (state, mutations, repaired)) :
    validateRecoveredState path state = .ok () := by
  unfold Recovery.finish at finished
  split at finished
  · cases finished
  · split at finished
    · cases finished
    · rename_i accepted
      cases finished
      exact accepted

theorem validated_of_recover
    (recovered : recover path codec file = .ok (state, mutations, repaired)) :
    validateRecoveredState path state = .ok () := by
  simp only [recover, Attempt.refuse_eq_ok] at recovered
  obtain ⟨-, -, recovered⟩ := recovered
  split at recovered
  · cases recovered
  · exact validated_of_finish recovered

/-- However a journal that was written by successful operations is cut after its last compacted
section, recovery returns the newest state that the kept bytes complete, and accepts it. -/
theorem cut_journal_recovers_newest {spool : FileSpool} {marks : Marks}
    (history : History path codec spool marks) (cut : Nat) (kept : marks.compactedEnd ≤ cut) :
    ∃ state mutations repaired, marks.newest cut = some state ∧
      recover path codec (spool.file.take cut) = .ok (state, mutations, repaired) ∧
      validateRecoveredState path state = .ok () := by
  obtain ⟨state, mutations, repaired, newest, recovered⟩ := history.recoverable.cut cut kept
  exact ⟨state, mutations, repaired, newest, recovered, validated_of_recover recovered⟩

section Sample

open CloudLinkSpoolState

/-- The JSON text of the checkpoint of a fresh single-slot spool. -/
def checkpointText : List UInt8 :=
  utf8 ("\x7b\"operation\":\"checkpoint\",\"stream_id\":\"telemetry\",\"stream_epoch\":1," ++
    "\"next_position\":1,\"capacity\":1,\"last_ack\":null," ++
    "\"last_acknowledged_position\":0,\"data_loss\":null\x7d")

/-- The JSON text of the mutation that stores the first batch. -/
def enqueuedText : List UInt8 :=
  utf8 ("\x7b\"operation\":\"enqueued\",\"record\":\x7b\"identity\":\x7b" ++
    "\"stream_id\":\"telemetry\",\"stream_epoch\":1,\"position\":1\x7d," ++
    "\"message_kind\":\"telemetry-batch\",\"batch_id\":\"even\",\"digest\":\"sha256:" ++
    "0000000000000000000000000000000000000000000000000000000000000000\"," ++
    "\"payload\":[123,125],\"created_at_ms\":0,\"expires_at_ms\":null,\"state\":\"queued\"," ++
    "\"offered_session\":null\x7d,\"next_position\":2,\"data_loss\":null\x7d")

/-- The mutation that stores the first batch. -/
def enqueuedEntry : JournalEntry :=
  .enqueued (singleSlot.nextRecord (alternatingBatch 0)) 2 none

/-- A codec that writes the two mutations as their JSON texts. -/
def sampleCodec : Codec JournalEntry :=
  .ofTable [(checkpoint singleSlot, checkpointText), (enqueuedEntry, enqueuedText)]
    (by decide +kernel)

theorem encodes_checkpointText : Encodes sampleCodec (checkpoint singleSlot) checkpointText :=
  ⟨by decide +kernel, by decide +kernel, by decide +kernel⟩

theorem encodes_enqueuedText : Encodes sampleCodec enqueuedEntry enqueuedText :=
  ⟨by decide +kernel, by decide +kernel, by decide +kernel⟩

/-- The freshly created journal. -/
def sampleSpool : FileSpool where
  file := journalMagic ++ entryFrame checkpointText
  state := singleSlot
  mutationsSinceCompaction := 0

/-- The journal after the first batch has been stored. -/
def enqueuedSpool : FileSpool where
  file := sampleSpool.file ++ entryFrame enqueuedText
  state := singleSlot.stored 2 (alternatingBatch 0)
  mutationsSinceCompaction := 1

theorem openSpool_sample (path : String) : openSpool path sampleCodec [] "telemetry" 1 .success =
      (sampleSpool.file, .ok sampleSpool) := by
  have written : writeCompactedJournal sampleCodec singleSlot = .ok sampleSpool.file := by
    have encoded := encodeEntry_of_encodes encodes_checkpointText
    have entries : compactedEntries singleSlot = [checkpoint singleSlot] := rfl
    simp only [writeCompactedJournal, entries, List.mapM_cons, List.mapM_nil, encoded]
    change Except.ok (journalMagic ++ (entryFrame checkpointText ++ [])) = _
    rw [List.append_nil]
    rfl
  simp only [openSpool, openJournal, List.length_nil, if_true, new_singleSlot, written]
  rfl

theorem operation_enqueue_sample : operation (.enqueue (alternatingBatch 0)) singleSlot =
      (singleSlot.stored 2 (alternatingBatch 0),
        .ok (.record (singleSlot.nextRecord (alternatingBatch 0)), enqueuedEntry)) := by
  have fresh : singleSlot.FreshBatch (alternatingBatch 0) := by
    intro _ _ found
    simp [singleSlot] at found
  have stored : singleSlot.enqueue (alternatingBatch 0) =
      (singleSlot.stored 2 (alternatingBatch 0), .ok (singleSlot.nextRecord (alternatingBatch 0))) :=
    enqueue_appended (alternatingBatch_valid 0) fresh (by decide) (by decide)
  simp only [operation, stored]
  rfl

theorem call_enqueue_sample (path : String) :
    sampleSpool.call path sampleCodec .success (.enqueue (alternatingBatch 0)) =
      (enqueuedSpool, .ok (.record (singleSlot.nextRecord (alternatingBatch 0)))) :=
  call_journalled (by decide) operation_enqueue_sample (by decide) encodes_enqueuedText .success

/-- A journal cut one byte before the end of its only mutation recovers the fresh spool. -/
theorem cut_journal_recovers_newest_sample :
    History "spool" sampleCodec enqueuedSpool [sampleSpool.mark, enqueuedSpool.mark] ∧
      Marks.compactedEnd [sampleSpool.mark, enqueuedSpool.mark] ≤ enqueuedSpool.file.length - 1 ∧
      ∃ state mutations repaired,
        Marks.newest [sampleSpool.mark, enqueuedSpool.mark] (enqueuedSpool.file.length - 1) =
          some state ∧
        recover "spool" sampleCodec (enqueuedSpool.file.take (enqueuedSpool.file.length - 1)) =
          .ok (state, mutations, repaired) ∧
        validateRecoveredState "spool" state = .ok () := by
  have created : History "spool" sampleCodec sampleSpool [sampleSpool.mark] :=
    .created (openSpool_sample "spool")
  have longer : enqueuedSpool.file ≠ sampleSpool.file := by
    intro same
    have := congrArg List.length same
    simp [enqueuedSpool, length_entryFrame] at this
  have history : History "spool" sampleCodec enqueuedSpool
      [sampleSpool.mark, enqueuedSpool.mark] := by
    have called := created.called (by decide) (call_enqueue_sample "spool")
    rwa [Marks.extend, if_neg longer] at called
  have kept : Marks.compactedEnd [sampleSpool.mark, enqueuedSpool.mark] ≤
      enqueuedSpool.file.length - 1 := by
    change sampleSpool.file.length ≤ _
    simp only [enqueuedSpool, List.length_append, length_entryFrame]
    omega
  exact ⟨history, kept, cut_journal_recovers_newest history _ kept⟩

end Sample

end AetherIot.CloudLink
