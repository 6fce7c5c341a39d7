import AetherIot.CloudLink.SpoolHistory

/-!
# Failed requests

The memory spool works on its state in place, the file spool on a copy that replaces its state only
after a success.  The two agree exactly if a failed request leaves the state alone.
-/

namespace AetherIot.CloudLink

open MachineText OrderedMap Bytes FramedLog

/-- The requests of the port that may fail. -/
inductive SpoolRequest where
  | mutation (call : SpoolCall)
  | replayFrom (requestedPosition : UInt64) (limit : Nat)

inductive SpoolAnswer where
  | reply (reply : CloudLinkSpoolState.SpoolReply)
  | window (window : CloudLinkReplayWindow)

namespace MemoryCloudLinkSpool

/-- Serve a request in place. -/
def request (state : CloudLinkSpoolState) :
    SpoolRequest → CloudLinkSpoolState × Except CloudLinkSpoolError SpoolAnswer
  | .mutation call => (state.perform call.toOperation).map id (Except.map .reply)
  | .replayFrom requestedPosition limit =>
    (state, (state.replayFrom requestedPosition limit).map .window)

end MemoryCloudLinkSpool

/-- Serve a request on a copy. -/
def FileSpool.request (path : String) (codec : Codec JournalEntry) (spool : FileSpool)
    (io : IoOutcome) : SpoolRequest → FileSpool × Except CloudLinkSpoolError SpoolAnswer
  | .mutation call => (spool.call path codec io call).map id (Except.map .reply)
  | .replayFrom requestedPosition limit =>
    (spool, (spool.state.replayFrom requestedPosition limit).map .window)

/-- The request evicts a record for a position that can no longer be allocated. -/
def SpoolRequest.Exhausts (state : CloudLinkSpoolState) : SpoolRequest → Prop
  | .mutation call => state.Exhausts call.toOperation
  | .replayFrom _ _ => False

namespace CloudLinkSpoolState

variable {state : CloudLinkSpoolState} {operation : SpoolOperation}

theorem perform_error_keeps (guard : ¬ state.Exhausts operation) {failure : CloudLinkSpoolError}
    (failed : (state.perform operation).2 = .error failure) :
    (state.perform operation).1 = state := by
  have effect := perform_effect state operation
  generalize state.perform operation = outcome at effect failed
  cases effect with
  | rejected => rfl
  | exhausted _ stuck => exact absurd stuck guard
  | repeated | appended | displaced | marked | duplicate | applied | rotated | resized =>
    cases failed

/-- An exhausted eviction fails after it has removed a record. -/
theorem Consistent.exhausted_changes (consistent : state.Consistent)
    (exhausts : state.Exhausts operation) :
    (∃ failure, (state.perform operation).2 = .error failure) ∧
      (state.perform operation).1 ≠ state := by
  cases operation with
  | enqueue =>
    obtain ⟨position, oldest, evicted⟩ := consistent.exhausts_evicts exhausts
    obtain ⟨valid, fresh, full, overflow⟩ := exhausts
    have absent := freshBatch_iff.mp fresh
    have exhausted := checkedAdd_one_eq_none.mpr overflow
    refine ⟨⟨⟨.storage, "CloudLink stream position exhausted uint64"⟩, ?_⟩, fun kept => ?_⟩
    · simp [perform, enqueue, valid, absent, full, oldest, allocate, exhausted, Except.map]
    · have retained : position ∈ state.records := (firstKey_eq_some_iff.mp oldest).1
      have records : state.records.erase position = state.records :=
        congrArg CloudLinkSpoolState.records (evicted.symm.trans kept)
      rw [← records] at retained
      exact absurd retained (by simp)
  | markOffered | markTransportPublished | acknowledge | rotateStreamEpoch | validateOpen =>
    exact exhausts.elim

end CloudLinkSpoolState

open CloudLinkSpoolState

section

variable {path : String} {codec : Codec JournalEntry} {spool : FileSpool} {call : SpoolCall}

/-- The file spool keeps its state, or takes that of a successful operation. -/
inductive CopyEffect (spool : FileSpool) (call : SpoolCall) :
    FileSpool × Except CloudLinkSpoolError CloudLinkSpoolState.SpoolReply → Prop where
  | failed {after : FileSpool} {failure : CloudLinkSpoolError} (kept : after.state = spool.state) :
      CopyEffect spool call (after, .error failure)
  | replaced {after : FileSpool} {reply : CloudLinkSpoolState.SpoolReply}
      (performed : spool.state.perform call.toOperation = (after.state, .ok reply)) :
      CopyEffect spool call (after, .ok reply)

section

variable (path) (codec) (spool) (call)

theorem commit_copyEffect (outcome : AppendOutcome) :
    CopyEffect spool call (spool.commit path codec outcome call.operation) := by
  unfold FileSpool.commit
  rcases performed : call.operation spool.state with ⟨next, _ | ⟨_, _⟩⟩
  · exact .failed rfl
  · have done := SpoolCall.perform_of_operation performed
    simp only
    split_ifs with changed
    · split
      · exact .failed rfl
      · exact .replaced done
    · obtain rfl : next = spool.state := not_not.mp changed
      exact .replaced done

theorem compactLocked_state (outcome : CompactOutcome) : (spool.compactLocked codec outcome).1.state = spool.state := by
  unfold FileSpool.compactLocked
  cases writeCompactedJournal codec spool.state with
  | error => rfl
  | ok => cases outcome <;> rfl

theorem call_copyEffect (io : IoOutcome) :
    CopyEffect spool call (spool.call path codec io call) := by
  rw [SpoolCall.call_eq_mutate, FileSpool.mutate]
  split
  · have kept := compactLocked_state codec spool io.compaction
    rcases compaction : spool.compactLocked codec io.compaction with ⟨compacted, _ | _⟩
    · rw [compaction] at kept
      exact .failed kept
    · rw [compaction] at kept
      have effect := commit_copyEffect path codec compacted call io.append
      dsimp only
      generalize compacted.commit path codec io.append call.operation = outcome at effect
      cases effect with
      | failed same => exact .failed (same.trans kept)
      | replaced performed =>
        rw [show compacted.state = spool.state from kept] at performed
        exact .replaced performed
  · exact commit_copyEffect path codec spool call io.append

end

end

section

variable {state : CloudLinkSpoolState} {path : String} {codec : Codec JournalEntry}
  {spool : FileSpool} {io : IoOutcome} {request : SpoolRequest} {failure : CloudLinkSpoolError}

theorem request_error_keeps_file
    (failed : (MemoryCloudLinkSpool.request spool.state request).2 = .error failure) :
    (spool.request path codec io request).1.state = spool.state := by
  cases request with
  | replayFrom => rfl
  | mutation call =>
    have effect := call_copyEffect path codec spool call io
    simp only [FileSpool.request, Prod.map_fst, id_eq]
    generalize spool.call path codec io call = outcome at effect
    cases effect with
    | failed kept => exact kept
    | replaced performed =>
      simp only [MemoryCloudLinkSpool.request, performed] at failed
      cases failed

theorem request_ok_replaces_file {answer : SpoolAnswer}
    (done : (spool.request path codec io request).2 = .ok answer) :
    (spool.request path codec io request).1.state =
      (MemoryCloudLinkSpool.request spool.state request).1 := by
  cases request with
  | replayFrom => rfl
  | mutation call =>
    have effect := call_copyEffect path codec spool call io
    simp only [FileSpool.request, MemoryCloudLinkSpool.request, Prod.map_fst, Prod.map_snd, id_eq]
      at done ⊢
    generalize spool.call path codec io call = outcome at effect done
    cases effect with
    | failed => cases done
    | replaced performed => rw [performed]

theorem request_error_keeps (guard : ¬ request.Exhausts state)
    (failed : (MemoryCloudLinkSpool.request state request).2 = .error failure) :
    (MemoryCloudLinkSpool.request state request).1 = state := by
  cases request with
  | replayFrom => rfl
  | mutation call =>
    simp only [MemoryCloudLinkSpool.request, Prod.map_snd] at failed
    cases performed : (state.perform call.toOperation).2 with
    | error => exact perform_error_keeps guard performed
    | ok =>
      rw [performed] at failed
      cases failed

theorem request_exhausted_changes (consistent : state.Consistent) (request : SpoolRequest)
    (exhausts : request.Exhausts state) :
    (∃ failure, (MemoryCloudLinkSpool.request state request).2 = .error failure) ∧
      (MemoryCloudLinkSpool.request state request).1 ≠ state := by
  cases request with
  | replayFrom => exact exhausts.elim
  | mutation =>
    obtain ⟨⟨failure, failed⟩, changed⟩ := consistent.exhausted_changes exhausts
    refine ⟨⟨failure, ?_⟩, changed⟩
    simp only [MemoryCloudLinkSpool.request, Prod.map_snd, failed]
    rfl

/-- A failed request leaves the state alone, and the two spools agree on the state after every
request that they answer alike, exactly if the request does not offer a new batch to a full spool
whose positions are exhausted. -/
theorem failed_request_atomic (consistent : state.Consistent) (request : SpoolRequest) :
    ((∀ failure, (MemoryCloudLinkSpool.request state request).2 = .error failure →
        (MemoryCloudLinkSpool.request state request).1 = state) ↔ ¬ request.Exhausts state) ∧
    ∀ (path : String) (codec : Codec JournalEntry) (spool : FileSpool) (io : IoOutcome),
      spool.state = state →
      (spool.request path codec io request).2 = (MemoryCloudLinkSpool.request state request).2 →
      ((spool.request path codec io request).1.state =
        (MemoryCloudLinkSpool.request state request).1 ↔ ¬ request.Exhausts state) := by
  refine ⟨⟨fun atomic exhausts => ?_, fun guard _ => request_error_keeps guard⟩, ?_⟩
  · obtain ⟨⟨failure, failed⟩, changed⟩ := request_exhausted_changes consistent request exhausts
    exact changed (atomic failure failed)
  · rintro _ _ spool _ rfl alike
    constructor
    · intro agree exhausts
      obtain ⟨⟨_, failed⟩, changed⟩ := request_exhausted_changes consistent request exhausts
      exact changed (agree.symm.trans (request_error_keeps_file failed))
    · intro guard
      cases answered : (MemoryCloudLinkSpool.request spool.state request).2 with
      | error =>
        rw [request_error_keeps guard answered, request_error_keeps_file answered]
      | ok => exact request_ok_replaces_file (alike.trans answered)

end

/-- A rotation is rejected while a record is pending. -/
theorem failed_request_atomic_rotation :
    let state := GuardedRun.run step .singleSlot (alternatingRun 1)
    state.Consistent ∧ (MemoryCloudLinkSpool.request state (.mutation .rotateStreamEpoch)).2 =
        .error ⟨.pendingRecords, "CloudLink stream epoch cannot rotate while records are pending"⟩ ∧
      (MemoryCloudLinkSpool.request state (.mutation .rotateStreamEpoch)).1 = state := by
  intro state
  have consistent := (wellFormed_alternatingRun 1 (by decide)).toConsistent
  have failed : (MemoryCloudLinkSpool.request state (.mutation .rotateStreamEpoch)).2 =
      .error ⟨.pendingRecords, "CloudLink stream epoch cannot rotate while records are pending"⟩ :=
    rfl
  refine ⟨consistent, failed, ?_⟩
  exact (failed_request_atomic consistent (.mutation .rotateStreamEpoch)).1.mpr not_false _ failed

/-- Alternating batches exhaust the positions of a spool with one slot.  The next batch is rejected;
the memory spool has lost its record, and the file spool retains it. -/
theorem failed_enqueue_loses_record :
    ∃ (earlier : List CloudLinkSpoolState.SpoolOperation) (request : SpoolRequest),
      let state := GuardedRun.run step .singleSlot earlier
      new "telemetry" 1 = .ok .singleSlot ∧ state.WellFormed ∧
        (∃ failure, (MemoryCloudLinkSpool.request state request).2 = .error failure) ∧
        (MemoryCloudLinkSpool.request state request).1 ≠ state ∧
        ∀ (path : String) (codec : Codec JournalEntry) (spool : FileSpool) (io : IoOutcome),
          spool.state = state → (spool.request path codec io request).1.state = state := by
  obtain ⟨earlier, operation, -, wellFormed, exhausts⟩ := alternatingRun_exhausts
  cases operation with
  | enqueue input =>
    obtain ⟨⟨failure, failed⟩, changed⟩ :=
      request_exhausted_changes wellFormed.toConsistent (.mutation (.enqueue input)) exhausts
    refine ⟨earlier, .mutation (.enqueue input), new_singleSlot, wellFormed,
      ⟨failure, failed⟩, changed, ?_⟩
    rintro _ _ _ _ same
    rw [← same] at failed ⊢
    exact request_error_keeps_file failed
  | markOffered | markTransportPublished | acknowledge | rotateStreamEpoch | validateOpen =>
    exact exhausts.elim

end AetherIot.CloudLink
