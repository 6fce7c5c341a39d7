import AetherIot.CloudLink.SpoolHistory

/-!
# Journals with failed appends

A failed append leaves the bytes it wrote at the end of the journal, and the spool does not take
them back.  As long as no mutation is appended behind such bytes, and no append fails after writing
its whole frame, the journal recovers to the state of the calls that succeeded.
-/

namespace AetherIot.CloudLink

open MachineText OrderedMap Bytes FramedLog GuardedRun CloudLinkSpoolState

/-- One call with the outcomes of its file operations, or an explicit compaction. -/
inductive SpoolEvent where
  | call (call : SpoolCall) (io : IoOutcome)
  | compact (outcome : CompactOutcome)
  deriving DecidableEq

namespace FileSpool

variable (path : String) (codec : Codec JournalEntry) (spool : FileSpool)

/-- The spool after an event, whether or not it succeeded. -/
def after : SpoolEvent → FileSpool
  | .call call io => (spool.call path codec io call).1
  | .compact outcome => (spool.compactLocked codec outcome).1

/-- The operation of a call that returned successfully. -/
def succeeded : SpoolEvent → List CloudLinkSpoolState.SpoolOperation
  | .call call io =>
    match (spool.call path codec io call).2 with
    | .ok _ => [call.toOperation]
    | .error _ => []
  | .compact _ => []

/-- The operations of the calls of a run that returned successfully, in order. -/
def successes (spool : FileSpool) : List SpoolEvent → List CloudLinkSpoolState.SpoolOperation
  | [] => []
  | event :: events =>
    spool.succeeded path codec event ++ (spool.after path codec event).successes events

/-- Recovery at every point of the run gives the state of the successful calls. -/
def Durable (initial : FileSpool) (events : List SpoolEvent) : Prop :=
  ∀ front back, events = front ++ back → ∃ mutations repaired,
      recover path codec (run (after path codec) initial front).file =
        .ok (run step initial.state (initial.successes path codec front),
          mutations, repaired)

/-- The journal ends with a complete frame. -/
def Intact (file : List UInt8) : Prop :=
  ∃ payloads : List (List UInt8), (∀ payload ∈ payloads, FramedPayload payload) ∧
    file = journalMagic ++ (payloads.map entryFrame).flatten

/-- The spool on which a call performs its operation, unless its compaction fails. -/
def prepared (io : IoOutcome) : Option FileSpool :=
  if spool.Due then
    match spool.compactLocked codec io.compaction with
    | (_, .error _) => none
    | (compacted, .ok ()) => some compacted
  else some spool

/-- Nothing is written behind the bytes of a failed append, and an append that fails has not
written its whole frame. -/
def SafeAppend : SpoolEvent → Prop
  | .compact _ => True
  | .call call io =>
    ∀ ready bytes, spool.prepared codec io = some ready →
      pendingFrame codec ready call = some bytes → io.append.written bytes = [] ∨
          Intact ready.file ∧ (io.append = .synced ∨ io.append.written bytes ≠ bytes)

end FileSpool

open FileSpool

variable {path : String} {codec : Codec JournalEntry}

/-- A sound journal of the current state, followed by the bytes of an unfinished append. -/
structure Resumable (path : String) (codec : Codec JournalEntry) (spool : FileSpool) : Prop where
  split : ∃ sound residue mutations, spool.file = sound ++ residue ∧
    Journals path codec sound spool.state mutations ∧ (entryFraming path).Torn residue

namespace Resumable

variable {spool : FileSpool} {mutations : Nat}

theorem of_journals (sound : Journals path codec spool.file spool.state mutations) :
    Resumable path codec spool :=
  ⟨spool.file, [], mutations, by simp, sound, (entryFraming path).torn_nil⟩

/-- Bytes of a frame that is not completed may follow a sound journal. -/
theorem interrupted (sound : Journals path codec spool.file spool.state mutations)
    {payload written : List UInt8} (framed : FramedPayload payload)
    (isPart : written <+: entryFrame payload) (proper : written ≠ entryFrame payload) :
    Resumable path codec { spool with file := spool.file ++ written } :=
  ⟨spool.file, written, mutations, rfl, sound, .inr ⟨payload, framed, isPart, proper⟩⟩

section

variable (resumable : Resumable path codec spool)

include resumable

theorem wellFormed : spool.state.WellFormed := by
  obtain ⟨_, _, _, _, sound, _⟩ := resumable.split
  exact sound.wellFormed

theorem recovers : ∃ mutations repaired,
      recover path codec spool.file = .ok (spool.state, mutations, repaired) := by
  obtain ⟨sound, _, mutations, file, journals, torn⟩ := resumable.split
  exact ⟨mutations, sound, file ▸ recover_journals journals torn⟩

theorem journals_of_intact
    (intact : FileSpool.Intact spool.file) :
    ∃ mutations, Journals path codec spool.file spool.state mutations := by
  obtain ⟨_, residue, mutations, file, journals, torn⟩ := resumable.split
  obtain ⟨whole, wholes, ends⟩ := intact
  obtain ⟨payloads, _, framed, rfl, -⟩ := journals.recorded
  have same : (entryFraming path).log payloads ++ residue = (entryFraming path).log whole := by
    rw [file, List.append_assoc] at ends
    exact List.append_cancel_left ends
  obtain rfl := (entryFraming path).torn_eq_nil framed wholes torn same
  rw [file, List.append_nil]
  exact ⟨mutations, journals⟩

theorem compacted (outcome : CompactOutcome) :
    Resumable path codec (spool.compactLocked codec outcome).1 ∧
      (spool.compactLocked codec outcome).1.state = spool.state := by
  unfold compactLocked
  split
  · exact ⟨resumable, rfl⟩
  · rename_i file written
    have sound : Journals path codec file spool.state 0 :=
      .compacted path resumable.wellFormed written
    cases outcome with
    | abandoned => exact ⟨resumable, rfl⟩
    | committed | unsynced => exact ⟨of_journals sound, rfl⟩

end

end Resumable

theorem written_isPart (outcome : AppendOutcome) (bytes : List UInt8) :
    outcome.written bytes <+: bytes := by
  cases outcome with
  | synced | syncFailed => exact List.prefix_rfl
  | seekFailed => exact List.nil_prefix
  | writeFailed => exact List.take_prefix _ _

namespace Resumable

variable {spool : FileSpool}

/-- A safe append keeps the journal resumable, and changes the state exactly when it succeeds. -/
theorem committed (resumable : Resumable path codec spool) (call : SpoolCall)
    (outcome : AppendOutcome)
    (safe : ∀ bytes, pendingFrame codec spool call = some bytes → outcome.written bytes = [] ∨
        FileSpool.Intact spool.file ∧ (outcome = .synced ∨ outcome.written bytes ≠ bytes)) :
    Resumable path codec (spool.commit path codec outcome call.operation).1 ∧
      (spool.commit path codec outcome call.operation).1.state =
        match (spool.commit path codec outcome call.operation).2 with
        | .ok _ => spool.state.step call.toOperation
        | .error _ => spool.state := by
  have effect := commit_effect path codec resumable.wellFormed call outcome
  generalize spool.commit path codec outcome call.operation = result at effect ⊢
  cases effect with
  | rejected => exact ⟨resumable, rfl⟩
  | unchanged performed =>
    exact ⟨resumable, by simp [step, performed]⟩
  | @interrupted _ _ framed pending failed =>
    refine ⟨?_, rfl⟩
    rcases safe _ pending with nothing | ⟨intact, synced | proper⟩
    · rw [nothing, List.append_nil]
      exact resumable
    · exact absurd synced failed
    · obtain ⟨_, sound⟩ := resumable.journals_of_intact intact
      exact interrupted sound framed (written_isPart outcome _) proper
  | @appended _ payload _ _ encodes pending synced wellFormed replays performed =>
    refine ⟨?_, by simp [step, performed]⟩
    have nonempty : outcome.written (entryFrame payload) ≠ [] := by
      rw [synced]
      exact (entryFraming path).frame_ne_nil payload
    obtain ⟨intact, -⟩ := (safe _ pending).resolve_left nonempty
    obtain ⟨_, sound⟩ := resumable.journals_of_intact intact
    exact of_journals (sound.append encodes replays wellFormed)

theorem called (resumable : Resumable path codec spool) (call : SpoolCall) (io : IoOutcome)
    (safe : spool.SafeAppend codec (.call call io)) :
    Resumable path codec (spool.call path codec io call).1 ∧
      (spool.call path codec io call).1.state = match (spool.call path codec io call).2 with
        | .ok _ => spool.state.step call.toOperation
        | .error _ => spool.state := by
  simp only [FileSpool.SafeAppend, prepared] at safe
  rw [SpoolCall.call_eq_mutate, mutate]
  obtain ⟨kept, same⟩ := resumable.compacted io.compaction
  split
  · rename_i due
    rw [if_pos due] at safe
    rcases compaction : spool.compactLocked codec io.compaction with ⟨fresh, _ | _⟩
    · rw [compaction] at kept same
      exact ⟨kept, same⟩
    · rw [compaction] at kept same safe
      rw [← show fresh.state = spool.state from same]
      exact kept.committed call io.append fun bytes => safe fresh bytes rfl
  · rename_i ready
    rw [if_neg ready] at safe
    exact resumable.committed call io.append (fun bytes => safe spool bytes rfl)

/-- A safe event keeps the journal resumable and performs the successful operation. -/
theorem step (resumable : Resumable path codec spool) {event : SpoolEvent}
    (safe : spool.SafeAppend codec event) :
    Resumable path codec (spool.after path codec event) ∧ (spool.after path codec event).state =
        run step spool.state (spool.succeeded path codec event) := by
  cases event with
  | compact outcome => exact resumable.compacted outcome
  | call call io =>
    obtain ⟨kept, state⟩ := resumable.called call io safe
    refine ⟨kept, ?_⟩
    simp only [after, succeeded, state]
    split <;> rfl

theorem run {initial : FileSpool} (resumable : Resumable path codec initial)
    {events : List SpoolEvent}
    (guarded : Guarded (after path codec) (FileSpool.SafeAppend codec) initial events) :
    Resumable path codec (GuardedRun.run (after path codec) initial events) ∧
      (GuardedRun.run (after path codec) initial events).state =
        GuardedRun.run CloudLinkSpoolState.step initial.state
          (initial.successes path codec events) := by
  induction events generalizing initial with
  | nil => exact ⟨resumable, rfl⟩
  | cons _ _ ih =>
    obtain ⟨kept, state⟩ := resumable.step guarded.1
    obtain ⟨later, final⟩ := ih kept guarded.2
    refine ⟨later, ?_⟩
    rw [run_cons, final, state, successes, run_append]

end Resumable

/-- A run whose appends are all safe recovers, at every point, to the state of the calls that
returned successfully. -/
theorem failed_appends_stay_recoverable {streamId : String} {capacity : UInt64} {io : IoOutcome}
    {file : List UInt8} {initial : FileSpool}
    (created : openSpool path codec [] streamId capacity io = (file, .ok initial))
    {events : List SpoolEvent}
    (guarded : Guarded (after path codec) (FileSpool.SafeAppend codec) initial events) :
    FileSpool.Durable path codec initial events := by
  rintro _ _ rfl
  obtain ⟨_, sound⟩ := (Recoverable.created created).journals
  obtain ⟨resumable, state⟩ := (Resumable.of_journals sound).run (guarded_append.mp guarded).1
  rw [← state]
  exact resumable.recovers

section Sample

open CloudLinkSpoolState

/-- The first batch, with an append that stops after ten bytes. -/
def interruptedRun : List SpoolEvent :=
  [.call (.enqueue (alternatingBatch 0)) ⟨.committed, .writeFailed 10 "no space"⟩]

/-- The first batch, with an append that fails to synchronise, and the same batch again. -/
def retriedRun : List SpoolEvent :=
  [.call (.enqueue (alternatingBatch 0)) ⟨.committed, .syncFailed "input/output error"⟩,
    .call (.enqueue (alternatingBatch 0)) .success]

theorem pendingFrame_sampleSpool :
    pendingFrame sampleCodec sampleSpool (.enqueue (alternatingBatch 0)) =
      some (entryFrame enqueuedText) := by
  have encoded := encodeEntry_of_encodes encodes_enqueuedText
  have performed : SpoolCall.operation (.enqueue (alternatingBatch 0)) sampleSpool.state = _ :=
    operation_enqueue_sample
  have changed : singleSlot.stored 2 (alternatingBatch 0) ≠ sampleSpool.state := by decide
  simp [pendingFrame, performed, changed, encoded, Except.toOption]

/-- An append that stops in the middle of its frame is cut off by recovery. -/
theorem failed_appends_stay_recoverable_interrupted :
    openSpool "spool" sampleCodec [] "telemetry" 1 .success = (sampleSpool.file, .ok sampleSpool) ∧
      FileSpool.Durable "spool" sampleCodec sampleSpool interruptedRun := by
  refine ⟨openSpool_sample "spool", failed_appends_stay_recoverable (openSpool_sample "spool") ?_⟩
  refine ⟨?_, trivial⟩
  rintro ready _ prepared pending
  obtain rfl : sampleSpool = ready := Option.some.inj prepared
  rw [pendingFrame_sampleSpool] at pending
  cases pending
  have intact : FileSpool.Intact sampleSpool.file :=
    ⟨[checkpointText], by simp [encodes_checkpointText.2], by simp [sampleSpool]⟩
  refine .inr ⟨intact, .inr fun whole => ?_⟩
  have long : 10 ≤ enqueuedText.length := by decide +kernel
  have short : ((entryFrame enqueuedText).take 10).length = (entryFrame enqueuedText).length :=
    congrArg List.length whole
  rw [List.length_take, length_entryFrame] at short
  omega

/-- The failed call keeps its whole frame in the journal, and the retry appends it again. -/
theorem file_retriedRun (path : String) :
    (run (after path sampleCodec) sampleSpool retriedRun).file =
      sampleSpool.file ++ entryFrame enqueuedText ++ entryFrame enqueuedText := by
  have failed : sampleSpool.after path sampleCodec
      (.call (.enqueue (alternatingBatch 0)) ⟨.committed, .syncFailed "input/output error"⟩) =
        { sampleSpool with file := sampleSpool.file ++ entryFrame enqueuedText } := by
    rw [after, call_journalled (by decide) operation_enqueue_sample (by decide)
      encodes_enqueuedText]
    rfl
  rw [retriedRun, run_cons, run_cons, run_nil, failed, after, call_journalled (by decide)
    operation_enqueue_sample (by decide) encodes_enqueuedText]
  rfl

/-- Replaying the mutation a second time finds the wrong position. -/
theorem applyEntry_twice (path : String) :
    [checkpoint singleSlot, enqueuedEntry, enqueuedEntry].foldlM (applyEntry path)
        ⟨none, 0, false⟩ =
      .error (corrupt path "enqueue mutation position or state is inconsistent") := by
  rfl

/-- A batch that is retried after its append failed to synchronise makes the journal
unrecoverable, although the retry succeeds. -/
theorem retried_append_corrupts : openSpool "spool" sampleCodec [] "telemetry" 1 .success =
        (sampleSpool.file, .ok sampleSpool) ∧
      recover "spool" sampleCodec (run (after "spool" sampleCodec) sampleSpool retriedRun).file =
        .error (corrupt "spool" "enqueue mutation position or state is inconsistent") ∧
      ¬ FileSpool.Durable "spool" sampleCodec sampleSpool retriedRun := by
  have encodes : List.Forall₂ (Encodes sampleCodec)
      [checkpoint singleSlot, enqueuedEntry, enqueuedEntry]
      [checkpointText, enqueuedText, enqueuedText] :=
    .cons encodes_checkpointText (.cons encodes_enqueuedText (.cons encodes_enqueuedText .nil))
  have framed : ∀ payload ∈ [checkpointText, enqueuedText, enqueuedText],
      FramedPayload payload := by
    simp [encodes_checkpointText.2, encodes_enqueuedText.2]
  have rejected : recover "spool" sampleCodec
      (run (after "spool" sampleCodec) sampleSpool retriedRun).file =
        .error (corrupt "spool" "enqueue mutation position or state is inconsistent") := by
    have recovered := recover_log "spool" sampleCodec framed (entryFraming "spool").torn_nil
    rw [foldlM_encodes "spool" encodes, applyEntry_twice, List.append_nil] at recovered
    have layout : sampleSpool.file ++ entryFrame enqueuedText ++ entryFrame enqueuedText =
        journalMagic ++
          (entryFraming "spool").log [checkpointText, enqueuedText, enqueuedText] := by
      simp [sampleSpool, Framing.log, entryFraming]
    rw [file_retriedRun, layout, recovered]
    rfl
  refine ⟨openSpool_sample "spool", rejected, fun durable => ?_⟩
  obtain ⟨_, _, recovered⟩ := durable retriedRun [] (by simp)
  rw [rejected] at recovered
  cases recovered

end Sample

end AetherIot.CloudLink
