import AetherIot.Outbox.Recovery

/-!
# Crash consistency of the file outbox

A run of the outbox performs operations, reopens the journal and crashes during operations.  Its
observations follow a specification on the contents alone: an operation that succeeds is applied, a
failed one is not, opening changes nothing, and a crash applies the operation in flight or leaves it
out.
-/

namespace AetherIot.Outbox

open MachineText OrderedMap Bytes FramedLog

/-- A mutation of the outbox and how far its writes get. -/
inductive OutboxOperation where
  | enqueue (message : OutboxMessage) (outcome : AppendOutcome)
  | acknowledge (ids : List UInt64) (outcome : AppendOutcome)
  | compact (outcome : CompactOutcome)
  deriving DecidableEq

inductive Reply where
  | enqueued (id : UInt64)
  | acknowledged (count : Nat)
  | compacted
  | failed (failure : PortError)
  deriving DecidableEq

/-- The reply of a mutation that returns `result`. -/
def Reply.of {α : Type} (success : α → Reply) (result : Except PortError α) : Reply :=
  match result with
  | .ok value => success value
  | .error failure => .failed failure

def Journal.perform (journal : Journal) : OutboxOperation → Journal × Reply
  | .enqueue message outcome =>
    let (next, result) := journal.enqueue message outcome
    (next, .of .enqueued result)
  | .acknowledge ids outcome =>
    let (next, result) := journal.acknowledge ids outcome
    (next, .of .acknowledged result)
  | .compact outcome =>
    let (next, result) := journal.compact outcome
    (next, .of (fun () => .compacted) result)

namespace OutboxContents

/-- What a mutation is for: a new entry under the next identifier, or the removal of entries. -/
def apply (contents : OutboxContents) : OutboxOperation → Option OutboxContents
  | .enqueue message _ =>
    (checkedAdd contents.nextId 1).map fun nextId =>
      ⟨nextId, contents.entries.insert contents.nextId ⟨contents.nextId, message, 0⟩⟩
  | .acknowledge ids _ => some { contents with entries := removeAll contents.entries ids }
  | .compact _ => some contents

/-- The reply of a mutation that succeeds. -/
def reply (contents : OutboxContents) : OutboxOperation → Reply
  | .enqueue _ _ => .enqueued contents.nextId
  | .acknowledge ids _ => .acknowledged (contents.liveIds ids).length
  | .compact _ => .compacted

variable {contents after : OutboxContents} {operation : OutboxOperation}

theorem removeAll_liveIds (contents : OutboxContents) (ids : List UInt64) :
    removeAll contents.entries (contents.liveIds ids) = removeAll contents.entries ids := by
  apply Std.ExtTreeMap.ext_getElem?
  intro id
  simp only [getElem?_removeAll, liveIds, List.mem_filter, Std.ExtTreeMap.mem_keys,
    List.contains_iff_mem]
  by_cases live : id ∈ contents.entries
  · simp [live]
  · simp [live]

/-- Identifiers are never handed back. -/
theorem nextId_apply (applied : contents.apply operation = some after) :
    contents.nextId ≤ after.nextId := by
  cases operation with
  | enqueue =>
    obtain ⟨_, successor, rfl⟩ := Option.map_eq_some_iff.mp applied
    exact UInt64.le_of_lt (checkedAdd_one_eq_some.mp successor).1
  | acknowledge | compact =>
    cases applied
    exact UInt64.le_refl _

theorem Sound.apply (sound : contents.Sound) (applied : contents.apply operation = some after) :
    after.Sound := by
  cases operation with
  | enqueue =>
    obtain ⟨_, successor, rfl⟩ := Option.map_eq_some_iff.mp applied
    have above := (checkedAdd_one_eq_some.mp successor).1
    refine ⟨fun id entry present => ?_, fun id member => ?_, ?_⟩
    · rw [Std.ExtTreeMap.getElem?_insert] at present
      split at present
      · rename_i same
        cases present
        exact Std.compare_eq_iff_eq.mp same
      · exact sound.keyed id entry present
    · rw [Std.ExtTreeMap.mem_insert, Std.compare_eq_iff_eq] at member
      rcases member with rfl | earlier
      · exact above
      · exact UInt64.lt_trans (sound.below id earlier) above
    · exact UInt64.lt_trans sound.positive above
  | acknowledge ids =>
    cases applied
    have remaining : ∀ (id : UInt64) (entry : OutboxEntry),
        (removeAll contents.entries ids)[id]? = some entry →
          contents.entries[id]? = some entry := by
      intro id entry present
      rw [getElem?_removeAll] at present
      split at present
      · cases present
      · exact present
    refine ⟨fun id entry present => sound.keyed id entry (remaining id entry present),
      fun id member => sound.below id ?_, sound.positive⟩
    rw [Std.ExtTreeMap.mem_iff_isSome_getElem?, Option.isSome_iff_exists] at member ⊢
    obtain ⟨entry, present⟩ := member
    exact ⟨entry, remaining id entry present⟩
  | compact =>
    cases applied
    exact sound

end OutboxContents

/-- A failed append was truncated. -/
def AppendOutcome.RollsBack : AppendOutcome → Prop
  | .synced => True
  | .failed _ _ rolledBack => rolledBack = true

instance (outcome : AppendOutcome) : Decidable outcome.RollsBack :=
  match outcome with
  | .synced => isTrue trivial
  | .failed _ _ rolledBack => inferInstanceAs (Decidable (rolledBack = true))

def OutboxOperation.RollsBack : OutboxOperation → Prop
  | .enqueue _ outcome => outcome.RollsBack
  | .acknowledge _ outcome => outcome.RollsBack
  | .compact _ => True

/-- The journal after a mutation, and the reply.  Only an append that is not rolled back leaves the
file ahead of the contents. -/
inductive Effect (journal : Journal) (operation : OutboxOperation) : Journal × Reply → Prop
  | succeeded {file : List UInt8} {after : OutboxContents}
      (applied : journal.contents.apply operation = some after) (records : Records file after) :
      Effect journal operation
        ({ journal with file, contents := after }, journal.contents.reply operation)
  | refused {file : List UInt8} {poisoned : Option String} (failure : PortError)
      (records : Records file journal.contents) :
      Effect journal operation ({ journal with file, poisoned }, .failed failure)
  | torn {part : List UInt8} (failure : PortError) (kept : ¬ operation.RollsBack)
      (torn : recordFraming.Torn part) :
      Effect journal operation ({ journal with file := journal.file ++ part }, .failed failure)
  | unacknowledged {file : List UInt8} {after : OutboxContents} (failure : PortError)
      (kept : ¬ operation.RollsBack) (applied : journal.contents.apply operation = some after)
      (records : Records file after) :
      Effect journal operation ({ journal with file }, .failed failure)

variable {after before : OutboxContents} {id : UInt64} {event : OutboxEvent}

theorem Effect.append {journal : Journal} {operation : OutboxOperation} {payload : List UInt8}
    {outcome : AppendOutcome} (records : Records journal.file journal.contents)
    (sized : RecordSized payload) (applied : journal.contents.apply operation = some after)
    (replayed : applyRecord journal.contents payload = .ok after)
    (rollsBack : operation.RollsBack ↔ outcome.RollsBack) {file : List UInt8}
    {result : Except PortError Unit}
    (appended : appendRecord journal.file payload outcome = (file, result)) :
    (result = .ok () ∧ Effect journal operation
        ({ journal with file, contents := after }, journal.contents.reply operation)) ∨
      ∃ failure, result = .error failure ∧
        Effect journal operation ({ journal with file }, .failed failure) := by
  have whole := records.append sized replayed (records.sound.apply applied)
  simp only [appendRecord, validateRecordSize_eq_ok.mpr sized] at appended
  cases outcome with
  | synced =>
    cases appended
    exact .inl ⟨rfl, .succeeded applied whole⟩
  | failed written failure rolledBack =>
    cases appended
    refine .inr ⟨failure, rfl, ?_⟩
    cases rolledBack with
    | true =>
      simp only [if_true, List.take_left]
      exact .refused failure records
    | false =>
      have kept : ¬ operation.RollsBack := by simp [rollsBack, AppendOutcome.RollsBack]
      simp only [Bool.false_eq_true, if_false]
      by_cases short : written < (recordFrame payload).length
      · exact .torn failure kept (Framing.torn_take sized short)
      · rw [List.take_of_length_le (Nat.le_of_not_lt short)]
        exact .unacknowledged failure kept applied whole

namespace Journal

variable {journal : Journal} {message : OutboxMessage} {payload : List UInt8} {nextId : UInt64}
  {ids : List UInt64}

theorem prepareEnqueue_eq_ok {entry : OutboxEntry}
    (prepared : journal.prepareEnqueue message = .ok (payload, entry, nextId)) :
    checkedAdd journal.contents.nextId 1 = some nextId ∧
      entry = ⟨journal.contents.nextId, message, 0⟩ ∧ encodeEnqueue entry = .ok payload := by
  simp only [prepareEnqueue, Attempt.bind_eq_ok, Attempt.refuse_eq_ok] at prepared
  obtain ⟨_, -, -, prepared⟩ := prepared
  split at prepared
  · cases prepared
  rename_i successor
  obtain ⟨_, encoded, ⟨⟩⟩ := Attempt.bind_eq_ok.mp prepared
  exact ⟨successor, rfl, encoded⟩

theorem prepareAcknowledge_eq_ok {existing : List UInt64}
    (prepared : journal.prepareAcknowledge ids = .ok (some (payload, existing))) :
    existing = journal.contents.liveIds ids ∧ encodeAcknowledge existing = .ok payload := by
  simp only [prepareAcknowledge, Attempt.bind_eq_ok] at prepared
  obtain ⟨_, -, prepared⟩ := prepared
  split at prepared
  · cases prepared
  obtain ⟨_, encoded, ⟨⟩⟩ := Attempt.bind_eq_ok.mp prepared
  exact ⟨rfl, encoded⟩

theorem prepareAcknowledge_eq_none (prepared : journal.prepareAcknowledge ids = .ok none) :
    journal.contents.liveIds ids = [] := by
  simp only [prepareAcknowledge, Attempt.bind_eq_ok] at prepared
  obtain ⟨_, -, prepared⟩ := prepared
  split at prepared
  · rename_i vacant
    exact List.isEmpty_iff.mp vacant
  · obtain ⟨_, -, ⟨⟩⟩ := Attempt.bind_eq_ok.mp prepared

/-- A new entry replays to the contents with the entry added. -/
theorem applyRecord_prepared (sound : journal.contents.Sound)
    (successor : checkedAdd journal.contents.nextId 1 = some nextId)
    (encoded : encodeEnqueue ⟨journal.contents.nextId, message, 0⟩ = .ok payload) :
    applyRecord journal.contents payload = .ok ⟨nextId, journal.contents.entries.insert
      journal.contents.nextId ⟨journal.contents.nextId, message, 0⟩⟩ := by
  have fresh : journal.contents.nextId ∉ journal.contents.entries := fun member =>
    UInt64.lt_irrefl _ (sound.below _ member)
  have advanced : max journal.contents.nextId nextId = nextId := by
    rw [max_word, if_pos (UInt64.le_of_lt (checkedAdd_one_eq_some.mp successor).1)]
  rw [applyRecord_enqueue encoded]
  simp [recoverEntry, fresh, successor, advanced]

theorem compactedFile_records (sound : journal.contents.Sound) {file : List UInt8}
    (written : journal.compactedFile = .ok file) : Records file journal.contents := by
  simp only [compactedFile, Attempt.bind_eq_ok] at written
  obtain ⟨_, -, _, encoded, ⟨⟩⟩ := written
  exact .compacted sound encoded

section

variable (records : Records journal.file journal.contents)

include records

theorem enqueue_effect
    (message : OutboxMessage) (outcome : AppendOutcome) :
    Effect journal (.enqueue message outcome) (journal.perform (.enqueue message outcome)) := by
  simp only [perform, enqueue]
  cases prepared : journal.prepareEnqueue message with
  | error failure => exact .refused failure records
  | ok plan =>
    obtain ⟨payload, _, nextId⟩ := plan
    obtain ⟨successor, rfl, encoded⟩ := prepareEnqueue_eq_ok prepared
    have applied : journal.contents.apply (.enqueue message outcome) = some ⟨nextId,
        journal.contents.entries.insert journal.contents.nextId
          ⟨journal.contents.nextId, message, 0⟩⟩ := by
      simp [OutboxContents.apply, successor]
    cases appended : appendRecord journal.file payload outcome with
    | mk =>
      rcases Effect.append records (encodeEnqueue_eq_ok encoded).1 applied
        (applyRecord_prepared records.sound successor encoded) Iff.rfl appended with
        ⟨rfl, effect⟩ | ⟨failure, rfl, effect⟩
      · simp only [appended]
        exact effect
      · simp only [appended]
        exact effect

theorem acknowledge_effect
    (ids : List UInt64) (outcome : AppendOutcome) :
    Effect journal (.acknowledge ids outcome) (journal.perform (.acknowledge ids outcome)) := by
  have applied : journal.contents.apply (.acknowledge ids outcome) = some
      { journal.contents with
        entries := removeAll journal.contents.entries (journal.contents.liveIds ids) } := by
    simp [OutboxContents.apply, OutboxContents.removeAll_liveIds]
  simp only [perform, acknowledge]
  cases prepared : journal.prepareAcknowledge ids with
  | error failure => exact .refused failure records
  | ok plan =>
    cases plan with
    | none =>
      have vacant := prepareAcknowledge_eq_none prepared
      rw [vacant] at applied
      have counted : journal.contents.reply (.acknowledge ids outcome) = .acknowledged 0 := by
        simp [OutboxContents.reply, vacant]
      rw [Reply.of, ← counted]
      exact .succeeded applied records
    | some plan =>
      obtain ⟨payload, _⟩ := plan
      obtain ⟨rfl, encoded⟩ := prepareAcknowledge_eq_ok prepared
      obtain ⟨sized, replayed⟩ := encodeAcknowledge_eq_ok encoded
      cases appended : appendRecord journal.file payload outcome with
      | mk =>
        rcases Effect.append records sized applied (replayed journal.contents) Iff.rfl
          appended with ⟨rfl, effect⟩ | ⟨_, rfl, effect⟩
        · simp only [appended]
          exact effect
        · simp only [appended]
          exact effect

theorem compact_effect
    (outcome : CompactOutcome) :
    Effect journal (.compact outcome) (journal.perform (.compact outcome)) := by
  simp only [perform, compact]
  cases written : journal.compactedFile with
  | error failure => exact .refused failure records
  | ok =>
    have replaced := compactedFile_records records.sound written
    cases outcome with
    | committed => exact .succeeded rfl replaced
    | abandoned failure => exact .refused failure records
    | unopened failure | unsynced failure => exact .refused failure replaced

/-- Every mutation of a sound journal has one of the four effects. -/
theorem perform_effect
    (operation : OutboxOperation) : Effect journal operation (journal.perform operation) := by
  cases operation with
  | enqueue message outcome => exact enqueue_effect records message outcome
  | acknowledge ids outcome => exact acknowledge_effect records ids outcome
  | compact outcome => exact compact_effect records outcome

end

end Journal

open Journal

/-- A step of the outbox: a mutation, an orderly shutdown and reopening, or a mutation during which
the process dies, followed by reopening. -/
inductive OutboxEvent where
  | perform (operation : OutboxOperation)
  | reopen (capacity : Nat)
  | crash (operation : OutboxOperation) (capacity : Nat)
  deriving DecidableEq

/-- Failed appends are rolled back while the process lives. -/
def OutboxEvent.RollsBack : OutboxEvent → Prop
  | .perform operation => operation.RollsBack
  | .reopen _ => True
  | .crash _ _ => True

namespace Journal

/-- The journal after an event, unless it cannot be opened.  A process that dies during a mutation
leaves the file as the mutation had written it. -/
def step (journal : Journal) : OutboxEvent → Except PortError (Journal × Option Reply)
  | .perform operation =>
    let (next, reply) := journal.perform operation
    .ok (next, some reply)
  | .reopen capacity => (openJournal journal.file capacity).map fun opened => (opened, none)
  | .crash operation capacity =>
    (openJournal (journal.perform operation).1.file capacity).map fun opened => (opened, none)

end Journal

structure Observation where
  event : OutboxEvent
  reply : Option Reply
  contents : OutboxContents

/-- Perform events in order; every journal has to open. -/
def Journal.run : Journal → List OutboxEvent → Except PortError (Journal × List Observation)
  | journal, [] => .ok (journal, [])
  | journal, event :: events => do
      let (next, reply) ← journal.step event
      let (final, observed) ← next.run events
      return (final, ⟨event, reply, next.contents⟩ :: observed)

/-- The specification of one event on the contents. -/
inductive Permits (before : OutboxContents) : OutboxEvent → Option Reply → OutboxContents → Prop
  | succeeded {operation : OutboxOperation} {after : OutboxContents}
      (applied : before.apply operation = some after) :
      Permits before (.perform operation) (some (before.reply operation)) after
  | failed (operation : OutboxOperation) (failure : PortError) :
      Permits before (.perform operation) (some (.failed failure)) before
  | reopened (capacity : Nat) : Permits before (.reopen capacity) none before
  | lost (operation : OutboxOperation) (capacity : Nat) :
      Permits before (.crash operation capacity) none before
  | kept {operation : OutboxOperation} {after : OutboxContents} (capacity : Nat)
      (applied : before.apply operation = some after) :
      Permits before (.crash operation capacity) none after

/-- Observations in which every event is permitted by the contents before it. -/
def Follows : OutboxContents → List Observation → Prop
  | _, [] => True
  | before, observation :: observed =>
    Permits before observation.event observation.reply observation.contents ∧
      Follows observation.contents observed

namespace Journal

variable {journal : Journal} {file : List UInt8} {contents : OutboxContents}

theorem openJournal_torn (records : Records file contents) {part : List UInt8}
    (torn : recordFraming.Torn part) (capacity : Nat) :
    openJournal (file ++ part) capacity = .ok ⟨file, capacity, contents, none⟩ := by
  simp [openJournal, records.recover_torn torn, Except.map]

theorem openJournal_whole (records : Records file contents) (capacity : Nat) :
    openJournal file capacity = .ok ⟨file, capacity, contents, none⟩ := by
  simpa using openJournal_torn records Framing.torn_nil capacity

/-- A journal whose process died during a mutation opens with or without that mutation. -/
theorem openJournal_crashed (records : Records journal.file journal.contents)
    (operation : OutboxOperation) (capacity : Nat) :
    ∃ next, openJournal (journal.perform operation).1.file capacity = .ok next ∧
      Records next.file next.contents ∧
      Permits journal.contents (.crash operation capacity) none next.contents := by
  have effect := perform_effect records operation
  generalize journal.perform operation = result at effect ⊢
  cases effect with
  | succeeded applied records | unacknowledged _ _ applied records =>
    exact ⟨_, openJournal_whole records capacity, records, .kept capacity applied⟩
  | refused _ records =>
    exact ⟨_, openJournal_whole records capacity, records, .lost operation capacity⟩
  | torn _ _ torn =>
    exact ⟨_, openJournal_torn records torn capacity, records, .lost operation capacity⟩

/-- Every event succeeds, keeps the journal sound and is permitted. -/
theorem step_permitted (records : Records journal.file journal.contents) {event : OutboxEvent}
    (rollsBack : event.RollsBack) :
    ∃ next reply, journal.step event = .ok (next, reply) ∧ Records next.file next.contents ∧
      Permits journal.contents event reply next.contents := by
  cases event with
  | perform operation =>
    have effect := perform_effect records operation
    simp only [step]
    generalize journal.perform operation = result at effect ⊢
    cases effect with
    | succeeded applied records => exact ⟨_, _, rfl, records, .succeeded applied⟩
    | refused failure records => exact ⟨_, _, rfl, records, .failed operation failure⟩
    | torn _ kept | unacknowledged _ kept =>
      exact absurd rollsBack kept
  | reopen capacity =>
    refine ⟨⟨journal.file, capacity, journal.contents, none⟩, none, ?_, records, .reopened capacity⟩
    simp [step, openJournal_whole records, Except.map]
  | crash operation capacity =>
    obtain ⟨next, opened, records, permitted⟩ := openJournal_crashed records operation capacity
    refine ⟨next, none, ?_, records, permitted⟩
    simp [step, opened, Except.map]

theorem run_follows (journal : Journal) {events : List OutboxEvent}
    (rollsBack : ∀ event ∈ events, event.RollsBack)
    (records : Records journal.file journal.contents) :
    ∃ final observed, journal.run events = .ok (final, observed) ∧
      observed.map Observation.event = events ∧ Follows journal.contents observed := by
  induction events generalizing journal with
  | nil => exact ⟨journal, [], rfl, rfl, trivial⟩
  | cons event _ ih =>
    obtain ⟨head, tail⟩ := List.forall_mem_cons.mp rollsBack
    obtain ⟨next, reply, stepped, sound, permitted⟩ := step_permitted records head
    obtain ⟨final, observed, ran, same, follows⟩ := ih next tail sound
    refine ⟨final, ⟨event, reply, next.contents⟩ :: observed, ?_, by simp [same],
      permitted, follows⟩
    simp [run, stepped, ran, bind, Except.bind, pure, Except.pure]

theorem openJournal_created (capacity : Nat) :
    openJournal [] capacity = .ok ⟨fileHeader, capacity, .empty, none⟩ := rfl

end Journal

/-- Every journal of a run opens, and recovers the contents left by the operations that succeeded,
together with at most the operation in flight at a crash. -/
theorem journal_recovers_acknowledged_operations (capacity : Nat) (events : List OutboxEvent)
    (rollsBack : ∀ event ∈ events, event.RollsBack) :
    ∃ created final observed, openJournal [] capacity = .ok created ∧
      created.contents = .empty ∧ created.run events = .ok (final, observed) ∧
      observed.map Observation.event = events ∧ Follows .empty observed := by
  obtain ⟨final, observed, ran, same, follows⟩ :=
    run_follows ⟨fileHeader, capacity, .empty, none⟩ rollsBack .created
  exact ⟨_, final, observed, openJournal_created capacity, rfl, ran, same, follows⟩

/-- A write error of the disk. -/
def writeFailure : PortError :=
  ⟨.unavailable, "write outbox journal record: Input/output error (os error 5)"⟩

def sampleMessage : OutboxMessage := ⟨"cloud/telemetry", [1, 2, 3], 1700000000000⟩

/-- Two entries, of which one is appended at the second attempt; a crash in the middle of a third;
an acknowledgement and a compaction. -/
def sampleEvents : List OutboxEvent :=
  [.perform (.enqueue sampleMessage .synced),
    .perform (.enqueue sampleMessage (.failed 20 writeFailure true)),
    .perform (.enqueue sampleMessage .synced),
    .crash (.enqueue sampleMessage (.failed 20 writeFailure false)) 4,
    .perform (.acknowledge [1] .synced),
    .perform (.compact .committed),
    .reopen 4,
    .perform (.enqueue sampleMessage .synced)]

theorem sampleEvents_rollBack : ∀ event ∈ sampleEvents, event.RollsBack := by
  simp [sampleEvents, OutboxEvent.RollsBack, OutboxOperation.RollsBack, AppendOutcome.RollsBack]

theorem journal_recovers_acknowledged_operations_sample :
    (∀ event ∈ sampleEvents, event.RollsBack) ∧
      ∃ created final observed, openJournal [] 4 = .ok created ∧
        created.contents = .empty ∧ created.run sampleEvents = .ok (final, observed) ∧
        observed.map Observation.event = sampleEvents ∧ Follows .empty observed :=
  ⟨sampleEvents_rollBack,
    journal_recovers_acknowledged_operations 4 sampleEvents sampleEvents_rollBack⟩

/-- The identifier an observed enqueue returned. -/
def Observation.identifier (observation : Observation) : Option UInt64 :=
  match observation.reply with
  | some (.enqueued id) => some id
  | _ => none

theorem Observation.reply_of_identifier {observation : Observation}
    (returned : observation.identifier = some id) : observation.reply = some (.enqueued id) := by
  simp only [identifier] at returned
  split at returned
  · rename_i shown
    cases returned
    exact shown
  · cases returned

theorem Permits.nextId_le {reply : Option Reply} (permitted : Permits before event reply after) :
    before.nextId ≤ after.nextId := by
  cases permitted with
  | succeeded applied | kept _ applied => exact OutboxContents.nextId_apply applied
  | failed | reopened | lost => exact UInt64.le_refl _

/-- A returned identifier is the next one, and the next one moves past it. -/
theorem Permits.identifier (permitted : Permits before event (some (.enqueued id)) after) :
    before.nextId = id ∧ id < after.nextId := by
  generalize shown : some (Reply.enqueued id) = reply at permitted
  cases permitted with
  | @succeeded operation _ applied =>
    cases operation with
    | enqueue =>
      cases shown
      obtain ⟨_, successor, rfl⟩ := Option.map_eq_some_iff.mp applied
      exact ⟨rfl, (checkedAdd_one_eq_some.mp successor).1⟩
    | acknowledge | compact => cases shown
  | failed | reopened | lost | kept =>
    cases shown

/-- The returned identifiers ascend from the next identifier on. -/
theorem Follows.identifiers {observed : List Observation} (follows : Follows before observed) :
    (observed.filterMap Observation.identifier).Pairwise (· < ·) ∧
      ∀ id ∈ observed.filterMap Observation.identifier, before.nextId ≤ id := by
  induction observed generalizing before with
  | nil => exact ⟨.nil, by simp⟩
  | cons observation _ ih =>
    obtain ⟨permitted, rest⟩ := follows
    obtain ⟨ascending, above⟩ := ih rest
    have monotone := permitted.nextId_le
    cases returned : observation.identifier with
    | none =>
      rw [List.filterMap_cons_none returned]
      exact ⟨ascending, fun id member => UInt64.le_trans monotone (above id member)⟩
    | some =>
      rw [List.filterMap_cons_some returned]
      rw [observation.reply_of_identifier returned] at permitted
      obtain ⟨rfl, passed⟩ := permitted.identifier
      refine ⟨List.pairwise_cons.mpr ⟨fun later member => ?_, ascending⟩, ?_⟩
      · exact UInt64.lt_of_lt_of_le passed (above later member)
      · refine List.forall_mem_cons.mpr ⟨UInt64.le_refl _, fun later member => ?_⟩
        exact UInt64.le_trans monotone (above later member)

end AetherIot.Outbox
