import AetherIot.Dataplane.PointSlot
import AetherIot.Foundation.GuardedRun

/-!
# Snapshots of a point slot

The sequence counter of a slot is a number of half-finished sets, modulo `2 ^ 32`.  A reader that saw
an even counter holds fields of the last completed set for as long as the number has not moved, and
the counter can come back to the same word only after `2 ^ 31` completed sets.
-/

namespace AetherIot.Dataplane

open GuardedRun

variable {ι : Type}

@[simp]
theorem completedSets_append (front back : List (SlotEvent ι)) :
    completedSets (front ++ back) = completedSets front ++ completedSets back := by
  simp [completedSets]

@[simp]
theorem completedSets_setCompleted (reading : Reading) :
    completedSets [(.setCompleted reading : SlotEvent ι)] = [reading] := rfl

@[simp]
theorem completedSets_loadStarted (reader : ι) (log : List (SlotEvent ι)) :
    completedSets (.loadStarted reader :: log) = completedSets log := rfl

@[simp]
theorem lastCompleted_setCompleted (log : List (SlotEvent ι)) (reading : Reading) :
    lastCompleted (log ++ [.setCompleted reading]) = reading := by
  simp [lastCompleted, lastSet]

variable {log before during : List (SlotEvent ι)} {reader : ι}
  {writer : Option (Reading × SlotProgram Unit)} {mapping : Mapping} {sets : List Reading}
  {ticks started seen : Nat} {system : SlotSystem ι} {seq1 : UInt32}
  {program : SlotProgram (Option Reading)}

theorem lastCompleted_congr {other : List (SlotEvent ι)}
    (same : completedSets other = completedSets log) : lastCompleted other = lastCompleted log := by
  rw [lastCompleted, same, ← lastCompleted]

/-- The call of `reader` that is running at the end of the log. -/
structure Running (reader : ι) (log before during : List (SlotEvent ι)) : Prop where
  split : log = before ++ .loadStarted reader :: during
  same : .loadStarted reader ∉ during

section

variable (running : Running reader log before during)

include running

theorem Running.unique {before' during' : List (SlotEvent ι)}
    (other : Running reader log before' during') :
    before' = before ∧ during' = during := by
  have aligned := other.split.symm.trans running.split
  rcases List.append_eq_append_iff.mp aligned with ⟨middle, front, back⟩ | ⟨middle, front, back⟩
  · cases middle with
    | nil =>
      simp only [List.append_nil, List.nil_append, List.cons.injEq, true_and] at front back
      exact ⟨front.symm, back⟩
    | cons =>
      simp only [List.cons_append, List.cons.injEq] at back
      exact absurd (by simp [back.2]) other.same
  · cases middle with
    | nil =>
      simp only [List.append_nil, List.nil_append, List.cons.injEq, true_and] at front back
      exact ⟨front, back.symm⟩
    | cons =>
      simp only [List.cons_append, List.cons.injEq] at back
      exact absurd (by simp [back.2]) running.same

theorem Running.completedSets_eq :
    completedSets log = completedSets before ++ completedSets during := by
  rw [running.split, completedSets_append, completedSets_loadStarted]

theorem Running.append {later : List (SlotEvent ι)} (same : .loadStarted reader ∉ later) :
    Running reader (log ++ later) before (during ++ later) := by
  refine ⟨by simp [running.split], ?_⟩
  simp [running.same, same]

end

/-- Whatever a load returned is the last completed set, unless `2 ^ 31` sets completed
meanwhile. -/
def Snapshots (log : List (SlotEvent ι)) : Prop :=
  ∀ (before during after : List (SlotEvent ι)) (reader : ι) (reading : Reading),
    log = before ++ .loadStarted reader :: (during ++ .loadReturned reader (some reading) :: after) →
    .loadStarted reader ∉ during → (completedSets during).length < 2 ^ 31 →
    reading = lastCompleted (before ++ during)

theorem Snapshots.append (snapshots : Snapshots log) {event : SlotEvent ι}
    (returned : ∀ (reader : ι) (reading : Reading), event = .loadReturned reader (some reading) →
      ∀ before during, Running reader log before during →
        (completedSets during).length < 2 ^ 31 → reading = lastCompleted (before ++ during)) :
    Snapshots (log ++ [event]) := by
  intro before during after reader reading split same few
  rcases List.eq_nil_or_concat after with rfl | ⟨earlier, last, rfl⟩
  · have aligned : log ++ [event] =
        (before ++ .loadStarted reader :: during) ++ [.loadReturned reader (some reading)] := by
      simpa using split
    obtain ⟨front, back⟩ := List.append_inj' aligned rfl
    exact returned reader reading (List.cons.inj back).1 before during ⟨front, same⟩ few
  · have aligned : log ++ [event] =
        (before ++ .loadStarted reader :: (during ++ .loadReturned reader (some reading) ::
          earlier)) ++ [last] := by
      simpa using split
    exact snapshots before during earlier reader reading (List.append_inj' aligned rfl).1 same few

/-- The access leaves the sequence counter and the data of the slot alone. -/
def Harmless : MappingAccess → Prop
  | .fetchAddSeq _ | .storeValue _ | .storeRaw _ | .storeTimestamp _ => False
  | .loadSeq | .loadValue | .loadRaw | .loadTimestamp | .storeDirty _ | .storeHeartbeat _ => True

theorem harmless_serve {request : MappingAccess} (harmless : Harmless request) (mapping : Mapping) :
    (mapping.serve request).1.slot.seq = mapping.slot.seq ∧
      (mapping.serve request).1.slot.reading = mapping.slot.reading ∧
      request ≠ .fetchAddSeq .release := by
  cases request with
  | fetchAddSeq | storeValue | storeRaw | storeTimestamp =>
    exact harmless.elim
  | loadSeq | loadValue | loadRaw | loadTimestamp | storeDirty | storeHeartbeat =>
    exact ⟨rfl, rfl, by simp⟩

/-! What is left of a set before each of its accesses but the first, if `rest` follows it. -/

def setFinished (rest : SlotProgram Unit) : SlotProgram Unit := .ask (.storeDirty 1) fun _ => rest

def setTimestampStored (rest : SlotProgram Unit) : SlotProgram Unit :=
  .ask (.fetchAddSeq .release) fun _ => setFinished rest

section

variable (reading : Reading) (rest : SlotProgram Unit)

def setRawStored : SlotProgram Unit :=
  .ask (.storeTimestamp reading.timestamp) fun _ => setTimestampStored rest

def setValueStored : SlotProgram Unit :=
  .ask (.storeRaw reading.raw) fun _ => setRawStored reading rest

def setBegun : SlotProgram Unit :=
  .ask (.storeValue reading.value) fun _ => setValueStored reading rest

end

/-- The program sets the slot and then leaves it alone. -/
def SetsSlot (program : Reading → SlotProgram Unit) : Prop :=
  ∀ reading, ∃ rest : SlotProgram Unit, rest.Uses Harmless ∧
    program reading = .ask (.fetchAddSeq .relaxed) fun _ => setBegun reading rest

theorem setsSlot_set : SetsSlot PointSlot.set := fun _ => ⟨.done (), trivial, rfl⟩

theorem setsSlot_setDirect {writer : SlotWriter} {slot : Nat} (inside : slot < writer.slotCount) :
    SetsSlot (writer.setDirect slot) := by
  intro reading
  refine ⟨access (.storeHeartbeat reading.timestamp), ⟨trivial, fun _ => trivial⟩, ?_⟩
  rw [SlotWriter.setDirect, if_pos inside]
  rfl

/-- The slot holds the last completed set, and the counter stands at `2 * completed`. -/
structure Quiet (mapping : Mapping) (sets : List Reading) : Prop where
  seq : mapping.slot.seq.toNat = 2 * sets.length % 2 ^ 32
  reading : mapping.slot.reading = lastSet sets

/-- The counter of half-finished sets and what the slot holds while the writer is at `writer`. -/
inductive WriterPhase (mapping : Mapping) (sets : List Reading) :
    Option (Reading × SlotProgram Unit) → Nat → Prop
  | idle (quiet : Quiet mapping sets) :
      WriterPhase mapping sets none (2 * sets.length)
  | starting {reading : Reading} {rest : SlotProgram Unit} (quiet : Quiet mapping sets)
      (harmless : rest.Uses Harmless) :
      WriterPhase mapping sets
        (some (reading, .ask (.fetchAddSeq .relaxed) fun _ => setBegun reading rest))
        (2 * sets.length)
  | begun {reading : Reading} {rest : SlotProgram Unit}
      (seq : mapping.slot.seq.toNat = (2 * sets.length + 1) % 2 ^ 32)
      (harmless : rest.Uses Harmless) :
      WriterPhase mapping sets (some (reading, setBegun reading rest)) (2 * sets.length + 1)
  | valueStored {reading : Reading} {rest : SlotProgram Unit}
      (seq : mapping.slot.seq.toNat = (2 * sets.length + 1) % 2 ^ 32)
      (value : mapping.slot.valueBits = reading.value) (harmless : rest.Uses Harmless) :
      WriterPhase mapping sets (some (reading, setValueStored reading rest)) (2 * sets.length + 1)
  | rawStored {reading : Reading} {rest : SlotProgram Unit}
      (seq : mapping.slot.seq.toNat = (2 * sets.length + 1) % 2 ^ 32)
      (value : mapping.slot.valueBits = reading.value) (raw : mapping.slot.rawBits = reading.raw)
      (harmless : rest.Uses Harmless) :
      WriterPhase mapping sets (some (reading, setRawStored reading rest)) (2 * sets.length + 1)
  | timestampStored {reading : Reading} {rest : SlotProgram Unit}
      (seq : mapping.slot.seq.toNat = (2 * sets.length + 1) % 2 ^ 32)
      (stored : mapping.slot.reading = reading) (harmless : rest.Uses Harmless) :
      WriterPhase mapping sets (some (reading, setTimestampStored rest)) (2 * sets.length + 1)
  | finishing {reading : Reading} {rest : SlotProgram Unit} (quiet : Quiet mapping sets)
      (harmless : rest.Uses Harmless) :
      WriterPhase mapping sets (some (reading, rest)) (2 * sets.length)

section

variable (phase : WriterPhase mapping sets writer ticks)

include phase

theorem WriterPhase.seq_eq : mapping.slot.seq.toNat = ticks % 2 ^ 32 := by
  cases phase with
  | idle quiet | starting quiet | finishing quiet => exact quiet.seq
  | begun seq | valueStored seq | rawStored seq
  | timestampStored seq => exact seq

theorem WriterPhase.ticks_bounds : ticks = 2 * sets.length + ticks % 2 := by
  cases phase <;> omega

/-- An even counter means that no set is under way. -/
theorem WriterPhase.quiet (even : ticks % 2 = 0) : Quiet mapping sets := by
  cases phase with
  | idle quiet | starting quiet | finishing quiet => exact quiet
  | begun | valueStored | rawStored
  | timestampStored => omega

end

theorem WriterPhase.remaining {reading : Reading} {rest : SlotProgram Unit}
    (quiet : Quiet mapping sets) (harmless : rest.Uses Harmless) :
    WriterPhase mapping sets (SlotSystem.remaining reading rest) (2 * sets.length) := by
  cases rest with
  | done | fail => exact .idle quiet
  | ask => exact .finishing quiet harmless

theorem toNat_succ {seq : UInt32} (stands : seq.toNat = ticks % 2 ^ 32) :
    (seq + 1).toNat = (ticks + 1) % 2 ^ 32 := by
  rw [UInt32.toNat_add, stands]
  simp

/-- What an access of the writer may do: the counter moves on, or nothing that readers see moves. -/
structure WriterStep (before after : SlotSystem ι) (ticks : Nat) : Prop where
  readers : after.readers = before.readers
  log : after.log = before.log ∨ ∃ reading, after.log = before.log ++ [.setCompleted reading]
  phase : WriterPhase after.mapping (completedSets after.log) after.writer ticks ∧
      after.log = before.log ∨
    WriterPhase after.mapping (completedSets after.log) after.writer (ticks + 1)

theorem WriterPhase.write
    (phase : WriterPhase system.mapping (completedSets system.log) system.writer ticks) :
    WriterStep system system.write ticks := by
  obtain ⟨mapping, _, readers, log⟩ := system
  cases phase with
  | idle quiet => exact ⟨rfl, .inl rfl, .inl ⟨.idle quiet, rfl⟩⟩
  | starting quiet harmless =>
    exact ⟨rfl, .inl rfl, .inr (.begun (toNat_succ quiet.seq) harmless)⟩
  | begun seq harmless => exact ⟨rfl, .inl rfl, .inl ⟨.valueStored seq rfl harmless, rfl⟩⟩
  | valueStored seq value harmless =>
    exact ⟨rfl, .inl rfl, .inl ⟨.rawStored seq value rfl harmless, rfl⟩⟩
  | rawStored seq value raw harmless =>
    refine ⟨rfl, .inl rfl, .inl ⟨.timestampStored seq ?_ harmless, rfl⟩⟩
    exact congrArg₂ (fun value raw => (⟨value, raw, _⟩ : Reading)) value raw
  | @timestampStored reading _ seq stored harmless =>
    refine ⟨rfl, .inr ⟨reading, rfl⟩, .inr ?_⟩
    have count : 2 * (completedSets (log ++ [.setCompleted reading])).length =
        2 * (completedSets log).length + 1 + 1 := by
      simp only [completedSets_append, completedSets_setCompleted, List.length_append,
        List.length_singleton]
      omega
    have published : Quiet
        { mapping with slot := { mapping.slot with seq := mapping.slot.seq + 1 } }
        (completedSets (log ++ [.setCompleted reading])) := by
      refine ⟨?_, ?_⟩
      · rw [count]
        exact toNat_succ seq
      · rw [← lastCompleted, lastCompleted_setCompleted]
        exact stored
    rw [← count]
    exact .finishing published ⟨trivial, fun _ => harmless⟩
  | @finishing reading rest quiet harmless =>
    cases rest with
    | done | fail => exact ⟨rfl, .inl rfl, .inl ⟨.finishing quiet harmless, rfl⟩⟩
    | ask request next =>
      obtain ⟨seq, data, other⟩ := harmless_serve harmless.1 mapping
      have unlogged : (SlotSystem.write
          ⟨mapping, some (reading, .ask request next), readers, log⟩).log = log :=
        if_neg other
      refine ⟨rfl, .inl unlogged, .inl ⟨?_, unlogged⟩⟩
      rw [unlogged]
      have still : Quiet (mapping.serve request).1 (completedSets log) :=
        ⟨(congrArg UInt32.toNat seq).trans quiet.seq, data.trans quiet.reading⟩
      exact .remaining still (harmless.2 _)

/-! What is left of a read before each of its accesses but the first. -/

def loadTimestampLoaded (seq1 : UInt32) (reading : Reading) : SlotProgram (Option Reading) :=
  .ask .loadSeq fun seq2 => if seq1 = seq2 then .done (some reading) else .done none

def loadRawLoaded (seq1 : UInt32) (value raw : UInt64) : SlotProgram (Option Reading) :=
  .ask .loadTimestamp fun timestamp => loadTimestampLoaded seq1 ⟨value, raw, timestamp⟩

def loadValueLoaded (seq1 : UInt32) (value : UInt64) : SlotProgram (Option Reading) :=
  .ask .loadRaw fun raw => loadRawLoaded seq1 value raw

def loadSeqLoaded (seq1 : UInt32) : SlotProgram (Option Reading) :=
  .ask .loadValue fun value => loadValueLoaded seq1 value

theorem tryLoadConsistent_eq : PointSlot.tryLoadConsistent = .ask .loadSeq fun seq1 =>
        if seq1 &&& 1 ≠ 0 then .done none else loadSeqLoaded seq1 := rfl

/-- The reader saw the even counter `seen` since its call started after `started` sets. -/
structure SawCounter (ticks started : Nat) (seq1 : UInt32) (seen : Nat) : Prop where
  word : seq1.toNat = seen % 2 ^ 32
  even : seen % 2 = 0
  since : 2 * started ≤ seen
  until_ : seen ≤ ticks

/-- Where a reader is, and that it holds fields of `last` unless the counter has moved. -/
inductive ReaderPhase (ticks : Nat) (last : Reading) (started : Nat) :
    SlotProgram (Option Reading) → Prop
  | starting : ReaderPhase ticks last started PointSlot.tryLoadConsistent
  | seqLoaded {seq1 : UInt32} {seen : Nat} (saw : SawCounter ticks started seq1 seen) :
      ReaderPhase ticks last started (loadSeqLoaded seq1)
  | valueLoaded {seq1 : UInt32} {seen : Nat} {value : UInt64}
      (saw : SawCounter ticks started seq1 seen) (current : seen = ticks → value = last.value) :
      ReaderPhase ticks last started (loadValueLoaded seq1 value)
  | rawLoaded {seq1 : UInt32} {seen : Nat} {value raw : UInt64}
      (saw : SawCounter ticks started seq1 seen)
      (current : seen = ticks → value = last.value ∧ raw = last.raw) :
      ReaderPhase ticks last started (loadRawLoaded seq1 value raw)
  | timestampLoaded {seq1 : UInt32} {seen : Nat} {reading : Reading}
      (saw : SawCounter ticks started seq1 seen) (current : seen = ticks → reading = last) :
      ReaderPhase ticks last started (loadTimestampLoaded seq1 reading)

theorem SawCounter.tick (saw : SawCounter ticks started seq1 seen) :
    SawCounter (ticks + 1) started seq1 seen :=
  { saw with until_ := Nat.le_succ_of_le saw.until_ }

/-- Once the counter moves, what a reader holds does not matter. -/
theorem ReaderPhase.tick {last : Reading} (phase : ReaderPhase ticks last started program)
    (later : Reading) : ReaderPhase (ticks + 1) later started program := by
  cases phase with
  | starting => exact .starting
  | seqLoaded saw => exact .seqLoaded saw.tick
  | valueLoaded saw =>
    exact .valueLoaded saw.tick fun moved => absurd saw.until_ (by omega)
  | rawLoaded saw =>
    exact .rawLoaded saw.tick fun moved => absurd saw.until_ (by omega)
  | timestampLoaded saw =>
    exact .timestampLoaded saw.tick fun moved => absurd saw.until_ (by omega)

theorem land_one_eq_zero_iff {word : UInt32} : word &&& 1 = 0 ↔ word.toNat % 2 = 0 := by
  rw [← UInt32.toNat_inj, UInt32.toNat_and, UInt32.toNat_one, Nat.and_one_is_mod]
  rfl

/-- A counter word comes back only after `2 ^ 31` completed sets. -/
theorem SawCounter.eq_ticks {completed : Nat} {seq2 : UInt32}
    (saw : SawCounter ticks started seq1 seen) (now : seq2.toNat = ticks % 2 ^ 32)
    (bounds : ticks = 2 * completed + ticks % 2) (few : completed - started < 2 ^ 31)
    (same : seq1 = seq2) : seen = ticks := by
  have words : seen % 2 ^ 32 = ticks % 2 ^ 32 := by rw [← saw.word, ← now, same]
  have even := saw.even
  have since := saw.since
  have until_ := saw.until_
  omega

/-- The counter, what every running reader holds, and what readers returned. -/
structure SlotSystem.Sound (system : SlotSystem ι) (ticks : Nat) : Prop where
  writer : WriterPhase system.mapping (completedSets system.log) system.writer ticks
  readers : ∀ reader program, system.readers reader = some program →
    ∃ before during, Running reader system.log before during ∧
      ReaderPhase ticks (lastCompleted system.log) (completedSets before).length program
  snapshots : Snapshots system.log

theorem sound_initial (mapping : Mapping) (fresh : mapping.slot = .new) :
    (SlotSystem.initial mapping : SlotSystem ι).Sound 0 where
  writer := .idle ⟨by simp [SlotSystem.initial, fresh, PointSlot.new, completedSets],
    by simp [SlotSystem.initial, fresh, completedSets, lastSet, Reading.unwritten]⟩
  readers reader program running := by cases running
  snapshots before during after reader reading split := by
    simp [SlotSystem.initial] at split

theorem SlotSystem.Sound.write (sound : system.Sound ticks) :
    ∃ later, system.write.Sound later := by
  obtain ⟨readers, log, ⟨phase, unchanged⟩ | phase⟩ := sound.writer.write
  · refine ⟨ticks, phase, ?_, ?_⟩
    · rw [unchanged, readers]
      exact sound.readers
    · rw [unchanged]
      exact sound.snapshots
  · refine ⟨ticks + 1, phase, fun reader program running => ?_, ?_⟩
    · rw [readers] at running
      obtain ⟨before, during, call, held⟩ := sound.readers reader program running
      rcases log with unchanged | ⟨reading, appended⟩
      · rw [unchanged]
        exact ⟨before, during, call, held.tick _⟩
      · rw [appended]
        exact ⟨before, during ++ [.setCompleted reading], call.append (by simp), held.tick _⟩
    · rcases log with unchanged | ⟨_, appended⟩
      · rw [unchanged]
        exact sound.snapshots
      · rw [appended]
        exact sound.snapshots.append fun reader other returned => by cases returned

variable [DecidableEq ι]

/-- What an access of a reader does to its own call. -/
inductive ReaderStep (before after : SlotSystem ι) (reader : ι) (ticks started : Nat) : Prop
  | still (same : after = before)
  | continues (program : SlotProgram (Option Reading))
      (phase : ReaderPhase ticks (lastCompleted before.log) started program)
      (moved : after = { before with
        readers := Function.update before.readers reader (some program) })
  | returns (result : Option Reading)
      (current : ∀ reading, result = some reading →
        (completedSets before.log).length - started < 2 ^ 31 → reading = lastCompleted before.log)
      (moved : after = { before with
        readers := Function.update before.readers reader none
        log := before.log ++ [.loadReturned reader result] })

theorem ReaderPhase.read
    (writer : WriterPhase system.mapping (completedSets system.log) system.writer ticks)
    (running : system.readers reader = some program)
    (phase : ReaderPhase ticks (lastCompleted system.log) started program)
    (since : started ≤ (completedSets system.log).length) :
    ReaderStep system (system.read reader) reader ticks started := by
  have now := writer.seq_eq
  have bounds := writer.ticks_bounds
  cases phase with
  | starting =>
    by_cases odd : system.mapping.slot.seq &&& 1 ≠ 0
    · refine .returns none (fun reading returned => by cases returned) ?_
      simp [SlotSystem.read, running, tryLoadConsistent_eq, Mapping.serve, odd]
    · have even : ticks % 2 = 0 := by
        have parity := land_one_eq_zero_iff.mp (not_not.mp odd)
        omega
      refine .continues (loadSeqLoaded system.mapping.slot.seq)
        (.seqLoaded ⟨now, even, by omega, Nat.le_refl _⟩) ?_
      simp [SlotSystem.read, running, tryLoadConsistent_eq, Mapping.serve, not_not.mp odd,
        loadSeqLoaded]
  | @seqLoaded seq1 _ saw =>
    refine .continues (loadValueLoaded seq1 system.mapping.slot.valueBits) (.valueLoaded saw ?_) ?_
    · rintro rfl
      exact congrArg Reading.value (writer.quiet saw.even).reading
    · simp [SlotSystem.read, running, loadSeqLoaded, Mapping.serve, loadValueLoaded]
  | @valueLoaded seq1 _ value saw current =>
    refine .continues (loadRawLoaded seq1 value system.mapping.slot.rawBits) (.rawLoaded saw ?_) ?_
    · rintro rfl
      exact ⟨current rfl, congrArg Reading.raw (writer.quiet saw.even).reading⟩
    · simp [SlotSystem.read, running, loadValueLoaded, Mapping.serve, loadRawLoaded]
  | @rawLoaded seq1 _ value raw saw current =>
    refine .continues (loadTimestampLoaded seq1 ⟨value, raw, system.mapping.slot.timestamp⟩)
      (.timestampLoaded saw ?_) ?_
    · rintro rfl
      obtain ⟨sameValue, sameRaw⟩ := current rfl
      have sameTimestamp := congrArg Reading.timestamp (writer.quiet saw.even).reading
      rw [sameValue, sameRaw]
      exact congrArg (Reading.mk _ _) sameTimestamp
    · simp [SlotSystem.read, running, loadRawLoaded, Mapping.serve, loadTimestampLoaded]
  | @timestampLoaded seq1 _ reading saw current =>
    by_cases same : seq1 = system.mapping.slot.seq
    · refine .returns (some reading) (fun other returned few => ?_) ?_
      · cases returned
        exact current (saw.eq_ticks now bounds few same)
      · simp [SlotSystem.read, running, loadTimestampLoaded, Mapping.serve, same]
    · refine .returns none (fun reading returned => by cases returned) ?_
      simp [SlotSystem.read, running, loadTimestampLoaded, Mapping.serve, same]

theorem running_update {readers : ι → Option (SlotProgram (Option Reading))} {other : ι}
    {entry : Option (SlotProgram (Option Reading))}
    (running : Function.update readers reader entry other = some program) :
    other = reader ∧ entry = some program ∨ other ≠ reader ∧ readers other = some program := by
  by_cases chosen : other = reader
  · subst chosen
    exact .inl ⟨rfl, by simpa using running⟩
  · exact .inr ⟨chosen, by simpa [chosen] using running⟩

section

variable (sound : system.Sound ticks)

include sound

theorem SlotSystem.Sound.set {program : Reading → SlotProgram Unit} (sets : SetsSlot program)
    (reading : Reading) :
    (system.step program (.set reading)).Sound ticks := by
  rw [SlotSystem.step]
  split
  · rename_i free
    refine ⟨?_, sound.readers, sound.snapshots⟩
    obtain ⟨_, harmless, unfolds⟩ := sets reading
    have writer := sound.writer
    rw [Option.isNone_iff_eq_none.mp free] at writer
    cases writer with
    | idle quiet =>
      rw [unfolds]
      exact .starting quiet harmless
  · exact sound

theorem SlotSystem.Sound.load (program : Reading → SlotProgram Unit) (reader : ι) :
    (system.step program (.load reader)).Sound ticks := by
  rw [SlotSystem.step]
  split
  · rename_i free
    have same : completedSets (system.log ++ [.loadStarted reader]) = completedSets system.log := by
      simp [completedSets]
    refine ⟨?_, fun other rest running => ?_, ?_⟩
    · rw [same]
      exact sound.writer
    · rcases running_update running with ⟨rfl, started⟩ | ⟨chosen, running⟩
      · cases started
        exact ⟨system.log, [], ⟨rfl, by simp⟩, .starting⟩
      · obtain ⟨before, _, call, held⟩ := sound.readers other rest running
        rw [lastCompleted_congr same]
        exact ⟨before, _, call.append (by simpa using chosen), held⟩
    · exact sound.snapshots.append fun other reading returned => by cases returned
  · exact sound

theorem SlotSystem.Sound.read (reader : ι) : (system.read reader).Sound ticks := by
  cases running : system.readers reader with
  | none =>
    have still : system.read reader = system := by simp [SlotSystem.read, running]
    rwa [still]
  | some program =>
    obtain ⟨before, during, call, held⟩ := sound.readers reader program running
    have since : (completedSets before).length ≤ (completedSets system.log).length := by
      rw [call.completedSets_eq, List.length_append]
      omega
    cases held.read sound.writer running since with
    | still same => rwa [same]
    | continues _ phase moved =>
      rw [moved]
      refine ⟨sound.writer, fun other others runs => ?_, sound.snapshots⟩
      rcases running_update runs with ⟨rfl, goes⟩ | ⟨_, runs⟩
      · cases goes
        exact ⟨before, during, call, phase⟩
      · exact sound.readers other others runs
    | returns result current moved =>
      have same : completedSets (system.log ++ [.loadReturned reader result]) =
          completedSets system.log := by
        simp [completedSets]
      rw [moved]
      refine ⟨?_, fun other others runs => ?_, ?_⟩
      · rw [same]
        exact sound.writer
      · rcases running_update runs with ⟨rfl, goes⟩ | ⟨_, runs⟩
        · cases goes
        · obtain ⟨earlier, _, otherCall, phase⟩ := sound.readers other others runs
          rw [lastCompleted_congr same]
          exact ⟨earlier, _, otherCall.append (by simp), phase⟩
      · refine sound.snapshots.append fun other reading returned front middle inside few => ?_
        cases returned
        obtain ⟨rfl, rfl⟩ := call.unique inside
        have total := call.completedSets_eq
        rw [current reading rfl (by rw [total, List.length_append]; omega)]
        exact lastCompleted_congr (by rw [total, completedSets_append])

theorem SlotSystem.Sound.reopen (program : Reading → SlotProgram Unit) (even : ticks % 2 = 0) :
    (system.step program .reopen).Sound ticks := by
  refine ⟨?_, sound.readers, sound.snapshots⟩
  have bounds := sound.writer.ticks_bounds
  rw [bounds, even]
  exact .idle (sound.writer.quiet even)

/-- Every step keeps the system sound, unless a writer is replaced while it is in the middle of a
set. -/
theorem sound_step {program : Reading → SlotProgram Unit} (sets : SetsSlot program)
    (input : SlotInput ι) (between : input = .reopen → ticks % 2 = 0) :
    ∃ later, (system.step program input).Sound later := by
  cases input with
  | set reading => exact ⟨ticks, sound.set sets reading⟩
  | write => exact sound.write
  | load reader => exact ⟨ticks, sound.load program reader⟩
  | read reader => exact ⟨ticks, sound.read reader⟩
  | reopen => exact ⟨ticks, sound.reopen program (between rfl)⟩

end

/-- A writer that is not replaced keeps the system sound. -/
theorem sound_run (sound : ∃ ticks, system.Sound ticks) {program : Reading → SlotProgram Unit}
    (sets : SetsSlot program) {inputs : List (SlotInput ι)} (alive : .reopen ∉ inputs) :
    ∃ ticks, (run (SlotSystem.step program) system inputs).Sound ticks := by
  have preserved : ∀ (state : SlotSystem ι), ∀ input ∈ inputs, (∃ ticks, state.Sound ticks) →
      ∃ ticks, (state.step program input).Sound ticks := by
    rintro _ input member ⟨_, sound⟩
    exact sound_step sound sets input fun replaced => absurd (replaced ▸ member) alive
  exact invariant_of_mem preserved sound

/-- In every interleaving of one writer with any number of readers, a read that returns a triple
returns the last completed set, unless `2 ^ 31` sets complete during the read. -/
theorem load_returns_last_completed_set (header : UnifiedHeader) (inputs : List (SlotInput ι))
    (alive : .reopen ∉ inputs) :
    Snapshots (run (SlotSystem.step PointSlot.set) (.initial ⟨header, .new⟩) inputs).log := by
  obtain ⟨_, sound⟩ := sound_run ⟨0, sound_initial ⟨header, .new⟩ rfl⟩ setsSlot_set alive
  exact sound.snapshots

def sampleHeader : UnifiedHeader where
  magic := unifiedMagic
  version := unifiedVersion
  maxSlots := 1
  slotCount := 1
  writerHeartbeat := 0
  routingHash := 7
  writerGeneration := 2

/-- The reading `1.0` with the raw value `10.0`. -/
def firstReading : Reading := ⟨0x3FF0000000000000, 0x4024000000000000, 100⟩

def overlappingReads : List (SlotInput Unit) :=
  [.load (), .read (), .set firstReading, .write, .read (), .read (), .read (), .read ()] ++
    List.replicate 5 .write ++ .load () :: List.replicate 5 (.read ())

theorem load_returns_last_completed_set_overlapping :
    Snapshots (run (SlotSystem.step PointSlot.set) (.initial ⟨sampleHeader, .new⟩)
      overlappingReads).log ∧
    (run (SlotSystem.step PointSlot.set) (.initial ⟨sampleHeader, .new⟩) overlappingReads).log =
      [.loadStarted (), .loadReturned () none, .setCompleted firstReading, .loadStarted (),
        .loadReturned () (some firstReading)] :=
  ⟨load_returns_last_completed_set _ _ (by decide), by decide⟩

end AetherIot.Dataplane
