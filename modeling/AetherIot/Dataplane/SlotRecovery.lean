import AetherIot.Dataplane.Seqlock
import AetherIot.Foundation.Attempt

/-!
# Slots after a crash of their writer

A writer that attaches to an existing mapping looks at the header and leaves the slots as it finds
them.  If the last writer died between the two increments of a sequence counter, the counter is odd
whenever no set is under way and even while one is.
-/

namespace AetherIot.Dataplane

open GuardedRun SlotSystem

variable {ι : Type} [DecidableEq ι]

/-- After every completed call of the new writer a read that is alone returns the last written
triple, and no read returns a mixture. -/
def SlotSystem.Recovers (program : Reading → SlotProgram Unit) (crashed : SlotSystem ι) : Prop :=
  ∀ later : List (SlotInput ι), .reopen ∉ later →
    let system := run (step program) (crashed.step program .reopen) later
    (system.writer = none → (completedSets crashed.log).length < (completedSets system.log).length →
      (PointSlot.tryLoadConsistent.alone system.mapping).2 =
        .ok (some (lastCompleted system.log))) ∧
      Snapshots system.log

variable {mapping : Mapping} {writer : SlotWriter} {slot : Nat} {crashed : SlotSystem ι}

/-- A read that is alone succeeds on an even counter. -/
theorem alone_of_even (even : mapping.slot.seq.toNat % 2 = 0) :
    (PointSlot.tryLoadConsistent.alone mapping).2 = .ok (some mapping.slot.reading) := by
  have zero := land_one_eq_zero_iff.mpr even
  simp [tryLoadConsistent_eq, SlotProgram.alone, Mapping.serve, zero, loadSeqLoaded,
    loadValueLoaded, loadRawLoaded, loadTimestampLoaded, PointSlot.reading]

theorem alone_of_odd (odd : mapping.slot.seq.toNat % 2 ≠ 0) :
    (PointSlot.tryLoadConsistent.alone mapping).2 = .ok none := by
  have nonzero : mapping.slot.seq &&& 1 ≠ 0 := fun zero => odd (land_one_eq_zero_iff.mp zero)
  simp [tryLoadConsistent_eq, SlotProgram.alone, Mapping.serve, nonzero]

/-- A completed call of the new writer leaves the parity of the counter as it was. -/
theorem run_setDirect (inside : slot < writer.slotCount) {system : SlotSystem ι}
    (idle : system.writer = none) (reading : Reading) :
    run (step (writer.setDirect slot)) system (.set reading :: List.replicate 7 .write) =
      { system with
        mapping :=
          { header := { system.mapping.header with writerHeartbeat := reading.timestamp }
            slot :=
              { valueBits := reading.value
                timestamp := reading.timestamp
                rawBits := reading.raw
                seq := system.mapping.slot.seq + 1 + 1
                dirty := 1 } }
        log := system.log ++ [.setCompleted reading] } := by
  obtain ⟨_, _, _, _⟩ := system
  cases idle
  have program : writer.setDirect slot reading = .ask (.fetchAddSeq .relaxed) fun _ =>
      setBegun reading (access (.storeHeartbeat reading.timestamp)) := by
    rw [SlotWriter.setDirect, if_pos inside]
    rfl
  simp only [List.replicate, run, List.foldl, step, Option.isNone_none, if_true, program]
  rfl

theorem SlotSystem.Sound.recovers {ticks : Nat} (sound : crashed.Sound ticks)
    {program : Reading → SlotProgram Unit} (sets : SetsSlot program) (even : ticks % 2 = 0) :
    crashed.Recovers program := by
  intro _ alive
  obtain ⟨_, recovered⟩ := sound_run ⟨ticks, sound.reopen program even⟩ sets alive
  refine ⟨fun idle _ => ?_, recovered.snapshots⟩
  have phase := recovered.writer
  rw [idle] at phase
  cases phase with
  | idle quiet =>
    have evenNow := quiet.seq
    rw [alone_of_even (by omega), quiet.reading]
    rfl

/-- A slot with an odd counter stays unreadable after the first set of the new writer. -/
theorem not_recovers_of_odd (inside : slot < writer.slotCount)
    (odd : crashed.mapping.slot.seq.toNat % 2 ≠ 0) :
    ¬ crashed.Recovers (writer.setDirect slot) := by
  intro recovers
  have first := recovers (.set .unwritten :: List.replicate 7 .write) (by simp)
  rw [run_setDirect inside rfl] at first
  have returned := first.1 rfl (by simp [step])
  have still : (crashed.mapping.slot.seq + 1 + 1).toNat % 2 ≠ 0 := by
    have word := crashed.mapping.slot.seq.toNat_lt
    rw [UInt32.toNat_add, UInt32.toNat_add, UInt32.toNat_one]
    omega
  cases (alone_of_odd still).symm.trans returned

theorem slotCount_of_openExisting {path : String} {mappedLength expectedSlotCount : Nat}
    {header : UnifiedHeader} {expectedLayoutHash : UInt64}
    (opened : SlotWriter.openExisting path mappedLength header expectedSlotCount
      expectedLayoutHash = .ok writer) : writer.slotCount = expectedSlotCount := by
  simp only [SlotWriter.openExisting, Attempt.bind_eq_ok, Attempt.refuse_eq_ok] at opened
  obtain ⟨-, -, -, _, -, counted, -, -, _, -, ⟨⟩⟩ := opened
  exact not_not.mp counted

/-- A slot whose writer died recovers under a new writer exactly when its counter is even. -/
theorem reopened_slot_recovers_iff (header : UnifiedHeader) (writer reopened : SlotWriter)
    (slot : Nat) (inputs : List (SlotInput ι)) (alive : .reopen ∉ inputs)
    (inside : slot < writer.slotCount) (path : String) (mappedLength expectedSlotCount : Nat)
    (expectedLayoutHash : UInt64)
    (opened : SlotWriter.openExisting path mappedLength
      (run (step (writer.setDirect slot)) (.initial ⟨header, .new⟩) inputs).mapping.header
      expectedSlotCount expectedLayoutHash = .ok reopened)
    (expected : slot < expectedSlotCount) :
    (run (step (writer.setDirect slot)) (.initial ⟨header, .new⟩) inputs).Recovers
        (reopened.setDirect slot) ↔
      (run (step (writer.setDirect slot))
        (.initial ⟨header, .new⟩) inputs).mapping.slot.seq.toNat % 2 = 0 := by
  obtain ⟨_, sound⟩ := sound_run ⟨0, sound_initial ⟨header, .new⟩ rfl⟩
    (setsSlot_setDirect inside) alive
  have word := sound.writer.seq_eq
  have reopenedInside : slot < reopened.slotCount := by rwa [slotCount_of_openExisting opened]
  constructor
  · intro recovers
    by_contra odd
    exact not_recovers_of_odd reopenedInside odd recovers
  · intro _
    exact sound.recovers (setsSlot_setDirect reopenedInside) (by omega)

def sampleWriter : SlotWriter := ⟨1, 1⟩

/-- The reading `2.0` with the raw value `20.0`. -/
def secondReading : Reading := ⟨0x4000000000000000, 0x4034000000000000, 200⟩

/-- The reading `3.0` with the raw value `30.0`. -/
def thirdReading : Reading := ⟨0x4008000000000000, 0x403E000000000000, 300⟩

/-- The first set has only begun. -/
def diesInside : List (SlotInput Unit) := [.set firstReading, .write]

/-- The first set is complete but for the dirty flag and the heartbeat. -/
def diesAfter : List (SlotInput Unit) := .set firstReading :: List.replicate 5 .write

theorem reopened_slot_recovers_iff_published :
    (run (step (sampleWriter.setDirect 0)) (.initial ⟨sampleHeader, .new⟩)
      diesAfter).Recovers (sampleWriter.setDirect 0) :=
  (reopened_slot_recovers_iff sampleHeader sampleWriter sampleWriter 0 diesAfter (by decide)
    (by decide) "/dev/shm/aether" 96 1 7 (by decide) (by decide)).mpr (by decide)

/-- After a complete set of the new writer a read returns nothing, and during the next set it
returns a mixture of two sets. -/
theorem interrupted_set_inverts_counter :
    let crashed := run (step (sampleWriter.setDirect 0)) (.initial ⟨sampleHeader, .new⟩) diesInside
    let reopened := run (step (sampleWriter.setDirect 0)) crashed
      (.reopen :: .set secondReading :: List.replicate 7 .write)
    SlotWriter.openExisting "/dev/shm/aether" 96 crashed.mapping.header 1 7 = .ok sampleWriter ∧
      reopened.writer.isNone ∧ lastCompleted reopened.log = secondReading ∧
      (PointSlot.tryLoadConsistent.alone reopened.mapping).2 = .ok none ∧
      (run (step (sampleWriter.setDirect 0)) reopened
        (.set thirdReading :: .write :: .write :: .load () :: List.replicate 5 (.read ()))).log =
        reopened.log ++ [.loadStarted (), .loadReturned ()
          (some ⟨thirdReading.value, secondReading.raw, secondReading.timestamp⟩)] := by
  refine ⟨?_, ?_, ?_, ?_, ?_⟩
  · decide
  · decide
  · decide
  · rfl
  · decide

end AetherIot.Dataplane
