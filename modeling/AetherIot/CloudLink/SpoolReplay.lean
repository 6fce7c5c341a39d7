import AetherIot.CloudLink.SpoolExhaustion

/-!
# Replay never skips a position silently

In a well-formed state a replay from any unacknowledged position yields consecutive records, or the
evidence of the loss that covers the position.  The property holds along a run exactly as long as
no call performs an exhausted eviction, which the last call of a long alternating run does.
-/

namespace AetherIot.CloudLink

open MachineText OrderedMap GuardedRun

namespace CloudLinkSpoolState

variable {state : CloudLinkSpoolState} {input : CloudLinkEnqueue}

section

variable (state)

def RetainsInterval : Prop :=
  ∀ position, position ∈ state.records ↔
    state.earliestRetained ≤ position ∧ position < state.nextPosition

/-- `window` holds exactly the records from `position` on, at most `limit` of them. -/
def Consecutive (position : UInt64) (limit : Nat) (window : CloudLinkReplayWindow) : Prop :=
  window.dataLoss = none ∧ window.records.map (fun record => record.identity.position.toNat) =
      List.range' position.toNat (min limit (state.nextPosition.toNat - position.toNat)) ∧
    ∀ record ∈ window.records, state.records[record.identity.position]? = some record

/-- `window` holds no records, and evidence whose range contains `position`. -/
def ReportsLoss (position : UInt64) (window : CloudLinkReplayWindow) : Prop :=
  window.records = [] ∧ ∃ evidence, window.dataLoss = some evidence ∧
    evidence.firstLostPosition ≤ position ∧ position ≤ evidence.lastLostPosition

/-- Every replay from an unacknowledged position succeeds and accounts for that position. -/
def ReplayAccounts : Prop :=
  ∀ (position : UInt64) (limit : Nat), state.lastAcknowledgedPosition < position →
    position ≤ state.nextPosition → 0 < limit →
    ∃ window, state.replayFrom position limit = .ok window ∧
      (state.Consecutive position limit window ∨ ReportsLoss position window)

end

variable {position : UInt64} {limit : Nat}

theorem replayFrom_retained (positive : 0 < position) (some_records : 0 < limit)
    (lower : state.earliestRetained ≤ position) (upper : position ≤ state.nextPosition) :
    state.replayFrom position limit =
      .ok ⟨((entriesFrom state.records position).take limit).map Prod.snd, none⟩ := by
  unfold replayFrom
  rw [if_neg (by grind), if_neg (by grind), if_neg (by grind)]

theorem replayFrom_lost {evidence : CloudLinkDataLossEvidence} (positive : 0 < position)
    (some_records : 0 < limit) (lower : position < state.earliestRetained)
    (upper : position ≤ state.nextPosition) (present : state.dataLoss = some evidence)
    (first : evidence.firstLostPosition ≤ position) (last : position ≤ evidence.lastLostPosition) :
    state.replayFrom position limit = .ok ⟨[], some evidence⟩ := by
  unfold replayFrom
  rw [if_neg (by grind), if_neg (by grind), if_pos lower, present,
    Option.filter_some_pos (by simp [first, last])]

/-- A position below the window that no evidence covers cannot be replayed. -/
theorem replayFrom_uncovered (lower : position < state.earliestRetained)
    (uncovered : ∀ evidence, state.dataLoss = some evidence → evidence.lastLostPosition < position)
    (window : CloudLinkReplayWindow) :
    state.replayFrom position limit ≠ .ok window := by
  unfold replayFrom
  split
  · simp
  · split
    · simp
    · have vacant : (state.dataLoss.filter fun evidence =>
          evidence.firstLostPosition ≤ position && position ≤ evidence.lastLostPosition) = none := by
        rw [Option.filter_eq_none_iff]
        intro evidence present
        have := uncovered evidence present
        simp only [Bool.and_eq_true, decide_eq_true_eq]
        grind
      simp [vacant]

theorem WellFormed.retainsInterval (wellFormed : state.WellFormed) : state.RetainsInterval :=
  wellFormed.window.mem_iff

theorem consecutive_of_window
    (window : Window state.records state.earliestRetained state.nextPosition)
    (identified : ∀ (position : UInt64) (record : CloudLinkRecord),
      state.records[position]? = some record →
        record.identity = ⟨state.streamId, state.streamEpoch, position⟩)
    (lower : state.earliestRetained ≤ position) :
    state.Consecutive position limit
      ⟨((entriesFrom state.records position).take limit).map Prod.snd, none⟩ := by
  have keyed : ∀ entry ∈ entriesFrom state.records position,
      state.records[entry.1]? = some entry.2 ∧ entry.2.identity.position = entry.1 := by
    intro entry member
    have retained := (mem_entriesFrom.mp member).1
    exact ⟨retained, by rw [identified _ _ retained]⟩
  refine ⟨rfl, ?_, ?_⟩
  · have positions : (entriesFrom state.records position).map
          (fun entry => entry.2.identity.position.toNat) =
        (entriesFrom state.records position).map (fun entry => entry.1.toNat) := by
      apply List.map_congr_left
      intro entry member
      rw [(keyed entry member).2]
    calc
      ((((entriesFrom state.records position).take limit).map Prod.snd).map
            fun record => record.identity.position.toNat) =
          ((entriesFrom state.records position).map
            fun entry => entry.2.identity.position.toNat).take limit := by
        simp [List.map_take, Function.comp_def]
      _ = (List.range' position.toNat
            (state.nextPosition.toNat - position.toNat)).take limit := by
        rw [positions, window.positions_entriesFrom lower]
      _ = List.range' position.toNat
            (min limit (state.nextPosition.toNat - position.toNat)) := by
        simp [List.range'_eq_map_range, ← List.map_take, List.take_range]
  · intro _ member
    simp only [List.mem_map] at member
    obtain ⟨entry, taken, rfl⟩ := member
    have found := keyed entry (List.mem_of_mem_take taken)
    rw [found.2]
    exact found.1

theorem WellFormed.consecutive (wellFormed : state.WellFormed)
    (lower : state.earliestRetained ≤ position) :
    state.Consecutive position limit
      ⟨((entriesFrom state.records position).take limit).map Prod.snd, none⟩ :=
  consecutive_of_window wellFormed.window wellFormed.sound.identified lower

theorem WellFormed.replayAccounts (wellFormed : state.WellFormed) : state.ReplayAccounts := by
  intro position _ _ upper some_records
  have positive : 0 < position := by grind
  by_cases lower : state.earliestRetained ≤ position
  · exact ⟨_, replayFrom_retained positive some_records lower upper,
      .inl (wellFormed.consecutive lower)⟩
  · have below : position < state.earliestRetained := UInt64.not_le.mp lower
    have gap : state.earliestRetained ≠ state.lastAcknowledgedPosition + 1 := by grind
    obtain ⟨evidence, present, bridges⟩ := wellFormed.covered gap
    have under := (wellFormed.evidenceFits evidence present).below
    have first : evidence.firstLostPosition ≤ position := by
      have := bridges.1
      grind
    have last : position ≤ evidence.lastLostPosition := by
      have := bridges.2
      grind
    exact ⟨_, replayFrom_lost positive some_records below upper present first last,
      .inr ⟨rfl, evidence, rfl, first, last⟩⟩

/-- After an exhausted eviction the evicted position is unacknowledged and cannot be replayed. -/
theorem WellFormed.not_replayAccounts_evict (wellFormed : state.WellFormed)
    (oldest : firstKey state.records = some position) :
    ¬ (state.evict position).ReplayAccounts := by
  intro accounts
  obtain ⟨place, _⟩ := wellFormed.oldest oldest
  have unacknowledged : state.lastAcknowledgedPosition < position :=
    place ▸ wellFormed.acknowledgedBelow
  obtain ⟨window, replayed, -⟩ := accounts position 1 unacknowledged (by
    change position ≤ state.nextPosition
    grind) Nat.one_pos
  refine replayFrom_uncovered ?_ ?_ window replayed
  · rw [wellFormed.toConsistent.earliestRetained_evict oldest]
    grind
  · intro evidence present
    rw [place]
    exact (wellFormed.evidenceFits evidence present).below

/-- The state after any prefix of a run keeps the replay contract. -/
def ReplayFaithful (initial : CloudLinkSpoolState) (operations : List SpoolOperation) : Prop :=
  ∀ front back, operations = front ++ back →
    (run step initial front).RetainsInterval ∧ (run step initial front).ReplayAccounts

/-- A run that reaches an exhausted eviction loses a position without evidence. -/
theorem not_replayFaithful_of_exhausts {initial : CloudLinkSpoolState}
    {front back : List SpoolOperation} {operation : SpoolOperation}
    (before : (run step initial front).WellFormed)
    (exhausts : (run step initial front).Exhausts operation) :
    ¬ ReplayFaithful initial (front ++ operation :: back) := by
  intro faithful
  cases operation with
  | enqueue input =>
    obtain ⟨_, oldest, stepped⟩ := before.toConsistent.exhausts_evicts exhausts
    have after := (faithful (front ++ [.enqueue input]) back (by simp)).2
    rw [run_snoc, stepped] at after
    exact before.not_replayAccounts_evict oldest after
  | _ => exact exhausts.elim

/-- Replay accounts for every unacknowledged position throughout a run exactly when no call of the
run enqueues a new valid batch into a full spool whose position counter is exhausted. -/
theorem replay_never_skips {streamId : String} {capacity : UInt64} {initial : CloudLinkSpoolState}
    (created : new streamId capacity = .ok initial) (operations : List SpoolOperation) :
    ReplayFaithful initial operations ↔
      Guarded step (fun state operation => ¬ state.Exhausts operation) initial operations := by
  have start := new_wellFormed created
  constructor
  · intro faithful
    by_contra violated
    obtain ⟨_, _, _, rfl, earlier, breaks⟩ := exists_first_violation violated
    exact not_replayFaithful_of_exhausts (start.run earlier) (not_not.mp breaks) faithful
  · rintro guarded _ _ rfl
    have wellFormed := start.run (guarded_append.mp guarded).1
    exact ⟨wellFormed.retainsInterval, wellFormed.replayAccounts⟩

/-- Replay stays faithful through an overflow that still has positions left. -/
theorem replay_never_skips_overflow :
    new "telemetry" 1 = .ok singleSlot ∧ ReplayFaithful singleSlot (alternatingRun 2) := by
  refine ⟨new_singleSlot, (replay_never_skips new_singleSlot (alternatingRun 2)).mpr ?_⟩
  refine ⟨fun exhausts => ?_, fun exhausts => ?_, trivial⟩
  · exact absurd exhausts.2.2.2 (by decide)
  · exact absurd exhausts.2.2.2 (by decide)

/-- Enqueueing alternating batches until the positions run out evicts the record at position
`2 ^ 64 - 2` without evidence, so that replay from that position fails. -/
theorem exhausted_enqueue_skips : new "telemetry" 1 = .ok singleSlot ∧
      ¬ ReplayFaithful singleSlot (alternatingRun (2 ^ 64 - 1)) := by
  refine ⟨new_singleSlot, ?_⟩
  obtain ⟨_, _, split, before, exhausts⟩ := alternatingRun_exhausts
  rw [split]
  exact not_replayFaithful_of_exhausts before exhausts

end CloudLinkSpoolState

end AetherIot.CloudLink
