import AetherIot.Io.Reconnect

/-!
# Reconnection makes progress

The number of automatic attempts between two connections is bounded in every run.  A channel without
a connection attempts another one, unless a command interrupted a backoff or a connection was lost
before the next tick saw it.
-/

namespace AetherIot.Io

open GuardedRun

section

variable (log : List LinkEvent)

/-- The attempts after the last connection. -/
def sinceConnection : Nat :=
  log.foldl (fun count event => match event with
    | .attempt => count + 1
    | .connection => 0
    | .recovery => count) 0

/-- The attempts after the last connection or recovery. -/
def sinceReset : Nat :=
  log.foldl (fun count event => match event with
    | .attempt => count + 1
    | .connection | .recovery => 0) 0

@[simp] theorem sinceConnection_attempt :
    sinceConnection (log ++ [.attempt]) = sinceConnection log + 1 := by
  simp [sinceConnection]

@[simp] theorem sinceConnection_connection : sinceConnection (log ++ [.connection]) = 0 := by
  simp [sinceConnection]

@[simp] theorem sinceConnection_recovery :
    sinceConnection (log ++ [.recovery]) = sinceConnection log := by
  simp [sinceConnection]

@[simp] theorem sinceReset_attempt : sinceReset (log ++ [.attempt]) = sinceReset log + 1 := by
  simp [sinceReset]

end

theorem count_le_sinceConnection {segment : List LinkEvent} (front : List LinkEvent)
    (apart : .connection ∉ segment) :
    segment.count .attempt ≤ sinceConnection (front ++ segment) := by
  induction segment using List.reverseRecOn with
  | nil => exact Nat.zero_le _
  | append_singleton _ event ih =>
    have earlier := ih fun member => apart (List.mem_append_left _ member)
    rw [← List.append_assoc, List.count_append]
    cases event with
    | attempt =>
      rw [sinceConnection_attempt]
      exact Nat.add_le_add_right earlier 1
    | connection => exact absurd (by simp) apart
    | recovery =>
      rw [sinceConnection_recovery]
      exact earlier

namespace ReconnectHelper

variable (helper : ReconnectHelper)

/-- The attempts that the helper has counted, over all rounds. -/
def spent : Nat :=
  helper.recoveryRounds.toNat * helper.policy.maxAttempts.toNat + helper.currentAttempt.toNat

/-- The rounds of recovery that are allowed. -/
def roundLimit : Nat :=
  (helper.autoRecovery.map (·.maxRecoveryRounds.toNat)).getD 0

/-- The counters are within their limits. -/
structure WithinLimits : Prop where
  attempts : helper.policy.maxAttempts ≠ 0 → helper.currentAttempt ≤ helper.policy.maxAttempts
  rounds : helper.recoveryRounds.toNat ≤ helper.roundLimit

variable {helper : ReconnectHelper}

theorem WithinLimits.spent_le (within : helper.WithinLimits)
    (limited : helper.policy.maxAttempts ≠ 0) :
    helper.spent ≤ helper.policy.maxAttempts.toNat * (1 + helper.roundLimit) := by
  have attempts := UInt32.le_iff_toNat_le.mp (within.attempts limited)
  calc helper.spent ≤ helper.roundLimit * helper.policy.maxAttempts.toNat +
          helper.policy.maxAttempts.toNat :=
        Nat.add_le_add (Nat.mul_le_mul_right _ within.rounds) attempts
    _ = helper.policy.maxAttempts.toNat * (1 + helper.roundLimit) := by ring

/-- What an operation of the helper keeps. -/
structure Keeps (helper after : ReconnectHelper) : Prop where
  policy : after.policy = helper.policy
  autoRecovery : after.autoRecovery = helper.autoRecovery
  within : helper.WithinLimits → after.WithinLimits

section

variable (helper)

theorem keeps_markConnected : helper.Keeps helper.markConnected :=
  ⟨rfl, rfl, fun _ => ⟨fun _ => UInt32.zero_le, Nat.zero_le _⟩⟩

theorem keeps_recordFailure (now : Nanos) :
    helper.Keeps (helper.recordFailure now) ∧ (helper.recordFailure now).spent = helper.spent := by
  simp only [recordFailure]
  split
  · exact ⟨⟨rfl, rfl, fun within => ⟨within.attempts, within.rounds⟩⟩, rfl⟩
  · exact ⟨⟨rfl, rfl, fun within => ⟨within.attempts, within.rounds⟩⟩, rfl⟩

theorem exhausted_iff : helper.exhausted = true ↔
    helper.policy.maxAttempts ≠ 0 ∧ helper.policy.maxAttempts ≤ helper.currentAttempt := by
  simp only [exhausted, Bool.and_eq_true, decide_eq_true_eq, ge_iff_le, gt_iff_lt,
    UInt32.pos_iff_ne_zero]

end

theorem toNat_succ_of_not_exhausted (limited : helper.policy.maxAttempts ≠ 0)
    (left : helper.exhausted = false) :
    (helper.currentAttempt + 1).toNat = helper.currentAttempt.toNat + 1 ∧
      helper.currentAttempt.toNat + 1 ≤ helper.policy.maxAttempts.toNat := by
  have below : helper.currentAttempt.toNat < helper.policy.maxAttempts.toNat := by
    by_contra reached
    have reached := UInt32.le_iff_toNat_le.mpr (Nat.le_of_not_lt reached)
    simp [(exhausted_iff helper).mpr ⟨limited, reached⟩] at left
  have small := helper.policy.maxAttempts.toNat_lt
  refine ⟨?_, below⟩
  rw [UInt32.toNat_add, UInt32.toNat_one]
  omega

theorem recordAttempt_refused (full : helper.exhausted = true) (now : Nanos) :
    helper.recordAttempt now = (false, helper.enterFailed now) := by
  simp only [recordAttempt, full, if_true]

theorem recordAttempt_allowed (left : helper.exhausted = false) (now : Nanos) :
    helper.recordAttempt now = (true, { helper with
      currentAttempt := helper.currentAttempt + 1
      totalAttempts := helper.totalAttempts + 1
      connectionState := .reconnecting }) := by
  simp only [recordAttempt, left, Bool.false_eq_true, if_false]

theorem keeps_enterFailed (helper : ReconnectHelper) (now : Nanos) :
    helper.Keeps (helper.enterFailed now) :=
  ⟨rfl, rfl, fun within => ⟨within.attempts, within.rounds⟩⟩

theorem keeps_recordAttempt (helper : ReconnectHelper) (now : Nanos) :
    helper.Keeps (helper.recordAttempt now).2 := by
  cases left : helper.exhausted with
  | true =>
    rw [recordAttempt_refused left]
    exact helper.keeps_enterFailed now
  | false =>
    rw [recordAttempt_allowed left]
    refine ⟨rfl, rfl, fun within => ⟨fun limited => ?_, within.rounds⟩⟩
    have limited : helper.policy.maxAttempts ≠ 0 := limited
    obtain ⟨counted, below⟩ := toNat_succ_of_not_exhausted limited left
    exact UInt32.le_iff_toNat_le.mpr (counted.trans_le below)

theorem spent_recordAttempt (limited : helper.policy.maxAttempts ≠ 0)
    (left : helper.exhausted = false) (now : Nanos) :
    (helper.recordAttempt now).2.spent = helper.spent + 1 := by
  rw [recordAttempt_allowed left]
  simp only [spent, (toNat_succ_of_not_exhausted limited left).1, Nat.add_assoc]

/-- What a check for recovery does: nothing but noting the time, or the next round. -/
theorem checkAutoRecovery_cases (helper : ReconnectHelper) (now : Nanos) :
    (∃ failedAt, (helper.failedAt.isSome → failedAt.isSome) ∧
      helper.checkAutoRecovery now = (false, { helper with failedAt })) ∨
      ∃ recovery, helper.autoRecovery = some recovery ∧ helper.connectionState = .failed ∧
        helper.recoveryRounds < recovery.maxRecoveryRounds ∧
        recovery.cooldown ≤ now - helper.failedAt.getD now ∧
        helper.checkAutoRecovery now = (true, { helper with
          recoveryRounds := helper.recoveryRounds + 1
          failedAt := none
          currentAttempt := 0
          connectionState := .disconnected }) := by
  rcases helper with ⟨_, _, state, _, recovery, failedAt, rounds⟩
  cases recovery with
  | none => exact .inl ⟨failedAt, id, rfl⟩
  | some recovery =>
    by_cases failed : state = .failed
    · by_cases left : rounds < recovery.maxRecoveryRounds
      · by_cases early : now - failedAt.getD now < recovery.cooldown
        · exact .inl ⟨some (failedAt.getD now), fun _ => rfl,
            by simp [checkAutoRecovery, failed, early]⟩
        · refine .inr ⟨recovery, rfl, failed, left, Nat.le_of_not_lt early, ?_⟩
          simp [checkAutoRecovery, failed, left, early, reset]
      · exact .inl ⟨some (failedAt.getD now), fun _ => rfl,
          by simp [checkAutoRecovery, failed, UInt32.not_lt.mp left]⟩
    · exact .inl ⟨failedAt, id, by simp [checkAutoRecovery, failed]⟩

theorem keeps_checkAutoRecovery (helper : ReconnectHelper) (now : Nanos) :
    helper.Keeps (helper.checkAutoRecovery now).2 := by
  obtain ⟨_, -, same⟩ | ⟨recovery, enabled, -, rounds, -, same⟩ :=
    helper.checkAutoRecovery_cases now
  · rw [same]
    exact ⟨rfl, rfl, fun within => ⟨within.attempts, within.rounds⟩⟩
  · rw [same]
    refine ⟨rfl, rfl, fun within => ⟨fun _ => UInt32.zero_le, ?_⟩⟩
    have limit : helper.roundLimit = recovery.maxRecoveryRounds.toNat := by
      simp [roundLimit, enabled]
    have below := UInt32.lt_iff_toNat_lt.mp rounds
    have small := recovery.maxRecoveryRounds.toNat_lt
    show (helper.recoveryRounds + 1).toNat ≤ helper.roundLimit
    rw [limit, UInt32.toNat_add, UInt32.toNat_one]
    omega

theorem spent_checkAutoRecovery (within : helper.WithinLimits)
    (limited : helper.policy.maxAttempts ≠ 0) (now : Nanos) :
    helper.spent ≤ (helper.checkAutoRecovery now).2.spent := by
  obtain ⟨_, -, same⟩ | ⟨recovery, _, -, rounds, -, same⟩ := helper.checkAutoRecovery_cases now
  · rw [same]
    exact Nat.le_refl _
  · rw [same]
    have attempts := UInt32.le_iff_toNat_le.mp (within.attempts limited)
    have below := UInt32.lt_iff_toNat_lt.mp rounds
    have small := recovery.maxRecoveryRounds.toNat_lt
    have counted : (helper.recoveryRounds + 1).toNat = helper.recoveryRounds.toNat + 1 := by
      rw [UInt32.toNat_add, UInt32.toNat_one]
      omega
    simp only [spent, counted, UInt32.toNat_zero, Nat.add_mul, Nat.one_mul, Nat.add_zero]
    exact Nat.add_le_add_left attempts _

end ReconnectHelper

open ReconnectHelper

namespace ChannelTask

/-- The attempts since the last connection are counted by the helper. -/
structure Accounted (policy : ReconnectPolicy) (recovery : Option AutoRecoveryPolicy)
    (task : ChannelTask) : Prop where
  samePolicy : task.helper.policy = policy
  sameRecovery : task.helper.autoRecovery = recovery
  within : task.helper.WithinLimits
  counted : policy.maxAttempts ≠ 0 → sinceConnection task.log ≤ task.helper.spent
  fresh : task.connected = true → sinceConnection task.log = 0
  bounded : policy.maxAttempts ≠ 0 → ∀ front, front <+: task.log →
    sinceConnection front ≤ policy.maxAttempts.toNat * (1 + task.helper.roundLimit)

variable {policy : ReconnectPolicy} {recovery : Option AutoRecoveryPolicy} {task : ChannelTask}

section

variable (accounted : Accounted policy recovery task)

include accounted

theorem Accounted.setHelper {helper : ReconnectHelper} (keeps : task.helper.Keeps helper)
    (counted : policy.maxAttempts ≠ 0 → sinceConnection task.log ≤ helper.spent) :
    Accounted policy recovery { task with helper } where
  samePolicy := keeps.policy.trans accounted.samePolicy
  sameRecovery := keeps.autoRecovery.trans accounted.sameRecovery
  within := keeps.within accounted.within
  counted := counted
  fresh := accounted.fresh
  bounded := by
    intro limited front prefixed
    have same : helper.roundLimit = task.helper.roundLimit := by
      simp [roundLimit, keeps.autoRecovery]
    show _ ≤ _ * (1 + helper.roundLimit)
    rw [same]
    exact accounted.bounded limited front prefixed

theorem Accounted.addEvent (event : LinkEvent) (counted : policy.maxAttempts ≠ 0 →
      sinceConnection (task.log ++ [event]) ≤ task.helper.spent)
    (fresh : task.connected = true → sinceConnection (task.log ++ [event]) = 0) :
    Accounted policy recovery (task.addEvent event) where
  samePolicy := accounted.samePolicy
  sameRecovery := accounted.sameRecovery
  within := accounted.within
  counted := counted
  fresh := fresh
  bounded := by
    intro limited front prefixed
    obtain rfl | earlier := List.prefix_concat_iff.mp prefixed
    · refine (counted limited).trans ?_
      have budget := accounted.within.spent_le (accounted.samePolicy ▸ limited)
      rw [accounted.samePolicy] at budget
      exact budget
    · exact accounted.bounded limited front earlier

theorem Accounted.setLink (connected : Bool) :
    Accounted policy recovery (task.setLink connected) := by
  cases connected with
  | false => exact { accounted with fresh := fun up => by cases up }
  | true =>
    have added := accounted.addEvent .connection (by simp) (by simp)
    exact { added with fresh := fun _ => by simp [ChannelTask.setLink, ChannelTask.addEvent] }

theorem Accounted.settle (outcome : ConnectOutcome) :
    Accounted policy recovery (task.settle outcome) := by
  cases outcome with
  | succeeded => exact accounted.setLink true
  | failed connected => exact accounted.setLink connected

theorem Accounted.markConnected (connected : task.connected = true) :
    Accounted policy recovery { task with helper := task.helper.markConnected } := by
  refine accounted.setHelper task.helper.keeps_markConnected fun _ => ?_
  rw [accounted.fresh connected]
  exact Nat.zero_le _

theorem Accounted.stop :
    Accounted policy recovery { task with running := false } := { accounted with }

theorem Accounted.backoffCommand (command : ProtocolCommand) :
    Accounted policy recovery (task.handleBackoffCommand command) := by
  cases command with
  | shutdown => exact accounted.stop
  | connect outcome =>
    cases outcome with
    | succeeded => exact (accounted.setLink true).markConnected rfl
    | failed connected => exact accounted.setLink connected
  | disconnect => exact accounted.setLink false
  | getConnectionState | getDiagnostics | setLogLevel => exact accounted

section

variable (down : task.connected = false)
  (counted : policy.maxAttempts ≠ 0 → sinceConnection task.log + 1 ≤ task.helper.spent)
  (tick : Tick)

include down counted

theorem Accounted.attempt : Accounted policy recovery (task.attemptReconnect tick) := by
  obtain ⟨_, _, outcome, finish, _⟩ := tick
  have added := accounted.addEvent .attempt (by simpa using counted) (by simp [down])
  have settled := added.settle outcome
  cases outcome with
  | succeeded => exact settled.markConnected rfl
  | failed connected =>
    obtain ⟨keeps, spent⟩ := ((task.addEvent .attempt).settle (.failed connected)).helper
      |>.keeps_recordFailure finish
    refine settled.setHelper keeps fun limited => ?_
    rw [spent]
    exact settled.counted limited

theorem Accounted.backoff : Accounted policy recovery (task.backoffAndAttempt tick) := by
  simp only [backoffAndAttempt]
  split
  · split
    · exact accounted.stop
    · split
      · exact accounted.backoffCommand _
      · exact accounted.attempt down counted tick
  · exact accounted.attempt down counted tick

end

theorem Accounted.recordAndAttempt (down : task.connected = false) (tick : Tick) :
    Accounted policy recovery (task.recordAndAttempt tick) := by
  have keeps := task.helper.keeps_recordAttempt tick.now
  cases left : task.helper.exhausted with
  | true =>
    simp only [ChannelTask.recordAndAttempt,
      recordAttempt_refused left, Bool.false_eq_true, if_false]
    exact accounted.setHelper (task.helper.keeps_enterFailed tick.now) accounted.counted
  | false =>
    have allowed : (task.helper.recordAttempt tick.now).1 = true := by
      rw [recordAttempt_allowed left]
    have counted (limited : policy.maxAttempts ≠ 0) : sinceConnection task.log + 1 ≤
        (task.helper.recordAttempt tick.now).2.spent := by
      rw [spent_recordAttempt (accounted.samePolicy ▸ limited) left]
      exact Nat.add_le_add_right (accounted.counted limited) 1
    simp only [ChannelTask.recordAndAttempt, allowed, if_true]
    have recorded := accounted.setHelper keeps fun limited =>
      (Nat.le_succ _).trans (counted limited)
    exact recorded.backoff down counted tick

theorem Accounted.disconnectedTick (down : task.connected = false) (tick : Tick) :
    Accounted policy recovery (task.handleDisconnected tick) := by
  simp only [handleDisconnected]
  split
  · have checked := accounted.setHelper (task.helper.keeps_checkAutoRecovery tick.now)
      fun limited => (accounted.counted limited).trans (spent_checkAutoRecovery accounted.within
          (accounted.samePolicy ▸ limited) tick.now)
    split
    · refine checked.addEvent .recovery ?_ (by simp [down])
      simpa using checked.counted
    · exact checked
  · exact accounted
  · refine Accounted.recordAndAttempt ?_ down tick
    exact accounted.setHelper ⟨rfl, rfl, fun within => ⟨within.attempts, within.rounds⟩⟩
      accounted.counted
  · exact accounted.recordAndAttempt down tick

theorem Accounted.connectedTick (up : task.connected = true) (tick : Tick) :
    Accounted policy recovery { task with
      helper := if task.helper.connectionState ≠ .connected then task.helper.markConnected
        else task.helper
      connected := tick.stays } := by
  have marked : Accounted policy recovery { task with
      helper := if task.helper.connectionState ≠ .connected then task.helper.markConnected
        else task.helper } := by
    split
    · exact accounted.markConnected up
    · exact accounted
  exact { marked with fresh := fun _ => accounted.fresh up }

theorem accounted_step (input : Input) : Accounted policy recovery (task.step input) := by
  simp only [step]
  split
  · cases input with
    | tick tick =>
      simp only [handlePollTick]
      split
      · rename_i up
        exact accounted.connectedTick up tick
      · rename_i down
        exact accounted.disconnectedTick (by simpa using down) tick
    | command command =>
      cases command with
      | shutdown => exact accounted.stop
      | connect outcome => exact accounted.settle outcome
      | disconnect => exact accounted.setLink false
      | getConnectionState | getDiagnostics | setLogLevel => exact accounted
    | link connected => exact accounted.setLink connected
  · exact accounted

end

section

variable (policy) (recovery) (connected : Bool)

theorem accounted_start : Accounted policy (start policy recovery connected).helper.autoRecovery
      (start policy recovery connected) where
  samePolicy := by
    cases recovery with
    | none => rfl
    | some =>
      simp only [start, withAutoRecovery]
      split <;> rfl
  sameRecovery := rfl
  within := by
    cases recovery with
    | none => exact ⟨fun _ => UInt32.zero_le, Nat.zero_le _⟩
    | some =>
      simp only [start, withAutoRecovery]
      split <;> exact ⟨fun _ => UInt32.zero_le, Nat.zero_le _⟩
  counted := fun _ => Nat.zero_le _
  fresh := fun _ => rfl
  bounded := by
    intro _ front prefixed
    rw [show front = [] from List.prefix_nil.mp prefixed]
    exact Nat.zero_le _

/-- The rounds of recovery that a configuration allows. -/
def roundLimit : Nat :=
  (recovery.map (·.maxRecoveryRounds.toNat)).getD 0

theorem roundLimit_start :
    (start policy recovery connected).helper.roundLimit = roundLimit recovery := by
  cases recovery with
  | none => rfl
  | some recovery =>
    simp only [start, ReconnectHelper.withAutoRecovery]
    split
    · rfl
    · rename_i disabled
      have zero : recovery.maxRecoveryRounds = 0 := by
        simpa [UInt32.pos_iff_ne_zero] using disabled
      simp [ReconnectHelper.roundLimit, ReconnectHelper.new, roundLimit, zero]

end

/-- What keeps reconnection going: a backoff is interrupted by nothing but a successful connection or
the end of the task, and a connection that comes up is not lost before a tick saw it. -/
def Undisturbed (task : ChannelTask) : Input → Prop
  | .tick tick => tick.interruption = none ∨ tick.interruption = some (.connect .succeeded) ∨
      tick.interruption = some .shutdown
  | .command .disconnect | .command (.connect (.failed false)) | .link false =>
    task.connected = true → task.helper.connectionState = .connected
  | _ => True

/-- The state of a task that nothing disturbed. -/
structure Ready (task : ChannelTask) : Prop where
  settled : task.helper.connectionState ≠ .reconnecting
  failed : task.helper.connectionState = .failed →
    task.helper.exhausted = true ∧ task.helper.failedAt.isSome
  seen : task.helper.connectionState = .connected → task.helper.currentAttempt = 0
  counted : task.connected = false → task.helper.currentAttempt.toNat ≤ sinceReset task.log

theorem ready_markConnected (task : ChannelTask) :
    Ready { task with helper := task.helper.markConnected } where
  settled := by simp [markConnected]
  failed := by simp [markConnected]
  seen := fun _ => rfl
  counted := fun _ => Nat.zero_le _

theorem Ready.setLink (ready : Ready task) {connected : Bool}
    (kept : connected = false → task.connected = true →
      task.helper.connectionState = .connected) : Ready (task.setLink connected) := by
  cases connected with
  | true => exact ⟨ready.settled, ready.failed, ready.seen, fun down => by cases down⟩
  | false =>
    refine ⟨ready.settled, ready.failed, ready.seen, fun _ => ?_⟩
    cases up : task.connected with
    | false => exact ready.counted up
    | true =>
      show task.helper.currentAttempt.toNat ≤ _
      rw [ready.seen (kept rfl up)]
      exact Nat.zero_le _

theorem ready_recordFailure (down : task.connected = false →
      task.helper.currentAttempt.toNat ≤ sinceReset task.log) (now : Nanos) :
    Ready { task with helper := task.helper.recordFailure now } := by
  simp only [recordFailure]
  split
  · rename_i full
    exact ⟨by simp [enterFailed], fun _ => ⟨full, by
      simp [enterFailed]⟩, by simp [enterFailed], down⟩
  · exact ⟨by simp, by simp, by simp, down⟩

theorem ready_attempt (counted : task.helper.currentAttempt.toNat ≤ sinceReset task.log + 1)
    (tick : Tick) : Ready (task.attemptReconnect tick) := by
  obtain ⟨_, _, outcome, finish, _⟩ := tick
  cases outcome with
  | succeeded => exact ready_markConnected _
  | failed connected =>
    cases connected with
    | true => exact ready_recordFailure (fun down => by cases down) finish
    | false => exact ready_recordFailure (fun _ => by simpa [settle, setLink, addEvent]) finish

/-- A task that is ready as long as it runs. -/
def ReadyIfRunning (task : ChannelTask) : Prop := task.running = true → Ready task

variable {tick : Tick}

theorem ready_backoff (counted : task.helper.currentAttempt.toNat ≤ sinceReset task.log + 1)
    (undisturbed : Undisturbed task (.tick tick)) :
    ReadyIfRunning (task.backoffAndAttempt tick) := by
  simp only [backoffAndAttempt]
  split
  · split
    · exact fun running => by cases running
    · split
      · rename_i interrupted
        obtain quiet | connects | shuts := undisturbed
        · simp [interrupted] at quiet
        · cases interrupted.symm.trans connects
          exact fun _ => ready_markConnected _
        · cases interrupted.symm.trans shuts
          exact fun running => by cases running
      · exact fun _ => ready_attempt counted tick
  · exact fun _ => ready_attempt counted tick

theorem ready_recordAndAttempt (counted : task.helper.currentAttempt.toNat ≤ sinceReset task.log)
    (undisturbed : Undisturbed task (.tick tick)) :
    ReadyIfRunning (task.recordAndAttempt tick) := by
  cases left : task.helper.exhausted with
  | true =>
    simp only [recordAndAttempt, recordAttempt_refused left, Bool.false_eq_true, if_false]
    exact fun _ => ⟨by simp [enterFailed],
      fun _ => ⟨left, by simp [enterFailed]⟩,
      by simp [enterFailed], fun _ => counted⟩
  | false =>
    simp only [recordAndAttempt, recordAttempt_allowed left, if_true]
    refine ready_backoff ?_ undisturbed
    show (task.helper.currentAttempt + 1).toNat ≤ sinceReset task.log + 1
    rw [UInt32.toNat_add, UInt32.toNat_one]
    exact (Nat.mod_le _ _).trans (Nat.add_le_add_right counted 1)

theorem Ready.checkRecovery (ready : Ready task) (failed : task.helper.connectionState = .failed)
    (now : Nanos) :
    Ready (if (task.helper.checkAutoRecovery now).1 then
        { task with helper := (task.helper.checkAutoRecovery now).2 }.addEvent .recovery
      else { task with helper := (task.helper.checkAutoRecovery now).2 }) := by
  obtain ⟨_, noted, same⟩ | ⟨_, -, -, -, -, same⟩ := task.helper.checkAutoRecovery_cases now
  · obtain ⟨full, known⟩ := ready.failed failed
    simp only [same, Bool.false_eq_true, if_false]
    exact ⟨ready.settled, fun _ => ⟨full, noted known⟩, ready.seen, ready.counted⟩
  · simp only [same, if_true]
    exact ⟨by simp [addEvent], by simp [addEvent], by simp [addEvent], fun _ => Nat.zero_le _⟩

theorem Ready.disconnectedTick (ready : Ready task) (down : task.connected = false)
    (undisturbed : Undisturbed task (.tick tick)) :
    ReadyIfRunning (task.handleDisconnected tick) := by
  simp only [handleDisconnected]
  split
  · rename_i failed
    exact fun _ => ready.checkRecovery failed tick.now
  · exact fun _ => ready
  · exact ready_recordAndAttempt (ready.counted down) undisturbed
  · exact ready_recordAndAttempt (ready.counted down) undisturbed

theorem Ready.connectedTick (ready : Ready task) (stays : Bool) : Ready { task with
      helper := if task.helper.connectionState ≠ .connected then task.helper.markConnected
        else task.helper
      connected := stays } := by
  split
  · exact ready_markConnected { task with connected := stays }
  · rename_i known
    have connected : task.helper.connectionState = .connected := by simpa using known
    refine ⟨ready.settled, ready.failed, ready.seen, fun _ => ?_⟩
    show task.helper.currentAttempt.toNat ≤ _
    rw [ready.seen connected]
    exact Nat.zero_le _

theorem ready_step (ready : ReadyIfRunning task) {input : Input}
    (undisturbed : Undisturbed task input) : ReadyIfRunning (task.step input) := by
  simp only [step]
  split
  · rename_i running
    have ready := ready running
    cases input with
    | tick tick =>
      simp only [handlePollTick]
      split
      · exact fun _ => ready.connectedTick tick.stays
      · rename_i down
        exact ready.disconnectedTick (by simpa using down) undisturbed
    | command command =>
      cases command with
      | shutdown => exact fun running => by cases running
      | connect outcome =>
        cases outcome with
        | succeeded => exact fun _ => ready.setLink (by simp)
        | failed connected =>
          cases connected with
          | true => exact fun _ => ready.setLink (by simp)
          | false => exact fun _ => ready.setLink fun _ => undisturbed
      | disconnect => exact fun _ => ready.setLink fun _ => undisturbed
      | getConnectionState | getDiagnostics | setLogLevel => exact fun _ => ready
    | link connected =>
      cases connected with
      | true => exact fun _ => ready.setLink (by simp)
      | false => exact fun _ => ready.setLink fun _ => undisturbed
  · exact ready

theorem ready_start (policy : ReconnectPolicy) (recovery : Option AutoRecoveryPolicy)
    (connected : Bool) : Ready (start policy recovery connected) := by
  cases recovery with
  | none => exact ⟨by simp [start, new], by simp [start, new],
      fun _ => rfl, fun _ => Nat.zero_le _⟩
  | some =>
    simp only [start, withAutoRecovery]
    split <;> exact ⟨by simp [new], by simp [new],
      fun _ => rfl, fun _ => Nat.zero_le _⟩

section

variable (task)

theorem prefix_setLink (connected : Bool) : task.log <+: (task.setLink connected).log := by
  cases connected with
  | false => exact List.prefix_rfl
  | true => exact List.prefix_append _ _

theorem prefix_attempt (tick : Tick) :
    task.log ++ [.attempt] <+: (task.attemptReconnect tick).log := by
  obtain ⟨_, _, outcome, _, _⟩ := tick
  cases outcome with
  | succeeded => exact (task.addEvent .attempt).prefix_setLink true
  | failed connected => exact (task.addEvent .attempt).prefix_setLink connected

theorem prefix_backoffCommand (command : ProtocolCommand) :
    task.log <+: (task.handleBackoffCommand command).log := by
  cases command with
  | connect outcome =>
    cases outcome with
    | succeeded => exact task.prefix_setLink true
    | failed connected => exact task.prefix_setLink connected
  | shutdown | disconnect | getConnectionState | getDiagnostics | setLogLevel =>
    exact List.prefix_rfl

theorem prefix_backoff (tick : Tick) : task.log <+: (task.backoffAndAttempt tick).log := by
  have attempted : task.log <+: (task.attemptReconnect tick).log :=
    (List.prefix_append _ _).trans (task.prefix_attempt tick)
  simp only [backoffAndAttempt]
  split
  · split
    · exact List.prefix_rfl
    · split
      · exact prefix_backoffCommand task _
      · exact attempted
  · exact attempted

theorem prefix_recordAndAttempt (tick : Tick) : task.log <+: (task.recordAndAttempt tick).log := by
  simp only [recordAndAttempt]
  split
  · exact prefix_backoff { task with helper := (task.helper.recordAttempt tick.now).2 } tick
  · exact List.prefix_rfl

theorem prefix_tick (tick : Tick) : task.log <+: (task.step (.tick tick)).log := by
  simp only [step]
  split
  · simp only [handlePollTick]
    split
    · exact List.prefix_rfl
    · simp only [handleDisconnected]
      split
      · split
        · exact List.prefix_append _ _
        · exact List.prefix_rfl
      · exact List.prefix_rfl
      · exact prefix_recordAndAttempt { task with helper := task.helper.markDisconnected } tick
      · exact prefix_recordAndAttempt task tick
  · exact List.prefix_rfl

end

end ChannelTask

/-- There is a delay for every number of attempts, of at least a millisecond where jitter is
added. -/
def ReconnectPolicy.Delays (policy : ReconnectPolicy) : Prop :=
  ∀ attempt, ∃ delay, policy.backoff attempt = some delay ∧ (policy.jitter = true → 1000000 ≤ delay)

theorem ReconnectPolicy.Delays.next {policy : ReconnectPolicy} (delays : policy.Delays)
    {helper : ReconnectHelper} (same : helper.policy = policy) :
    helper.calculateNextDelay.isSome := by
  obtain ⟨_, known, jittered⟩ := delays helper.currentAttempt
  cases jitter : policy.jitter with
  | false => simp [calculateNextDelay, same, known, jitter]
  | true =>
    simp [calculateNextDelay, same, known, jitter, jittered jitter]

namespace ChannelTask

/-- The budget of attempts is not exhausted: there is no limit, or fewer attempts than allowed were
made since the last connection or recovery, or the next recovery is due. -/
def BudgetLeft (task : ChannelTask) (now : Nanos) : Prop :=
  task.helper.policy.maxAttempts = 0 ∨
  sinceReset task.log < task.helper.policy.maxAttempts.toNat ∨
  (task.helper.connectionState = .failed ∧ ∃ recovery, task.helper.autoRecovery = some recovery ∧
    task.helper.recoveryRounds < recovery.maxRecoveryRounds ∧
    ∃ failedAt, task.helper.failedAt = some failedAt ∧ recovery.cooldown ≤ now - failedAt)

variable {policy : ReconnectPolicy} {recovery : Option AutoRecoveryPolicy} {task : ChannelTask}
  {tick : Tick}

theorem attempt_of_delay (delay : task.helper.calculateNextDelay.isSome)
    (quiet : tick.interruption = none) :
    task.log ++ [.attempt] <+: (task.backoffAndAttempt tick).log := by
  simp only [backoffAndAttempt]
  split
  · split
    · rename_i panics
      rw [panics] at delay
      cases delay
    · simp only [quiet]
      exact task.prefix_attempt tick
  · exact task.prefix_attempt tick

/-- An allowed attempt is made if nothing interrupts the backoff. -/
theorem attempt_of_left (delays : policy.Delays) (same : task.helper.policy = policy)
    (left : task.helper.exhausted = false) (quiet : tick.interruption = none) :
    task.log ++ [.attempt] <+: (task.recordAndAttempt tick).log := by
  have keeps := task.helper.keeps_recordAttempt tick.now
  have allowed : (task.helper.recordAttempt tick.now).1 = true := by
    rw [recordAttempt_allowed left]
  simp only [recordAndAttempt, allowed, if_true]
  have delay : (task.helper.recordAttempt tick.now).2.calculateNextDelay.isSome :=
    delays.next (keeps.policy.trans same)
  let counted : ChannelTask := { task with helper := (task.helper.recordAttempt tick.now).2 }
  show counted.log ++ [.attempt] <+: (counted.backoffAndAttempt tick).log
  exact attempt_of_delay delay quiet

theorem step_tick_of_down (running : task.running = true) (down : task.connected = false)
    (tick : Tick) : task.step (.tick tick) = task.handleDisconnected tick := by
  simp only [step]
  rw [if_pos running]
  simp only [handlePollTick]
  rw [if_neg (by simp [down])]

theorem attempt_of_tick (delays : policy.Delays) (same : task.helper.policy = policy)
    (running : task.running = true) (down : task.connected = false)
    (settled : task.helper.connectionState ≠ .reconnecting)
    (going : task.helper.connectionState ≠ .failed) (left : task.helper.exhausted = false)
    (quiet : tick.interruption = none) :
    task.log ++ [.attempt] <+: (task.step (.tick tick)).log := by
  rw [step_tick_of_down running down]
  simp only [handleDisconnected]
  split
  · contradiction
  · contradiction
  · let noticed : ChannelTask := { task with helper := task.helper.markDisconnected }
    show noticed.log ++ [.attempt] <+: (noticed.recordAndAttempt tick).log
    exact attempt_of_left delays same left quiet
  · exact attempt_of_left delays same left quiet

/-- Another attempt is made within two ticks. -/
def AttemptsAgain (task : ChannelTask) (now : Nanos) : Prop :=
  ∀ first second : Tick, first.now = now → first.interruption = none → second.interruption = none →
    task.log.count .attempt < ((task.step (.tick first)).step (.tick second)).log.count .attempt

theorem count_lt_of_prefix {log after : List LinkEvent} (longer : log ++ [.attempt] <+: after) :
    log.count .attempt < after.count .attempt := by
  have counted := longer.sublist.count_le .attempt
  rw [List.count_append, List.count_singleton_self] at counted
  exact counted

theorem attemptsAgain (delays : policy.Delays) (same : task.helper.policy = policy)
    (running : task.running = true) (down : task.connected = false) (ready : Ready task)
    {now : Nanos} (budget : task.BudgetLeft now) : task.AttemptsAgain now := by
  rintro first second rfl quiet later
  have directly (left : task.helper.exhausted = false) : task.log.count .attempt <
        ((task.step (.tick first)).step (.tick second)).log.count .attempt := by
    have going : task.helper.connectionState ≠ .failed := by
      intro failed
      simp [(ready.failed failed).1] at left
    have attempted := attempt_of_tick delays same running down ready.settled going left quiet
    exact count_lt_of_prefix (attempted.trans (prefix_tick _ second))
  obtain unlimited | _ | ⟨failed, _, enabled, rounds, failedAt, noted, cooled⟩ := budget
  · refine directly ?_
    simp [exhausted, unlimited]
  · refine directly ?_
    by_contra full
    have reached := ((exhausted_iff _).mp (by simpa using full)).2
    have counted := ready.counted down
    have reached := UInt32.le_iff_toNat_le.mp reached
    omega
  · have recovered : task.helper.checkAutoRecovery first.now = (true, { task.helper with
        recoveryRounds := task.helper.recoveryRounds + 1
        failedAt := none
        currentAttempt := 0
        connectionState := .disconnected }) := by
      obtain ⟨_, -, same⟩ | ⟨_, -, -, -, -, same⟩ := task.helper.checkAutoRecovery_cases first.now
      · simp [checkAutoRecovery, enabled, failed, noted,
          UInt32.not_le.mpr rounds, Nat.not_lt.mpr cooled] at same
      · exact same
    have after : task.step (.tick first) = { task with
        helper := (task.helper.checkAutoRecovery first.now).2
        log := task.log ++ [.recovery] } := by
      rw [step_tick_of_down running down]
      simp only [handleDisconnected, failed, recovered, if_true, addEvent]
    have attempted : (task.step (.tick first)).log ++ [.attempt] <+:
        ((task.step (.tick first)).step (.tick second)).log := by
      have left : (task.step (.tick first)).helper.exhausted = false := by
        rw [after, recovered]
        simp [exhausted, UInt32.pos_iff_ne_zero]
      refine attempt_of_tick delays ?_ ?_ ?_ ?_ ?_ left later
      · rw [after]
        exact (task.helper.keeps_checkAutoRecovery first.now).policy.trans same
      · rw [after]
        exact running
      · rw [after]
        exact down
      · rw [after, recovered]
        simp
      · rw [after, recovered]
        simp
    have longer := count_lt_of_prefix attempted
    have kept := (prefix_tick task first).sublist.count_le LinkEvent.attempt
    exact Nat.lt_of_le_of_lt kept longer

/-- What the reconnection of a channel guarantees. -/
structure Reconnects (policy : ReconnectPolicy) (recovery : Option AutoRecoveryPolicy)
    (task : ChannelTask) : Prop where
  again : ∀ now, task.running = true → task.connected = false → task.BudgetLeft now →
    task.AttemptsAgain now
  bounded : policy.maxAttempts ≠ 0 → ∀ front segment back, task.log = front ++ segment ++ back →
    .connection ∉ segment →
    segment.count .attempt ≤ policy.maxAttempts.toNat * (1 + roundLimit recovery)

/-- A channel that nothing disturbs keeps attempting to reconnect, and attempts it a bounded number of
times between two connections. -/
theorem channel_reconnects {policy : ReconnectPolicy} (delays : policy.Delays)
    (recovery : Option AutoRecoveryPolicy) (connected : Bool) {inputs : List Input}
    (undisturbed : Guarded step Undisturbed (start policy recovery connected) inputs) :
    Reconnects policy recovery (run step (start policy recovery connected) inputs) := by
  have kept (task : ChannelTask) (input : Input)
      (accounted : Accounted policy (start policy recovery connected).helper.autoRecovery task) :
      Accounted policy (start policy recovery connected).helper.autoRecovery (task.step input) :=
    accounted_step accounted input
  have accounted := invariant_of_forall kept (accounted_start policy recovery connected) inputs
  have preserved (task : ChannelTask) (input : Input) (ready : ReadyIfRunning task)
      (going : Undisturbed task input) : ReadyIfRunning (task.step input) :=
    ready_step ready going
  have ready := invariant preserved (fun _ => ready_start policy recovery connected) undisturbed
  refine ⟨fun now running down budget => ?_, fun limited front segment back split apart => ?_⟩
  · exact attemptsAgain delays accounted.samePolicy running down (ready running) budget
  · have whole := accounted.bounded limited (front ++ segment) ⟨back, split.symm⟩
    have limit : (run step (start policy recovery connected) inputs).helper.roundLimit =
        roundLimit recovery := by
      rw [← roundLimit_start policy recovery connected]
      simp only [ReconnectHelper.roundLimit, accounted.sameRecovery]
    rw [limit] at whole
    exact (count_le_sinceConnection front apart).trans whole

/-- Three attempts with a second between them, and no recovery. -/
def secondsPolicy : ReconnectPolicy := ⟨3, true, fun _ => some 1000000000⟩

def failingTick (now : Nanos) (interruption : Option ProtocolCommand) : Tick :=
  ⟨now, interruption, .failed false, now, true⟩

theorem channel_reconnects_twice :
    Reconnects secondsPolicy none (run step (start secondsPolicy none false)
      [.tick (failingTick 0 none), .tick (failingTick 1 none)]) := by
  refine channel_reconnects ?_ none false ⟨.inl rfl, .inl rfl, trivial⟩
  exact fun attempt => ⟨1000000000, rfl, fun _ => by decide⟩

/-- A request for diagnostics arrives during the second backoff.  One attempt was made, and no later
tick makes another one. -/
theorem backoff_command_wedges :
    (run step (start secondsPolicy none false) [.tick (failingTick 0 none),
      .tick (failingTick 1 (some .getDiagnostics))]).running = true ∧
    (run step (start secondsPolicy none false) [.tick (failingTick 0 none),
      .tick (failingTick 1 (some .getDiagnostics))]).connected = false ∧
    (∀ now, (run step (start secondsPolicy none false) [.tick (failingTick 0 none),
      .tick (failingTick 1 (some .getDiagnostics))]).BudgetLeft now) ∧
    ∀ ticks : List Tick, (run step (start secondsPolicy none false)
      ([.tick (failingTick 0 none), .tick (failingTick 1 (some .getDiagnostics))] ++
        ticks.map Input.tick)).log = [.attempt] := by
  refine ⟨rfl, rfl, fun now => .inr (.inl (by decide)), fun ticks => ?_⟩
  rw [run_append]
  have stuck : ∀ (task : ChannelTask), ∀ input ∈ ticks.map Input.tick,
      task = run step (start secondsPolicy none false)
        [.tick (failingTick 0 none), .tick (failingTick 1 (some .getDiagnostics))] →
      task.step input = run step (start secondsPolicy none false)
        [.tick (failingTick 0 none), .tick (failingTick 1 (some .getDiagnostics))] := by
    rintro _ _ member rfl
    obtain ⟨_, -, rfl⟩ := List.mem_map.mp member
    rfl
  rw [invariant_of_mem stuck rfl]
  rfl

end ChannelTask

end AetherIot.Io
