import AetherIot.Io.Iec104Task
import AetherIot.Io.ReconnectProgress

/-!
# Lost connections of an IEC 104 channel

After the transport is lost, polls fail or report that the connection is closed.  The channel treats
both as a poll without data, so that its stored state stays connected.
-/

namespace AetherIot.Io

open GuardedRun

namespace ReconnectHelper

/-- The helper works under an unlimited policy and has not given up. -/
structure Unlimited (policy : ReconnectPolicy) (helper : ReconnectHelper) : Prop where
  policy_eq : helper.policy = policy
  live : helper.connectionState ≠ .failed

variable {policy : ReconnectPolicy} {helper : ReconnectHelper}

theorem exhausted_of_unlimited (unlimited : policy.maxAttempts = 0) (same : helper.policy = policy) :
    helper.exhausted = false := by
  simp [exhausted, same, unlimited]

theorem Unlimited.markConnected (holds : helper.Unlimited policy) :
    helper.markConnected.Unlimited policy :=
  ⟨holds.policy_eq, by simp [ReconnectHelper.markConnected]⟩

theorem Unlimited.markDisconnected (holds : helper.Unlimited policy) :
    helper.markDisconnected.Unlimited policy :=
  ⟨holds.policy_eq, by simp [ReconnectHelper.markDisconnected]⟩

theorem Unlimited.recordFailure (unlimited : policy.maxAttempts = 0)
    (holds : helper.Unlimited policy) (now : Nanos) :
    (helper.recordFailure now).Unlimited policy := by
  rw [ReconnectHelper.recordFailure, exhausted_of_unlimited unlimited holds.policy_eq]
  exact ⟨holds.policy_eq, by simp⟩

/-- Every attempt is allowed. -/
theorem Unlimited.recordAttempt (unlimited : policy.maxAttempts = 0)
    (holds : helper.Unlimited policy) (now : Nanos) :
    (helper.recordAttempt now).1 = true ∧ (helper.recordAttempt now).2.Unlimited policy := by
  rw [ReconnectHelper.recordAttempt, exhausted_of_unlimited unlimited holds.policy_eq]
  exact ⟨rfl, holds.policy_eq, by simp⟩

end ReconnectHelper

namespace Iec104.Task

section

variable (task : Task)

@[simp] theorem channel_checkOnlineChange :
    task.checkOnlineChange.channel = task.channel := by
  rw [checkOnlineChange]
  split <;> rfl

@[simp] theorem helper_checkOnlineChange :
    task.checkOnlineChange.helper = task.helper := by
  rw [checkOnlineChange]
  split <;> rfl

@[simp] theorem running_checkOnlineChange :
    task.checkOnlineChange.running = task.running := by
  rw [checkOnlineChange]
  split <;> rfl

@[simp] theorem connects_checkOnlineChange :
    task.checkOnlineChange.connects = task.connects := by
  rw [checkOnlineChange]
  split <;> rfl

@[simp] theorem helper_connect (answers : ConnectAnswers) :
    (task.connect answers).1.helper = task.helper := rfl

section

variable (answers : ConnectAnswers) (timeout : Option Stage)

@[simp] theorem helper_connectWithin :
    (task.connectWithin answers timeout).1.helper = task.helper := by
  rcases timeout with _ | (_ | _) <;> rfl

@[simp] theorem running_connectWithin :
    (task.connectWithin answers timeout).1.running = task.running := by
  rcases timeout with _ | (_ | _) <;> rfl

@[simp] theorem connects_connectWithin :
    (task.connectWithin answers timeout).1.connects = task.connects + 1 := by
  rcases timeout with _ | (_ | _) <;> rfl

end

@[simp] theorem connects_attempt (tick : Tick) :
    (task.attempt tick).connects = task.connects + 1 := by
  simp [attempt]

end

variable {policy : ReconnectPolicy} {task : Task}

theorem unlimited_attempt (unlimited : policy.maxAttempts = 0)
    (holds : task.helper.Unlimited policy) (tick : Tick) :
    (task.attempt tick).helper.Unlimited policy := by
  rw [attempt, helper_checkOnlineChange]
  rcases (task.connectWithin tick.answers tick.timeout).2 with _ | _
  · simpa using holds.recordFailure unlimited tick.finish
  · simpa using holds.markConnected

theorem unlimited_handleBackoffCommand (holds : task.helper.Unlimited policy) (command : Command) :
    (task.handleBackoffCommand command).helper.Unlimited policy := by
  cases command with
  | shutdown => simpa [handleBackoffCommand, finish] using holds
  | connect answers =>
    rw [handleBackoffCommand]
    rcases (task.connect answers).2 with _ | _
    · simpa using holds
    · simpa using holds.markConnected
  | disconnect | getConnectionState | getDiagnostics | setLogLevel =>
    simpa [handleBackoffCommand] using holds

theorem unlimited_recordAttempt (unlimited : policy.maxAttempts = 0)
    (holds : task.helper.Unlimited policy) (tick : Tick) :
    (task.recordAttempt tick).helper.Unlimited policy := by
  obtain ⟨allowed, recorded⟩ := holds.recordAttempt unlimited tick.now
  rw [recordAttempt, if_pos allowed, backoff]
  split
  · split
    · exact recorded
    · split
      · exact unlimited_handleBackoffCommand recorded _
      · exact unlimited_attempt unlimited recorded tick
  · exact unlimited_attempt unlimited recorded tick

theorem unlimited_step (unlimited : policy.maxAttempts = 0) (input : Input)
    (holds : task.helper.Unlimited policy) : (task.step input).helper.Unlimited policy := by
  unfold step
  split
  · cases input with
    | control | adjustment | loss => exact holds
    | command command => cases command <;> exact holds
    | tick tick =>
      change (task.handlePollTick tick).helper.Unlimited policy
      rw [handlePollTick]
      split
      · simp only [helper_checkOnlineChange]
        split
        · exact holds.markConnected
        · exact holds
      · cases state : task.helper.connectionState with
        | failed => exact absurd state holds.live
        | reconnecting => simpa [handleDisconnected, state] using holds
        | connected =>
          rw [handleDisconnected, state]
          exact unlimited_recordAttempt unlimited holds.markDisconnected tick
        | disconnected =>
          rw [handleDisconnected, state]
          exact unlimited_recordAttempt unlimited holds tick
  · exact holds

theorem unlimited_start (config : Config) (policy : ReconnectPolicy)
    (autoRecovery : Option AutoRecoveryPolicy) (state : ConnectionState) :
    (start config policy autoRecovery state).helper.Unlimited policy := by
  unfold start
  rw [helper_checkOnlineChange]
  cases autoRecovery with
  | none => exact ⟨rfl, by simp [ReconnectHelper.new]⟩
  | some =>
    simp only [ReconnectHelper.withAutoRecovery]
    split <;> exact ⟨rfl, by simp [ReconnectHelper.new]⟩

theorem step_tick_of_connected (running : task.running = true)
    (connected : task.channel.isConnected = true) (tick : Tick) :
    ∃ helper, task.step (.tick tick) = { task with helper }.checkOnlineChange := by
  refine ⟨if task.helper.connectionState ≠ .connected then task.helper.markConnected
    else task.helper, ?_⟩
  unfold step
  rw [if_pos running]
  exact if_pos connected

/-- The helper has not begun an attempt that it did not end. -/
def Idle (task : Task) : Prop :=
  task.helper.connectionState = .connected ∨ task.helper.connectionState = .disconnected

theorem step_tick_of_reconnecting (down : task.channel.isConnected = false)
    (state : task.helper.connectionState = .reconnecting) (tick : Tick) :
    task.step (.tick tick) = task := by
  unfold step
  split
  · change task.handlePollTick tick = task
    rw [handlePollTick, down, if_neg (by simp), handleDisconnected, state]
  · rfl

/-- Without a transport, a poll fails or reports that the connection is closed.  The task is not shut
down. -/
def Assumed (task : Task) : Input → Prop
  | .tick tick => task.channel.transport = false →
      (∃ error, tick.poll = .error error) ∨ tick.poll = .ok (some .disconnected)
  | .command .shutdown => False
  | .command _ | .control _ | .adjustment _ | .loss => True

/-- An endless continuation with ticks, in which no command arrives during a backoff. -/
structure Continues (lost : Task) (inputs : Nat → Input) : Prop where
  assumed : ∀ count, (trace step lost inputs count).Assumed (inputs count)
  ticks : ∀ count, ∃ later ≥ count, ∃ tick, inputs later = .tick tick
  quiet : ∀ count tick, inputs count = .tick tick → tick.interruption = none

/-- The channel is reported offline, and a connection is begun. -/
structure Noticed (lost task : Task) : Prop where
  offline : lost.prevOnline = some false ∨ false ∈ task.published.drop lost.published.length
  connects : lost.connects < task.connects

/-- The channel is known to be down already: it is not connected in its stored state, is reported
offline, and an attempt can be made. -/
structure KnownDown (task : Task) : Prop where
  down : task.channel.isConnected = false
  idle : task.helper.connectionState ≠ .reconnecting
  offline : task.prevOnline = some false

/-- A tick whose poll fails, and whose attempt would succeed. -/
def failedPoll : Tick where
  now := 0
  finish := 0
  clock := 0
  interruption := none
  answers := ⟨.ok (), .ok (), .ok (), .ok ()⟩
  timeout := none
  poll := .error "connection closed"

theorem continues_failedPoll (lost : Task) : lost.Continues fun _ => .tick failedPoll where
  assumed _ _ := .inl ⟨_, rfl⟩
  ticks count := ⟨count, le_refl count, failedPoll, rfl⟩
  quiet _ tick same := by
    cases same
    rfl

/-- A connected channel polls in vain. -/
theorem not_noticed_of_connected (running : task.running = true)
    (connected : task.channel.isConnected = true) (count : Nat) :
    ¬ task.Noticed (trace step task (fun _ => .tick failedPoll) count) := by
  have kept := @trace_invariant _ _ step
    (fun after : Task => after.running = true ∧ after.channel = task.channel ∧
      after.connects = task.connects) task (fun _ => .tick failedPoll) ⟨running, rfl, rfl⟩
    (fun _ ⟨running, same, connects⟩ => by
      obtain ⟨_, after⟩ := step_tick_of_connected running (same ▸ connected) failedPoll
      rw [after]
      simpa using ⟨running, same, connects⟩) count
  intro noticed
  exact absurd noticed.connects (by simp [kept.2.2])

/-- An attempt that was not ended blocks all others. -/
theorem not_noticed_of_reconnecting (down : task.channel.isConnected = false)
    (state : task.helper.connectionState = .reconnecting) (count : Nat) :
    ¬ task.Noticed (trace step task (fun _ => .tick failedPoll) count) := by
  have kept := @trace_invariant _ _ step (fun after : Task => after = task) task
    (fun _ => .tick failedPoll) rfl (fun _ same => by
      rw [same]
      exact step_tick_of_reconnecting down state failedPoll) count
  intro noticed
  exact absurd noticed.connects (by simp [kept])

/-- The channel is connected and was reported online since. -/
structure BackOnline (lost task : Task) : Prop where
  running : task.running = true
  connected : task.channel.isConnected = true
  reported : task.prevOnline = some true
  published : task.published = lost.published ∨ task.published = lost.published ++ [true]

theorem BackOnline.checkOnlineChange {lost : Task} (running : task.running = true)
    (connected : task.channel.isConnected = true)
    (reported : task.prevOnline = lost.prevOnline) (published : task.published = lost.published) :
    lost.BackOnline task.checkOnlineChange := by
  refine ⟨by simpa using running, by simpa using connected, ?_, ?_⟩ <;>
    rw [Task.checkOnlineChange, connected, reported] <;>
    split
  · rfl
  · rename_i same
    rw [reported]
    exact not_not.mp same
  · exact .inr (congrArg (· ++ [true]) published)
  · exact .inl published

theorem BackOnline.tick {lost : Task} (back : lost.BackOnline task) :
    lost.BackOnline (task.step (.tick failedPoll)) := by
  obtain ⟨helper, after⟩ := step_tick_of_connected back.running back.connected failedPoll
  have unchanged : { task with helper }.checkOnlineChange = { task with helper } := by
    refine if_neg (not_not.mpr ?_)
    exact back.reported.trans (congrArg some back.connected.symm)
  rw [after, unchanged]
  exact ⟨back.running, back.connected, back.reported, back.published⟩

theorem connects_le_handleBackoffCommand (command : Command) :
    task.connects ≤ (task.handleBackoffCommand command).connects := by
  cases command with
  | connect answers =>
    rw [handleBackoffCommand]
    rcases (task.connect answers).2 with _ | _ <;> simp [connect]
  | shutdown | disconnect | getConnectionState | getDiagnostics | setLogLevel =>
    simp [handleBackoffCommand, finish]

theorem connects_le_recordAttempt (tick : Tick) :
    task.connects ≤ (task.recordAttempt tick).connects := by
  rw [recordAttempt]
  split
  · rw [backoff]
    split
    · split
      · exact le_refl _
      · split
        · exact @connects_le_handleBackoffCommand { task with
            helper := (task.helper.recordAttempt tick.now).2 } _
        · simp
    · simp
  · simp

theorem connects_le_step (input : Input) : task.connects ≤ (task.step input).connects := by
  unfold step
  split
  · cases input with
    | control | adjustment | loss => exact le_refl _
    | command command => cases command <;> simp [handleProtocolCommand, finish, connect]
    | tick tick =>
      change task.connects ≤ (task.handlePollTick tick).connects
      rw [handlePollTick]
      split
      · simp
      · rw [handleDisconnected]
        split
        · simp
        · exact le_refl _
        · exact @connects_le_recordAttempt { task with helper := task.helper.markDisconnected } tick
        · exact connects_le_recordAttempt tick
  · exact le_refl _

/-- The channel is down and the next tick makes an attempt. -/
structure Waiting (policy : ReconnectPolicy) (task : Task) : Prop where
  running : task.running = true
  down : task.channel.isConnected = false
  idle : task.Idle
  unlimited : task.helper.Unlimited policy

theorem Waiting.command (waiting : task.Waiting policy) {command : Command}
    (assumed : task.Assumed (.command command)) :
    task.connects < (task.step (.command command)).connects ∨
      (task.step (.command command)).Waiting policy := by
  unfold step
  rw [if_pos waiting.running]
  cases command with
  | shutdown => cases assumed
  | connect => exact .inl (Nat.lt_succ_self _)
  | disconnect answer =>
    refine .inr ⟨waiting.running, ?_, waiting.idle, waiting.unlimited⟩
    cases answer with
    | error => exact waiting.down
    | ok => rfl
  | getConnectionState | getDiagnostics | setLogLevel => exact .inr waiting

section

variable (unlimited : policy.maxAttempts = 0) (delays : policy.Delays)

include unlimited delays

section

variable (waiting : task.Waiting policy)

include waiting

/-- A tick of a channel that is not connected makes an attempt, unless an earlier one was not
ended. -/
theorem Waiting.attempts {tick : Tick} (quiet : tick.interruption = none) :
    ∃ helper, task.step (.tick tick) = { task with helper }.attempt tick := by
  have attempts : ∀ task : Task, task.helper.Unlimited policy →
      ∃ helper, task.recordAttempt tick = { task with helper }.attempt tick := by
    intro task holds
    obtain ⟨allowed, recorded⟩ := holds.recordAttempt unlimited tick.now
    refine ⟨(task.helper.recordAttempt tick.now).2, ?_⟩
    rw [recordAttempt, if_pos allowed, backoff]
    split
    · obtain ⟨_, known⟩ := Option.isSome_iff_exists.mp (delays.next recorded.policy_eq)
      simp only [known, quiet]
    · rfl
  unfold step
  rw [if_pos waiting.running]
  change ∃ helper, task.handlePollTick tick = _
  rw [handlePollTick, waiting.down, if_neg (by simp), handleDisconnected]
  rcases waiting.idle with state | state
  · rw [state]
    exact attempts { task with helper := task.helper.markDisconnected }
      waiting.unlimited.markDisconnected
  · rw [state]
    exact attempts task waiting.unlimited

theorem Waiting.tick {tick : Tick} (quiet : tick.interruption = none) :
    task.connects < (task.step (.tick tick)).connects := by
  obtain ⟨_, after⟩ := waiting.attempts unlimited delays quiet
  rw [after, connects_attempt]
  exact Nat.lt_succ_self _

/-- The channel keeps waiting until a connection is begun. -/
theorem Waiting.step {input : Input} (assumed : task.Assumed input)
    (quiet : ∀ tick, input = .tick tick → tick.interruption = none) :
    task.connects < (task.step input).connects ∨ (task.step input).Waiting policy := by
  cases input with
  | tick tick => exact .inl (waiting.tick unlimited delays (quiet tick rfl))
  | command => exact waiting.command assumed
  | control | adjustment | loss =>
    right
    unfold Task.step
    rw [if_pos waiting.running]
    exact ⟨waiting.running, waiting.down, waiting.idle, waiting.unlimited⟩

theorem noticed_of_waiting (offline : task.prevOnline = some false)
    {inputs : Nat → Input} (continues : task.Continues inputs) :
    ∃ count, task.Noticed (trace step task inputs count) := by
  have kept := @trace_invariant _ _ step (fun after : Task => task.connects < after.connects ∨
      after.Waiting policy ∧ task.connects ≤ after.connects) task inputs
    (.inr ⟨waiting, le_refl _⟩) (fun count reached => by
      have grows := @connects_le_step (trace step task inputs count) (inputs count)
      rcases reached with begun | ⟨waiting, least⟩
      · exact .inl (begun.trans_le grows)
      · rcases waiting.step unlimited delays (continues.assumed count)
          (continues.quiet count) with begun | waiting
        · exact .inl (least.trans_lt begun)
        · exact .inr ⟨waiting, least.trans grows⟩)
  obtain ⟨count, -, tick, isTick⟩ := continues.ticks 0
  refine ⟨count + 1, .inl offline, ?_⟩
  change task.connects < (Task.step _ (inputs count)).connects
  rcases kept count with begun | ⟨waiting, least⟩
  · exact begun.trans_le (connects_le_step _)
  · rw [isTick]
    exact least.trans_lt (waiting.tick unlimited delays (continues.quiet count tick isTick))

/-- A channel that is reported online and reconnects at once is not reported offline. -/
theorem not_noticed_of_online (online : task.prevOnline ≠ some false) (count : Nat) :
    ¬ task.Noticed (trace step task (fun _ => .tick failedPoll) count) := by
  have kept := @trace_invariant _ _ step
    (fun after : Task => after = task ∨ task.BackOnline after) task (fun _ => .tick failedPoll)
    (.inl rfl)
    (fun count reached => by
      right
      rcases reached with same | back
      · obtain ⟨_, after⟩ := waiting.attempts unlimited delays (show failedPoll.interruption = none from rfl)
        rw [same, after]
        exact BackOnline.checkOnlineChange waiting.running rfl rfl rfl
      · exact back.tick) count
  rintro ⟨offline, connects⟩
  rcases kept with same | back
  · simp [same] at connects
  · rcases offline with reported | published
    · exact online reported
    · rcases back.published with same | same <;> simp [same] at published

end

end

/-- One second between attempts, without a limit. -/
def everySecond : ReconnectPolicy := ⟨0, false, fun _ => some 1000000000⟩

theorem delays_everySecond : everySecond.Delays := fun _ => ⟨1000000000, rfl, by simp [everySecond]⟩

/-- A connected channel with one tick before its transport is lost. -/
def silentLoss : Task :=
  (run step (start ⟨[]⟩ everySecond none .connected) [.tick failedPoll]).step .loss

/-- A channel that never was connected. -/
def knownLoss : Task := (start ⟨[]⟩ everySecond none .disconnected).step .loss

end Iec104.Task

end AetherIot.Io
