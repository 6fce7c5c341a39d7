import AetherIot.Rules.OnChangeRetry

/-!
# What the scheduler remembers of an execution

The start of a cooldown and the values that an execution saw are kept with the loaded rule.  As long
as the rules are not loaded again, they hold back further executions.  A load forgets them.
-/

namespace AetherIot.Rules

open Interaction GuardedRun ScheduledRule SchedulerState

variable {state : SchedulerState} {kind : PassKind} {now later : Instant} {snapshot : Values}
  {rules : List ScheduledRule} {input : SchedulerInput} {execution : CompletedExecution} {idx : Nat}
  {scheduled : ScheduledRule}

/-- The executions of the current pass. -/
def SchedulerState.executing (state : SchedulerState) : List ExecutionKey :=
  match state.pass with
  | some ⟨_, _, .executing _ executions⟩ => executions.map RuleExecution.key
  | _ => []

theorem executing_eq {executions : List RuleExecution}
    (passing : state.pass = some ⟨kind, now, .executing snapshot executions⟩) :
    state.executing = executions.map RuleExecution.key := by
  simp only [executing, passing]

/-- Executions of different rules, which are still loaded unless there was another load. -/
structure Tracked (rules : List ScheduledRule) (loads : Nat) (keys : List ExecutionKey) : Prop where
  distinct : (keys.map ExecutionKey.idx).Nodup
  versions : ∀ key ∈ keys, key.version ≤ loads
  loaded : ∀ key ∈ keys, key.version = loads → Loaded rules key

theorem tracked_nil (rules : List ScheduledRule) (loads : Nat) : Tracked rules loads [] :=
  ⟨List.nodup_nil, by simp, by simp⟩

theorem tracked_dueKeys (kind : PassKind) (now : Instant) (snapshot : Values) (loads : Nat)
    (rules : List ScheduledRule) :
    Tracked rules loads (dueKeys kind now snapshot loads rules) where
  distinct := nodup_map_idx_dueKeys ..
  versions := fun _ member => (loaded_of_mem_dueKeys member).1.le
  loaded := fun _ member _ => (loaded_of_mem_dueKeys member).2

theorem Tracked.reload {loads : Nat} {keys : List ExecutionKey} (tracked : Tracked rules loads keys)
    (others : List ScheduledRule) :
    Tracked others (loads + 1) keys where
  distinct := tracked.distinct
  versions := fun key member => Nat.le_succ_of_le (tracked.versions key member)
  loaded := fun key member same => by
    have older := tracked.versions key member
    omega

def ruleIds (rules : List ScheduledRule) : List Int := rules.map fun scheduled => scheduled.rule.id

theorem ruleIds_load (rows : List (Rule × Option TriggerConfig)) :
    ruleIds (rows.map load) = rows.map fun row => row.1.id := by
  rw [ruleIds, List.map_map]
  rfl

theorem map_foldl_applyUpdate {α : Type} {view : ScheduledRule → α}
    (kept : ∀ scheduled update, view (scheduled.record now snapshot update) = view scheduled)
    (completed : List CompletedExecution) (rules : List ScheduledRule) :
    (completed.foldl (fun rules execution =>
      applyUpdate now snapshot rules execution.update) rules).map view = rules.map view := by
  induction completed generalizing rules with
  | nil => rfl
  | cons _ _ ih =>
    rw [List.foldl_cons, ih]
    refine List.ext_getElem? fun idx => ?_
    rw [List.getElem?_map, List.getElem?_map, getElem?_applyUpdate, Option.map_map]
    congr 1
    funext scheduled
    simp only [Function.comp]
    split
    · exact kept scheduled _
    · rfl

/-- The state of a scheduler whose rules have different ids. -/
structure Traceable (state : SchedulerState) : Prop where
  ids : (ruleIds state.rules).Nodup
  tracked : Tracked state.rules state.loads state.executing

/-- The ids are the primary key of the stored rules. -/
def SchedulerInput.UniqueIds (input : SchedulerInput) : Prop :=
  ∀ rows, input = .reload rows → (rows.map fun row => row.1.id).Nodup

theorem traceable_initial (live : LiveState) : Traceable (.initial live) :=
  ⟨List.nodup_nil, tracked_nil _ _⟩

section

variable (executor : RuleExecutor)

theorem traceable_step (traceable : Traceable state) (unique : input.UniqueIds) :
    Traceable (schedulerStep executor state input) := by
  obtain ⟨ids, tracked⟩ := traceable
  have effect := stepEffect executor state input
  generalize schedulerStep executor state input = next at effect ⊢
  cases effect with
  | updateLive | nothing => exact ⟨ids, tracked⟩
  | reload rows =>
    refine ⟨?_, tracked.reload _⟩
    rw [ruleIds_load]
    exact unique rows rfl
  | begin_ | sample => exact ⟨ids, tracked_nil _ _⟩
  | select =>
    refine ⟨ids, ?_⟩
    rw [executing_eq rfl, map_key_selectExecutions]
    exact tracked_dueKeys ..
  | serve _ _ passing =>
    refine ⟨ids, ?_⟩
    rw [executing_eq rfl, map_key_modify, ← executing_eq passing]
    exact tracked
  | record =>
    refine ⟨?_, tracked_nil _ _⟩
    rw [ruleIds, map_foldl_applyUpdate fun _ _ => rfl]
    exact ids

theorem traceable_run (traceable : Traceable state)
    {inputs : List SchedulerInput} (unique : ∀ input ∈ inputs, input.UniqueIds) :
    Traceable (run (schedulerStep executor) state inputs) :=
  invariant_of_mem (fun _ input member holds =>
    traceable_step executor holds (unique input member)) traceable

/-- A record in the state records the execution, which started at `now`. -/
def Records (state : SchedulerState) (now : Instant) (execution : CompletedExecution) : Prop :=
  ∃ kind snapshot executions completed,
    state.pass = some ⟨kind, now, .executing snapshot executions⟩ ∧
      executions.mapM (RuleExecution.completed · snapshot) = some completed ∧
      execution ∈ completed

def Starts (state : SchedulerState) (now : Instant) (execution : RuleExecution) : Prop :=
  ∃ kind snapshot, state.pass = some ⟨kind, now, .sampling [] snapshot⟩ ∧
    execution ∈ selectExecutions executor kind now snapshot state.loads state.rules

/-- What a recorded execution leaves of its rule, unless the rules were loaded again. -/
theorem recorded_rule (traceable : Traceable state) (recorded : Records state now execution) :
    execution.version ≤ state.loads ∧ (schedulerStep executor state .record).loads = state.loads ∧
      (schedulerStep executor state .record).pass = none ∧
      (execution.version = state.loads → ∃ scheduled : ScheduledRule,
        scheduled.rule.id = execution.rule.id ∧ scheduled.isOnchange = execution.isOnchange ∧
        (schedulerStep executor state .record).rules[execution.idx]? =
          some (scheduled.record now execution.snapshot execution.update)) := by
  obtain ⟨_, snapshot, _, completed, passing, returned, member⟩ := recorded
  obtain ⟨_, -, found⟩ := exists_of_mem_mapM returned member
  obtain rfl : execution.snapshot = snapshot := (completed_key found).2
  have keys := map_key_of_mapM returned
  have tracked := traceable.tracked
  rw [executing_eq passing, ← keys] at tracked
  have listed := List.mem_map_of_mem (f := CompletedExecution.key) member
  have step : schedulerStep executor state .record = { state with
      rules := completed.foldl (fun rules other =>
        applyUpdate now execution.snapshot rules other.update) state.rules
      pass := none
      history := state.history ++ completed } := by
    simp only [schedulerStep, passing, Pass.step, returned]
  refine ⟨tracked.versions _ listed, ?_, ?_, fun current => ?_⟩
  · rw [step]
  · rw [step]
  · obtain ⟨scheduled, found, sameId, sameKind⟩ := tracked.loaded _ listed current
    refine ⟨scheduled, sameId, sameKind, ?_⟩
    rw [step]
    have distinct := tracked.distinct
    rw [← map_idx_eq] at distinct
    exact getElem?_foldl_of_mem distinct member found sameId

/-- A property of a loaded rule that records keep. -/
theorem exists_getElem?_foldl {holds : ScheduledRule → Prop}
    (kept : ∀ scheduled update, holds scheduled → holds (scheduled.record now snapshot update))
    (completed : List CompletedExecution)
    (found : ∃ scheduled, rules[idx]? = some scheduled ∧ holds scheduled) :
    ∃ scheduled, (completed.foldl (fun rules execution =>
      applyUpdate now snapshot rules execution.update) rules)[idx]? = some scheduled ∧
        holds scheduled := by
  induction completed generalizing rules with
  | nil => exact found
  | cons execution _ ih =>
    refine ih ?_
    obtain ⟨scheduled, here, known⟩ := found
    refine ⟨_, by rw [getElem?_applyUpdate, here, Option.map_some], ?_⟩
    split
    · exact kept scheduled execution.update known
    · exact known

/-- The rule of an execution has a cooldown that did not start before. -/
def CooldownSince (execution : CompletedExecution) (now : Instant) (scheduled : ScheduledRule) :
    Prop :=
  scheduled.rule.id = execution.rule.id ∧
    ∃ start, scheduled.lastCooldownStart = some start ∧ now ≤ start

theorem CooldownSince.record (since : CooldownSince execution now scheduled) (order : now ≤ later)
    (snapshot : Values) (update : TimestampUpdate) :
    CooldownSince execution now (scheduled.record later snapshot update) := by
  obtain ⟨sameId, start, started, earlier⟩ := since
  refine ⟨sameId, ?_⟩
  by_cases restarts : update.startCooldown = true
  · exact ⟨later, by simp [ScheduledRule.record, restarts], order⟩
  · exact ⟨start, by simp [ScheduledRule.record, restarts, started], earlier⟩

/-- The cooldown of an execution is remembered until the rules are loaded again. -/
structure Cooling (execution : CompletedExecution) (now : Instant) (state : SchedulerState) :
    Prop where
  version : execution.version ≤ state.loads
  clock : ∀ pass, state.pass = some pass → now ≤ pass.now
  remembered : execution.version = state.loads → ∃ scheduled,
    state.rules[execution.idx]? = some scheduled ∧ CooldownSince execution now scheduled

/-- The clock does not go back behind an instant. -/
def SchedulerInput.NotBefore (now : Instant) (input : SchedulerInput) : Prop :=
  ∀ kind later, input = .begin_ kind later → now ≤ later

theorem cooling_step (cooling : Cooling execution now state)
    (order : input.NotBefore now) : Cooling execution now (schedulerStep executor state input) := by
  obtain ⟨version, clock, remembered⟩ := cooling
  have effect := stepEffect executor state input
  generalize schedulerStep executor state input = next at effect ⊢
  cases effect with
  | updateLive | nothing => exact ⟨version, clock, remembered⟩
  | reload =>
    refine ⟨Nat.le_succ_of_le version, clock, fun current => ?_⟩
    exact absurd (current ▸ version) (Nat.not_succ_le_self _)
  | begin_ kind later =>
    refine ⟨version, ?_, remembered⟩
    rintro _ ⟨⟩
    exact order kind later rfl
  | sample passing | select passing | serve _ _ passing =>
    refine ⟨version, ?_, remembered⟩
    rintro _ ⟨⟩
    have order := clock _ passing
    exact order
  | record passing =>
    refine ⟨version, by simp, fun current => ?_⟩
    exact exists_getElem?_foldl (fun _ update since => since.record (clock _ passing) _ update) _
      (remembered current)

theorem cooling_record (traceable : Traceable state)
    (recorded : Records state now execution) (succeeded : execution.result.success = true)
    (acted : execution.result.actionsExecuted ≠ []) :
    Cooling execution now (schedulerStep executor state .record) := by
  obtain ⟨version, sameLoads, idle, left⟩ := recorded_rule executor traceable recorded
  refine ⟨sameLoads ▸ version, by simp [idle], fun current => ?_⟩
  obtain ⟨_, sameId, -, found⟩ := left (current.trans sameLoads)
  refine ⟨_, found, sameId, now, ?_, le_rfl⟩
  simp [record, CompletedExecution.update, succeeded, acted]

end

theorem le_of_elapsedMs {later start count : Nat} (elapsed : count ≤ elapsedMs later start)
    (positive : 0 < count) : start + count * 1000000 ≤ later := by
  have whole : count ≤ (later - start) / 1000000 := elapsed.trans (Nat.mod_le ..)
  omega

/-- A rule that is due has cooled down. -/
theorem CooldownSince.le_of_isDue (since : CooldownSince execution now scheduled)
    (order : now ≤ later) (due : kind.isDue snapshot later scheduled = true) :
    now + scheduled.rule.cooldownMs.toNat * 1000000 ≤ later := by
  obtain ⟨-, _, started, earlier⟩ := since
  simp only [PassKind.isDue, Bool.and_eq_true] at due
  have cooled := due.2
  by_cases cools : scheduled.rule.cooldownMs > 0
  · simp only [cooldownOk, if_pos cools, started, ge_iff_le,
      decide_eq_true_eq] at cooled
    have gap := le_of_elapsedMs cooled (UInt64.lt_iff_toNat_lt.mp cools)
    exact (Nat.add_le_add_right earlier _).trans gap
  · have zero : scheduled.rule.cooldownMs.toNat = 0 := by
      have small := mt UInt64.lt_iff_toNat_lt.mpr cools
      simpa using small
    rw [zero]
    exact order

/-- A value that did not move beyond the deadband since an execution observed it. -/
def Unmoved (valueDeadband : Option ValueDeadband) (observed current : Option UInt64) : Prop :=
  ∀ value, current = some value →
    ∃ last, observed = some last ∧ isChange valueDeadband last value = false

section

variable (execution) (refs : List PointRef)

/-- None of the points moved since an execution. -/
def Settled (valueDeadband : Option ValueDeadband) (live : LiveState) : Prop :=
  ∀ ref ∈ refs, Unmoved valueDeadband (execution.observed ref.cacheKey) (live.sample ref)

def RemembersValues (scheduled : ScheduledRule) : Prop :=
  ∀ ref ∈ refs, ∀ value, execution.observed ref.cacheKey = some value →
    scheduled.onchangeState.lastValue ref.cacheKey = some value

end

section

variable {refs : List PointRef} {timeDeadbandMs : Option UInt64}
  {valueDeadband : Option ValueDeadband}

theorem RemembersValues.not_isDue {scheduled : ScheduledRule}
    (remembers : RemembersValues execution refs scheduled)
    (trigger : scheduled.trigger = .onChange refs timeDeadbandMs valueDeadband)
    (unmoved : ∀ ref ∈ refs, Unmoved valueDeadband (execution.observed ref.cacheKey)
      (snapshot ref.cacheKey)) (kind : PassKind) (now : Instant) :
    kind.isDue snapshot now scheduled = false := by
  have unchanged : ∀ ref ∈ refs,
      pointChanged scheduled.onchangeState valueDeadband snapshot ref = false := by
    intro ref member
    cases sampled : (snapshot ref.cacheKey).filter Float64.isFinite with
    | none => simp only [pointChanged, sampled]
    | some value =>
      obtain ⟨last, observed, same⟩ :=
        unmoved ref member value (Option.filter_eq_some_iff.mp sampled).1
      simp only [pointChanged, sampled, remembers ref member last observed, same]
  simp only [PassKind.isDue, shouldExecute, trigger, shouldTriggerOnchange,
    List.any_eq_false.mpr fun ref member => Bool.eq_false_iff.mp (unchanged ref member),
    Bool.and_false, Bool.false_and]

/-- The values of an execution are remembered until the rules are loaded again, and its rule is not
executed. -/
structure Remembering (execution : CompletedExecution) (refs : List PointRef)
    (timeDeadbandMs : Option UInt64) (valueDeadband : Option ValueDeadband)
    (state : SchedulerState) : Prop where
  version : execution.version ≤ state.loads
  sampled : ∀ kind now remaining snapshot,
    state.pass = some ⟨kind, now, .sampling remaining snapshot⟩ → ∀ ref ∈ refs,
      Unmoved valueDeadband (execution.observed ref.cacheKey) (snapshot ref.cacheKey)
  remembered : execution.version = state.loads → ∀ scheduled,
    state.rules[execution.idx]? = some scheduled →
    scheduled.trigger = .onChange refs timeDeadbandMs valueDeadband →
    RemembersValues execution refs scheduled ∧ ∀ key ∈ state.executing, key.idx ≠ execution.idx

theorem unmoved_sample {live : LiveState} (settled : Settled execution refs valueDeadband live)
    (unmoved : ∀ ref ∈ refs, Unmoved valueDeadband (execution.observed ref.cacheKey)
      (snapshot ref.cacheKey)) (next : PointRef) :
    ∀ ref ∈ refs, Unmoved valueDeadband (execution.observed ref.cacheKey)
      (Function.update snapshot next.cacheKey (live.sample next) ref.cacheKey) := by
  intro ref member
  by_cases same : ref = next
  · subst same
    rw [Function.update_self]
    exact settled ref member
  · rw [Function.update_of_ne fun keys => same (cacheKey_injective keys)]
    exact unmoved ref member

theorem remembering_step (executor : RuleExecutor)
    (remembering : Remembering execution refs timeDeadbandMs valueDeadband state)
    (settled : Settled execution refs valueDeadband state.live) (input : SchedulerInput) :
    Remembering execution refs timeDeadbandMs valueDeadband
      (schedulerStep executor state input) := by
  obtain ⟨version, sampled, remembered⟩ := remembering
  have effect := stepEffect executor state input
  generalize schedulerStep executor state input = next at effect ⊢
  cases effect with
  | updateLive | nothing => exact ⟨version, sampled, remembered⟩
  | reload =>
    refine ⟨Nat.le_succ_of_le version, sampled, fun current => ?_⟩
    exact absurd (current ▸ version) (Nat.not_succ_le_self _)
  | begin_ =>
    refine ⟨version, ?_, fun current scheduled found trigger => ?_⟩
    · rintro _ _ _ _ ⟨⟩ ref member _ known
      cases known
    · refine ⟨(remembered current scheduled found trigger).1, ?_⟩
      simp [executing]
  | @sample _ _ _ _ _ ref passing =>
    refine ⟨version, ?_, fun current scheduled found trigger => ?_⟩
    · rintro _ _ _ _ ⟨⟩
      exact unmoved_sample settled (sampled _ _ _ _ passing) ref
    · refine ⟨(remembered current scheduled found trigger).1, ?_⟩
      simp [executing]
  | @select _ _ _ passing =>
    refine ⟨version, by simp, fun current scheduled found trigger => ?_⟩
    obtain ⟨remembers, -⟩ := remembered current scheduled found trigger
    refine ⟨remembers, fun key member same => ?_⟩
    rw [executing_eq rfl, map_key_selectExecutions] at member
    obtain ⟨other, otherFound, due⟩ := isDue_of_mem_dueKeys member
    rw [same] at otherFound
    obtain rfl := Option.some.inj (otherFound.symm.trans found)
    rw [remembers.not_isDue trigger (sampled _ _ _ _ passing)] at due
    cases due
  | serve _ _ passing =>
    refine ⟨version, by simp, fun current scheduled found trigger => ?_⟩
    rw [executing_eq rfl, map_key_modify, ← executing_eq passing]
    exact remembered current scheduled found trigger
  | @record _ now snapshot _ completed passing returned =>
    refine ⟨version, by simp, fun current scheduled found trigger => ?_⟩
    have triggers := map_foldl_applyUpdate (record_trigger · now snapshot) completed state.rules
    have sameTrigger := congrArg (·[execution.idx]?) triggers
    simp only [List.getElem?_map, found, Option.map_some] at sameTrigger
    obtain ⟨before, beforeFound, same⟩ := Option.map_eq_some_iff.mp sameTrigger.symm
    obtain ⟨remembers, others⟩ := remembered current before beforeFound (same.trans trigger)
    rw [executing_eq passing, ← map_key_of_mapM returned] at others
    rw [getElem?_foldl_of_other fun other member =>
      others _ (List.mem_map_of_mem (f := CompletedExecution.key) member), beforeFound] at found
    cases found
    exact ⟨remembers, by simp [executing]⟩

theorem remembering_record (executor : RuleExecutor) (traceable : Traceable state) {now : Instant}
    (recorded : Records state now execution) :
    Remembering execution refs timeDeadbandMs valueDeadband
      (schedulerStep executor state .record) := by
  obtain ⟨version, sameLoads, idle, left⟩ := recorded_rule executor traceable recorded
  refine ⟨sameLoads ▸ version, by simp [idle], fun current scheduled found trigger => ?_⟩
  obtain ⟨before, -, sameKind, recordedRule⟩ := left (current.trans sameLoads)
  cases found.symm.trans recordedRule
  refine ⟨fun ref member value observed => ?_, by simp [executing, idle]⟩
  have trigger : before.trigger = .onChange refs timeDeadbandMs valueDeadband := trigger
  have onchange : execution.update.isOnchange = true := by
    rw [show execution.update.isOnchange = execution.isOnchange from rfl, ← sameKind]
    simp [isOnchange, trigger]
  rw [record_lastValue _ _ _ _ (pointRefs_of_trigger trigger ▸ member), if_pos onchange,
    show observedValue execution.snapshot execution.update.pointValues ref.cacheKey = some value
      from observed]
  rfl

end

theorem Starts.isDue {executor : RuleExecutor} {selected : RuleExecution}
    (starts : Starts executor state now selected) :
    ∃ kind snapshot scheduled, state.pass = some ⟨kind, now, .sampling [] snapshot⟩ ∧
      state.rules[selected.idx]? = some scheduled ∧ scheduled.rule = selected.rule ∧
      kind.isDue snapshot now scheduled = true := by
  obtain ⟨kind, snapshot, passing, member⟩ := starts
  obtain ⟨⟨scheduled, _⟩, listed, rfl⟩ := List.mem_map.mp member
  obtain ⟨listed, due⟩ := List.mem_filter.mp listed
  exact ⟨kind, snapshot, scheduled, passing, List.mem_zipIdx_iff_getElem?.mp listed, rfl, due⟩

theorem idx_eq_of_id (ids : (ruleIds rules).Nodup) {other : Nat} {otherRule : ScheduledRule}
    (found : rules[idx]? = some scheduled) (otherFound : rules[other]? = some otherRule)
    (same : scheduled.rule.id = otherRule.rule.id) : idx = other := by
  have bound : idx < (ruleIds rules).length := by
    rw [ruleIds, List.length_map]
    exact (List.getElem?_eq_some_iff.mp found).1
  refine (List.getElem?_inj bound ids).mp ?_
  simp only [ruleIds, List.getElem?_map, found, otherFound, Option.map_some, same]

/-- Until the rules are loaded again, an execution that succeeded with an action holds its rule back
for the cooldown, and a rule on change until one of its values moves. -/
theorem execution_remembered (executor : RuleExecutor) (live : LiveState)
    {front since : List SchedulerInput}
    (unique : ∀ input ∈ front, input.UniqueIds) (uniqueSince : ∀ input ∈ since, input.UniqueIds)
    {now : Instant} {execution : CompletedExecution}
    (recorded : Records (run (schedulerStep executor) (.initial live) front) now execution)
    (succeeded : execution.result.success = true) (acted : execution.result.actionsExecuted ≠ [])
    (order : ∀ input ∈ since, input.NotBefore now) {after : SchedulerState}
    (reached : run (schedulerStep executor) (.initial live) (front ++ .record :: since) = after)
    (notLoaded : after.loads = execution.version) {later : Instant} {selected : RuleExecution}
    (starts : Starts executor after later selected)
    (sameRule : selected.rule.id = execution.rule.id) :
    now + selected.rule.cooldownMs.toNat * 1000000 ≤ later ∧
      ∀ scheduled refs timeDeadbandMs valueDeadband, after.rules[selected.idx]? = some scheduled →
        scheduled.trigger = .onChange refs timeDeadbandMs valueDeadband →
        ¬ Guarded (schedulerStep executor)
          (fun state _ => Settled execution refs valueDeadband state.live)
          (run (schedulerStep executor) (.initial live) (front ++ [.record])) since := by
  have before := traceable_run executor (traceable_initial live) unique
  have noRows : SchedulerInput.record.UniqueIds := fun rows same => by cases same
  have traceable := traceable_run executor (traceable_step executor before noRows) uniqueSince
  have cooling : Cooling execution now (run (schedulerStep executor) _ since) :=
    invariant_of_mem (fun state input member holds =>
      cooling_step executor holds (order input member))
      (cooling_record executor before recorded succeeded acted)
  rw [run_append, run_cons] at reached
  rw [reached] at traceable cooling
  obtain ⟨_, _, scheduled, passing, found, rule, due⟩ := starts.isDue
  obtain ⟨other, otherFound, cooldown⟩ := cooling.remembered notLoaded.symm
  have sameId : other.rule.id = scheduled.rule.id := by rw [cooldown.1, rule, sameRule]
  have sameIdx := idx_eq_of_id traceable.ids otherFound found sameId
  rw [sameIdx, found] at otherFound
  cases otherFound
  refine ⟨?_, ?_⟩
  · rw [← rule]
    exact cooldown.le_of_isDue (cooling.clock _ passing) due
  · intro _ refs timeDeadbandMs valueDeadband listedFound trigger settled
    cases found.symm.trans listedFound
    rw [run_snoc] at settled
    have preserved (state : SchedulerState) (input : SchedulerInput)
        (holds : Remembering execution refs timeDeadbandMs valueDeadband state)
        (settled : Settled execution refs valueDeadband state.live) :=
      remembering_step executor holds settled input
    have remembering := invariant preserved (remembering_record executor before recorded) settled
    rw [reached] at remembering
    obtain ⟨remembers, -⟩ :=
      remembering.remembered notLoaded.symm scheduled (sameIdx ▸ found) trigger
    rw [remembers.not_isDue trigger (remembering.sampled _ _ _ _ passing)] at due
    cases due

/-- A rule on change with a cooldown of a minute. -/
def coolingRow : Rule × Option TriggerConfig :=
  ({ settingRule with cooldownMs := 60000 }, some (.onChange [watchedPoint] none none))

def withFacade : RuleExecutor := ⟨true, fun _ => none⟩

/-- The rule is loaded and executed. -/
def coolingFront : List SchedulerInput :=
  [.reload [coolingRow], .begin_ .tick 0, .sample 0, .select] ++
    List.replicate 6 (.serve 0 acceptAll)

theorem uniqueIds_coolingRow : (SchedulerInput.reload [coolingRow]).UniqueIds := by
  rintro _ ⟨⟩
  exact List.nodup_singleton _

theorem uniqueIds_coolingFront : ∀ input ∈ coolingFront, input.UniqueIds := by
  intro _ member
  simp only [coolingFront, List.mem_append, List.mem_cons, List.mem_replicate] at member
  obtain (rfl | rfl | rfl | rfl | none_) | ⟨-, rfl⟩ := member
  · exact uniqueIds_coolingRow
  · rintro _ ⟨⟩
  · rintro _ ⟨⟩
  · rintro _ ⟨⟩
  · cases none_
  · rintro _ ⟨⟩

theorem records_cooling : ∃ execution,
    Records (run (schedulerStep withFacade) (.initial settledLive) coolingFront) 0 execution ∧
      execution.result.success = true ∧ execution.result.actionsExecuted ≠ [] ∧
      execution.version = 1 ∧ execution.rule = coolingRow.1 ∧
      execution.observed watchedPoint.cacheKey = some 0 := by
  refine ⟨?execution, ⟨_, _, _, _, rfl, rfl, ?member⟩, ?_⟩
  case member => exact List.mem_cons_self
  refine ⟨rfl, ?_, rfl, rfl, rfl⟩
  exact List.cons_ne_nil _ _

/-- Another value, and a tick after the cooldown. -/
def cooledSince : List SchedulerInput :=
  [.updateLive fun _ _ _ => some (1, 0), .begin_ .tick 60000000000, .sample 0]

/-- The same row is loaded, and there is a tick at once. -/
def reloadedSince : List SchedulerInput := [.reload [coolingRow], .begin_ .tick 1, .sample 0]

theorem starts_cooled : ∃ selected : RuleExecution,
    Starts withFacade (run (schedulerStep withFacade) (.initial settledLive)
      (coolingFront ++ .record :: cooledSince)) 60000000000 selected ∧
      selected.rule = coolingRow.1 := by
  refine ⟨?selected, ⟨_, _, rfl, ?member⟩, ?_⟩
  case member => exact List.mem_cons_self
  rfl

theorem starts_reloaded : ∃ selected : RuleExecution,
    Starts withFacade (run (schedulerStep withFacade) (.initial settledLive)
      (coolingFront ++ .record :: reloadedSince)) 1 selected ∧ selected.rule = coolingRow.1 := by
  refine ⟨?selected, ⟨_, _, rfl, ?member⟩, ?_⟩
  case member => exact List.mem_cons_self
  rfl

/-- Without a reload, the rule is executed again on another value, after its cooldown. -/
theorem execution_remembered_cooled : ∃ selected : RuleExecution,
    Starts withFacade (run (schedulerStep withFacade) (.initial settledLive)
      (coolingFront ++ .record :: cooledSince)) 60000000000 selected ∧
      0 + selected.rule.cooldownMs.toNat * 1000000 ≤ 60000000000 := by
  obtain ⟨execution, recorded, succeeded, acted, version, rule, -⟩ := records_cooling
  obtain ⟨selected, starts, sameRule⟩ := starts_cooled
  have unique : ∀ input ∈ cooledSince, input.UniqueIds := by
    simp [cooledSince, SchedulerInput.UniqueIds]
  have order : ∀ input ∈ cooledSince, input.NotBefore 0 := by
    simp [cooledSince, SchedulerInput.NotBefore]
  have same : selected.rule.id = execution.rule.id := by rw [sameRule, rule]
  exact ⟨selected, starts, (execution_remembered withFacade settledLive uniqueIds_coolingFront
    unique recorded succeeded acted order rfl version.symm starts same).1⟩

/-- The row is loaded again right after the execution.  The rule is executed at once, although its
point never moved. -/
theorem reload_forgets_execution : ∃ execution : CompletedExecution, ∃ selected : RuleExecution,
    Records (run (schedulerStep withFacade) (.initial settledLive) coolingFront) 0 execution ∧
      execution.result.success = true ∧ execution.result.actionsExecuted ≠ [] ∧
      Starts withFacade (run (schedulerStep withFacade) (.initial settledLive)
        (coolingFront ++ .record :: reloadedSince)) 1 selected ∧
      selected.rule = execution.rule ∧ 1 < 0 + selected.rule.cooldownMs.toNat * 1000000 ∧
      Guarded (schedulerStep withFacade)
        (fun state _ => Settled execution [watchedPoint] none state.live)
        (run (schedulerStep withFacade) (.initial settledLive) (coolingFront ++ [.record]))
        reloadedSince := by
  obtain ⟨execution, recorded, succeeded, acted, _, rule, observed⟩ := records_cooling
  obtain ⟨selected, starts, sameRule⟩ := starts_reloaded
  refine ⟨execution, selected, recorded, succeeded, acted, starts, sameRule.trans rule.symm, ?_, ?_⟩
  · rw [sameRule]
    decide
  · have settled : Settled execution [watchedPoint] none settledLive := by
      intro _ member _ sampled
      obtain rfl := List.mem_singleton.mp member
      refine ⟨0, observed, ?_⟩
      cases sampled
      rfl
    exact ⟨settled, settled, settled, trivial⟩

end AetherIot.Rules
