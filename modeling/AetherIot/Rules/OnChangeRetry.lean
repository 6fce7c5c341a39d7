import AetherIot.Rules.ObservedPoints
import AetherIot.Rules.OnChangeCoverage

/-!
# Failed executions of rules on change

A failed execution is recorded like one that succeeded.  The rule is then executed again only on
another change.
-/

namespace AetherIot.Rules

open Interaction GuardedRun PassKind ScheduledRule

theorem nodup_map_idx_dueKeys (kind : PassKind) (now : Instant) (snapshot : Values) (version : Nat)
    (rules : List ScheduledRule) :
    ((dueKeys kind now snapshot version rules).map ExecutionKey.idx).Nodup := by
  have positions : (dueKeys kind now snapshot version rules).map ExecutionKey.idx =
      (rules.zipIdx.filter fun entry => kind.isDue snapshot now entry.1).map Prod.snd := by
    simp only [dueKeys, List.map_map]
    rfl
  rw [positions]
  refine List.Nodup.sublist (List.filter_sublist.map Prod.snd) ?_
  rw [List.zipIdx_map_snd]
  exact List.nodup_range'

variable {now : Instant} {snapshot : Values} {completed : List CompletedExecution}
  {execution : CompletedExecution} {scheduled : ScheduledRule} {executor : RuleExecutor}
  {live : LiveState} {refs : List PointRef} {timeDeadbandMs : Option UInt64}
  {valueDeadband : Option ValueDeadband} {kind : PassKind}

theorem getElem?_foldl_of_other {idx : Nat} (others : ∀ execution ∈ completed, execution.idx ≠ idx)
    (rules : List ScheduledRule) :
    (completed.foldl (fun rules execution => applyUpdate now snapshot rules execution.update)
      rules)[idx]? = rules[idx]? := by
  induction completed generalizing rules with
  | nil => rfl
  | cons execution _ ih =>
    rw [List.foldl_cons, ih fun other member => others other (List.mem_cons_of_mem _ member),
      getElem?_applyUpdate]
    have elsewhere : execution.update.idx ≠ idx := others execution List.mem_cons_self
    simp [elsewhere]

theorem getElem?_foldl_of_mem (distinct : (completed.map CompletedExecution.idx).Nodup)
    (member : execution ∈ completed) {rules : List ScheduledRule}
    (found : rules[execution.idx]? = some scheduled)
    (sameRule : scheduled.rule.id = execution.rule.id) :
    (completed.foldl (fun rules execution => applyUpdate now snapshot rules execution.update)
      rules)[execution.idx]? = some (scheduled.record now snapshot execution.update) := by
  obtain ⟨front, back, rfl⟩ := List.append_of_mem member
  rw [List.map_append, List.map_cons, List.nodup_middle, List.nodup_cons] at distinct
  have others : ∀ other ∈ front ++ back, other.idx ≠ execution.idx := by
    intro other listed same
    refine distinct.1 ?_
    rw [← List.map_append, ← same]
    exact List.mem_map_of_mem listed
  rw [List.foldl_append, List.foldl_cons,
    getElem?_foldl_of_other (fun other listed => others other (List.mem_append_right _ listed)),
    getElem?_applyUpdate,
    getElem?_foldl_of_other (fun other listed => others other (List.mem_append_left _ listed)),
    found, Option.map_some]
  have mine : execution.update.idx = execution.idx ∧ scheduled.rule.id = execution.update.ruleId :=
    ⟨rfl, sameRule⟩
  rw [if_pos mine]

theorem observedValue_eq_sample (returned : Returned executor live snapshot execution)
    {ref : PointRef} (sampled : snapshot ref.cacheKey = live.sample ref) :
    observedValue snapshot execution.result.pointValues ref.cacheKey = live.sample ref := by
  have filtered : (live.sample ref).filter Float64.isFinite = live.sample ref := by
    simp [LiveState.sample, Option.filter_filter]
  cases known : execution.result.pointValues ref.cacheKey with
  | none =>
    simp only [observedValue, known, sampled]
    exact filtered
  | some value =>
    obtain ⟨_, isAction, _, _, _, key, finite, asked⟩ :=
      RuleExecutor.observed_execute returned.runs ref.cacheKey value known
    obtain ⟨kind, rfl, rfl⟩ := pointKey_injective key
    have seen := returned.reads _ _ _ _ _ asked
    have typed : ref.instanceType = if isAction then 1 else 0 := by
      rw [← kind, PointRef.instanceType]
      cases ref.pointType <;> rfl
    have live_ : live.sample ref = some value := by
      simp [LiveState.sample, typed, ← seen, finite]
    rw [live_, observedValue, known]
    simp [finite]

/-- A pass, during which nothing changes, in which an execution of a rule on change fails. -/
structure FailedPass (executor : RuleExecutor) (start : SchedulerState) (kind : PassKind)
    (now : Instant) (steps : List SchedulerInput) (execution : CompletedExecution)
    (scheduled : ScheduledRule) (refs : List PointRef) (timeDeadbandMs : Option UInt64)
    (valueDeadband : Option ValueDeadband) : Prop where
  idle : start.pass = none
  onlySteps : ∀ input ∈ steps, input.IsPassStep
  ended : (run (schedulerStep executor) start (.begin_ kind now :: steps)).pass = none
  executed : execution ∈
    (run (schedulerStep executor) start (.begin_ kind now :: steps)).history.drop
      start.history.length
  found : start.rules[execution.idx]? = some scheduled
  trigger : scheduled.trigger = .onChange refs timeDeadbandMs valueDeadband
  failed : execution.result.success = false

/-- Once its gates are open, the next tick executes the rule, as long as nothing changes. -/
def Retried (executor : RuleExecutor) (state : SchedulerState) (idx : Nat)
    (timeDeadbandMs : Option UInt64) : Prop :=
  ∀ scheduled later, state.rules[idx]? = some scheduled →
    timeGateOpen scheduled.onchangeState timeDeadbandMs later = true →
    scheduled.cooldownOk later = true →
    ∀ steps : List SchedulerInput, (∀ input ∈ steps, input.IsPassStep) → ∀ snapshot executions,
      (run (schedulerStep executor) state (.begin_ .tick later :: steps)).pass =
          some ⟨.tick, later, .executing snapshot executions⟩ →
        ∃ execution ∈ executions, execution.idx = idx

/-- The rule remembers the values that it remembered before. -/
def NotAdvanced (state : SchedulerState) (idx : Nat) (scheduled : ScheduledRule) : Prop :=
  state.rules[idx]?.map (·.onchangeState.lastValue) = some scheduled.onchangeState.lastValue

def AlreadyRemembered (live : LiveState) (refs : List PointRef) (scheduled : ScheduledRule) :
    Prop :=
  ∀ ref ∈ refs, ∀ value, live.sample ref = some value →
    scheduled.onchangeState.lastValue ref.cacheKey = some value

section

variable (trigger : scheduled.trigger = .onChange refs timeDeadbandMs valueDeadband)

include trigger

theorem pointRefs_of_trigger : scheduled.pointRefs = refs := by
  simp [pointRefs, trigger]

theorem lastValue_record {update : TimestampUpdate} (onchange : update.isOnchange = true)
    (now : Instant) (observed : ∀ ref ∈ refs,
      observedValue snapshot update.pointValues ref.cacheKey = live.sample ref) :
    (scheduled.record now snapshot update).onchangeState.lastValue =
        scheduled.onchangeState.lastValue ↔ AlreadyRemembered live refs scheduled := by
  have kind : scheduled.isOnchange = true := by simp [isOnchange, trigger]
  have recorded (key : String) :
      (scheduled.record now snapshot update).onchangeState.lastValue key =
        if key ∈ refs.map PointRef.cacheKey then
          observedValue snapshot update.pointValues key <|> scheduled.onchangeState.lastValue key
        else scheduled.onchangeState.lastValue key := by
    simp only [record, onchange, kind, Bool.and_self, if_true, pointRefs_of_trigger trigger]
    exact recordValues_apply ..
  constructor
  · intro same ref member value sampled
    have here := congrFun same ref.cacheKey
    rw [recorded, if_pos (List.mem_map_of_mem member), observed ref member, sampled] at here
    exact here.symm
  · intro remembered
    funext key
    rw [recorded]
    split
    · rename_i listed
      obtain ⟨ref, member, rfl⟩ := List.mem_map.mp listed
      rw [observed ref member]
      cases sampled : live.sample ref with
      | none => rfl
      | some value => exact (remembered ref member value sampled).symm
    · rfl

/-- A rule whose live values count as changes of themselves is due again. -/
theorem isDue_again {again : Values} {later : Instant}
    (due : kind.isDue snapshot now scheduled = true) {other : ScheduledRule}
    (sameRule : other.rule = scheduled.rule) (sameTrigger : other.trigger = scheduled.trigger)
    (sameValues : other.onchangeState.lastValue = scheduled.onchangeState.lastValue)
    (sampled : ∀ ref ∈ refs, snapshot ref.cacheKey = again ref.cacheKey)
    (timeGate : timeGateOpen other.onchangeState timeDeadbandMs later = true)
    (cooldown : other.cooldownOk later = true) :
    tick.isDue again later other = true := by
  simp only [isDue, Bool.and_eq_true] at due ⊢
  obtain ⟨⟨covered, should⟩, -⟩ := due
  simp only [covers, Bool.and_eq_true] at covered
  refine ⟨⟨?_, ?_⟩, cooldown⟩
  · simp [covers, sameRule, covered.1]
  · simp only [shouldExecute, trigger, shouldTriggerOnchange, Bool.and_eq_true,
      List.any_eq_true] at should
    obtain ⟨-, ref, member, changed⟩ := should
    simp only [shouldExecute, sameTrigger, trigger, shouldTriggerOnchange,
      Bool.and_eq_true, List.any_eq_true]
    refine ⟨timeGate, ref, member, ?_⟩
    simpa only [pointChanged, ← sampled ref member, sameValues] using changed

end

/-- What a pass that nothing disturbs leaves of a rule that it executed. -/
theorem recorded_of_pass {start : SchedulerState} {steps : List SchedulerInput}
    (pass : FailedPass executor start kind now steps execution scheduled refs timeDeadbandMs
      valueDeadband) :
    ∃ snapshot, kind.isDue snapshot now scheduled = true ∧
      (∀ ref ∈ refs, snapshot ref.cacheKey = start.live.sample ref) ∧
      execution.update.isOnchange = true ∧
      (∀ ref ∈ refs, observedValue snapshot execution.update.pointValues ref.cacheKey =
        start.live.sample ref) ∧
      (run (schedulerStep executor) start (.begin_ kind now :: steps)).rules[execution.idx]? =
        some (scheduled.record now snapshot execution.update) ∧
      (run (schedulerStep executor) start (.begin_ kind now :: steps)).live = start.live := by
  obtain ⟨idle, onlySteps, ended, executed, found, trigger, -⟩ := pass
  have passing := passState_run executor idle kind now onlySteps
  generalize run (schedulerStep executor) start (.begin_ kind now :: steps) = after at *
  cases passing with
  | sampling | executing => cases ended
  | @recorded snapshot completed sampled keys returned =>
    rw [List.drop_left] at executed
    have key : execution.key ∈ dueKeys kind now snapshot start.loads start.rules := by
      rw [← keys]
      exact List.mem_map_of_mem executed
    obtain ⟨⟨_, idx⟩, selected, same⟩ := List.mem_map.mp key
    obtain ⟨listed, due⟩ := List.mem_filter.mp selected
    have position : idx = execution.idx := congrArg ExecutionKey.idx same
    have otherFound := List.mem_zipIdx_iff_getElem?.mp listed
    simp only [position, found, Option.some.injEq] at otherFound
    subst otherFound
    have sameRule : scheduled.rule = execution.rule := congrArg ExecutionKey.rule same
    have onchange : scheduled.isOnchange = execution.isOnchange :=
      congrArg ExecutionKey.isOnchange same
    have covered : kind.covers scheduled = true := by
      simp only [isDue, Bool.and_eq_true] at due
      exact due.1.1
    have sampledHere : ∀ ref ∈ refs, snapshot ref.cacheKey = start.live.sample ref :=
      fun ref member => sampled.eq_sample found covered (pointRefs_of_trigger trigger ▸ member)
    have distinct : (completed.map CompletedExecution.idx).Nodup := by
      rw [map_idx_eq, keys]
      exact nodup_map_idx_dueKeys ..
    refine ⟨snapshot, due, sampledHere, ?_, fun ref member => ?_, ?_, rfl⟩
    · rw [show execution.update.isOnchange = execution.isOnchange from rfl, ← onchange]
      simp [isOnchange, trigger]
    · exact observedValue_eq_sample (returned execution executed) (sampledHere ref member)
    · exact getElem?_foldl_of_mem distinct executed found (congrArg Rule.id sameRule)

/-- A failed execution is retried and leaves the remembered values alone only if the live values are
the remembered ones. -/
theorem failed_execution_retried_iff {executor : RuleExecutor} {start : SchedulerState}
    {kind : PassKind} {now : Instant} {steps : List SchedulerInput}
    {execution : CompletedExecution} {scheduled : ScheduledRule} {refs : List PointRef}
    {timeDeadbandMs : Option UInt64} {valueDeadband : Option ValueDeadband}
    (pass : FailedPass executor start kind now steps execution scheduled refs timeDeadbandMs
      valueDeadband) :
    (Retried executor (run (schedulerStep executor) start (.begin_ kind now :: steps))
        execution.idx timeDeadbandMs ∧
      NotAdvanced (run (schedulerStep executor) start (.begin_ kind now :: steps)) execution.idx
        scheduled) ↔
      AlreadyRemembered start.live refs scheduled := by
  obtain ⟨snapshot, due, sampled, onchange, observed, recorded, sameLive⟩ := recorded_of_pass pass
  have idle := pass.ended
  have trigger := pass.trigger
  have values := lastValue_record trigger onchange now observed
  generalize run (schedulerStep executor) start (.begin_ kind now :: steps) = after at *
  have notAdvanced_iff : NotAdvanced after execution.idx scheduled ↔
      AlreadyRemembered start.live refs scheduled := by
    rw [NotAdvanced, recorded, Option.map_some, Option.some.injEq]
    exact values
  rw [notAdvanced_iff]
  refine ⟨fun both => both.2, fun remembered => ⟨?_, remembered⟩⟩
  intro _ later found timeGate cooldown steps onlySteps again _ executing
  obtain rfl := Option.some.inj (recorded.symm.trans found)
  have passing := passState_run executor idle .tick later onlySteps
  generalize run (schedulerStep executor) after (.begin_ .tick later :: steps) = last at *
  cases passing with
  | sampling | recorded => cases executing
  | @executing _ _ sampledAgain keys =>
    cases executing
    have dueAgain : tick.isDue again later
        (scheduled.record now snapshot execution.update) = true := by
      refine isDue_again trigger due rfl rfl (values.mpr remembered) (fun ref member => ?_)
        timeGate cooldown
      have enabled : tick.covers (scheduled.record now snapshot execution.update) = true := by
        simp only [isDue, covers, Bool.and_eq_true] at due
        simp [covers, record_rule, due.1.1.1]
      rw [sampledAgain.eq_sample found enabled
        (pointRefs_of_trigger (record_trigger .. |>.trans trigger) ▸ member), sameLive,
        sampled ref member]
    have member := mem_dueKeys after.loads found dueAgain
    rw [← keys] at member
    obtain ⟨execution, listed, same⟩ := List.mem_map.mp member
    exact ⟨execution, listed, congrArg ExecutionKey.idx same⟩

/-- A rule on change that sets an action point. -/
def settingRule : Rule where
  id := 1
  name := "setting"
  enabled := true
  cooldownMs := 0
  flow :=
    { startNode := "start"
      nodes := fun id =>
        if id = "start" then some (.start ["set"])
        else if id = "set" then some (.changeValue
          [⟨"limit", some 1, some "action", some 9, []⟩] [⟨"limit", .number 0 "0"⟩] ["end"])
        else if id = "end" then some .end_
        else none }

def settingRow : Rule × Option TriggerConfig :=
  (settingRule, some (.onChange [watchedPoint] none none))

/-- The executor has no command facade. -/
def withoutFacade : RuleExecutor := ⟨false, fun _ => none⟩

def settingStart : SchedulerState :=
  schedulerStep withoutFacade (.initial settledLive) (.reload [settingRow])

def settingSteps : List SchedulerInput :=
  [.sample 0, .select] ++ List.replicate 5 (.serve 0 acceptAll) ++ [.record]

/-- The rule is executed on the first value of its point, and its action fails. -/
theorem failedPass_setting : ∃ execution, execution.idx = 0 ∧
    FailedPass withoutFacade settingStart .tick 0 settingSteps execution (.load settingRow)
      [watchedPoint] none none := by
  refine ⟨_, rfl, rfl, ?_, rfl, List.mem_of_getElem? (i := 0) rfl, rfl, rfl, rfl⟩
  simp [settingSteps, SchedulerInput.IsPassStep]

theorem not_alreadyRemembered_setting :
    ¬ AlreadyRemembered settingStart.live [watchedPoint] (.load settingRow) := by
  intro remembered
  have known := remembered watchedPoint List.mem_cons_self 0 rfl
  cases known

theorem failed_execution_retried_iff_setting : ¬ (Retried withoutFacade
        (run (schedulerStep withoutFacade) settingStart (.begin_ .tick 0 :: settingSteps)) 0 none ∧
      NotAdvanced (run (schedulerStep withoutFacade) settingStart (.begin_ .tick 0 :: settingSteps))
        0 (.load settingRow)) := by
  obtain ⟨_, first, pass⟩ := failedPass_setting
  have both := failed_execution_retried_iff pass
  rw [first] at both
  exact fun holds => not_alreadyRemembered_setting (both.mp holds)

/-- The action fails, the remembered value advances, and a tick long after executes nothing. -/
theorem failed_execution_not_retried : ∃ execution,
    FailedPass withoutFacade settingStart .tick 0 settingSteps execution (.load settingRow)
      [watchedPoint] none none ∧
    ¬ Retried withoutFacade
      (run (schedulerStep withoutFacade) settingStart (.begin_ .tick 0 :: settingSteps))
      execution.idx none ∧
    ¬ NotAdvanced (run (schedulerStep withoutFacade) settingStart (.begin_ .tick 0 :: settingSteps))
      execution.idx (.load settingRow) := by
  obtain ⟨execution, first, pass⟩ := failedPass_setting
  refine ⟨execution, pass, ?_, ?_⟩
  · intro retried
    rw [first] at retried
    obtain ⟨_, listed, -⟩ := retried _ 1000000000 rfl rfl rfl [.sample 0, .select]
      (by simp [SchedulerInput.IsPassStep]) _ [] rfl
    cases listed
  · intro same
    rw [first] at same
    have values := congrFun (Option.some.inj same) watchedPoint.cacheKey
    have recorded : (some 0 : Option UInt64) = none := values
    cases recorded

end AetherIot.Rules
