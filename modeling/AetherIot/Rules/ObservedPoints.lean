import AetherIot.Rules.Executor

/-!
# The point values of an execution

The values that an execution reports for points are values that it read.
-/

namespace AetherIot.Rules

open Interaction

/-- Point values that were read and are finite. -/
def Observed (trace : List (Exchange RuleRequest.Reply)) (values : Values) : Prop :=
  ∀ key value, values key = some value → ∃ context isAction instanceId point timestamp,
    key = pointKey isAction instanceId point ∧ Float64.isFinite value = true ∧
    (⟨.getInstance context instanceId (if isAction then 1 else 0) point, some (value, timestamp)⟩ :
      Exchange RuleRequest.Reply) ∈ trace

variable {whole trace : List (Exchange RuleRequest.Reply)}

theorem observed_empty : Observed whole .empty := by
  intro _ _ found
  cases found

variable {values after : Values} {execution : RuleExecutionContext} {outcome read : RuleReadOutcome}
  {variables_ : List RuleVariable}

theorem Observed.extend {added : Values} (observed : Observed whole values)
    (others : Observed whole added) : Observed whole (values.extend added) := by
  intro key value found
  cases new : added key with
  | none =>
    simp only [Values.extend, new] at found
    exact observed key value found
  | some =>
    simp only [Values.extend, new] at found
    exact others key value (new.trans found)

theorem observed_recordRead {declared : RuleVariable} {instanceId point : UInt32}
    {reply : Option (UInt64 × UInt64)} (observed : Observed whole outcome.pointValues)
    (asked : (⟨.getInstance execution instanceId (if declared.isAction then 1 else 0) point, reply⟩ :
      Exchange RuleRequest.Reply) ∈ whole) :
    Observed whole (recordRead declared instanceId point reply values outcome).2.pointValues := by
  have unavailable : Observed whole (if declared.isAction then outcome
      else { outcome with missing := outcome.missing ++ [declared.name] }).pointValues := by
    split
    · exact observed
    · exact observed
  rcases reply with _ | ⟨value, timestamp⟩
  · exact unavailable
  · by_cases finite : Float64.isFinite value
    · simp only [recordRead, if_pos finite]
      intro key found known
      by_cases here : key = pointKey declared.isAction instanceId point
      · rw [here, Values.insert, Function.update_self] at known
        cases known
        exact ⟨execution, declared.isAction, instanceId, point, timestamp, here, finite, asked⟩
      · rw [Values.insert, Function.update_of_ne here] at known
        exact observed key found known
    · simp only [recordRead, if_neg finite]
      exact unavailable

theorem observed_readPoints
    (run : (readPoints execution variables_ values outcome).Runs trace (.ok (after, .ok read)))
    (part : trace ⊆ whole) (observed : Observed whole outcome.pointValues) :
    Observed whole read.pointValues := by
  induction variables_ generalizing values outcome trace with
  | nil =>
    obtain ⟨rfl, same⟩ := run
    cases same
    exact observed
  | cons _ _ ih =>
    simp only [readPoints] at run
    split at run
    · exact ih run part observed
    · split at run
      · cases run.2
      · cases run.2
      · obtain ⟨_, _, rfl, run⟩ := run
        obtain ⟨asked, part⟩ := List.cons_subset.mp part
        exact ih run part (observed_recordRead observed asked)

theorem readFormulas_pointValues {read : Values × RuleReadOutcome}
    (run : (readFormulas variables_ values outcome).Runs trace (.ok read)) :
    read.2.pointValues = outcome.pointValues := by
  induction variables_ generalizing values outcome trace with
  | nil =>
    obtain ⟨rfl, same⟩ := run
    cases same
    rfl
  | cons _ _ ih =>
    simp only [readFormulas] at run
    split at run
    · exact ih run
    · obtain ⟨reply, _, rfl, run⟩ := run
      cases reply with
      | ok | error =>
        have same := ih run
        exact same

theorem observed_readRuleVariables
    (run : (readRuleVariables execution variables_ values).Runs trace (.ok (after, .ok read)))
    (part : trace ⊆ whole) : Observed whole read.pointValues := by
  obtain ⟨_, _, ⟨_, outcome⟩, rfl, pointRun, run⟩ := runs_bind.mp run
  cases outcome with
  | error => cases run.2
  | ok =>
    obtain ⟨_, _, _, rfl, formulaRun, rfl, same⟩ := runs_bind.mp run
    cases same
    rw [readFormulas_pointValues formulaRun]
    exact observed_readPoints pointRun (fun _ member => part (List.mem_append_left _ member))
      observed_empty

namespace Walk

/-- All point values of the walk were read. -/
structure PointsObserved (whole : List (Exchange RuleRequest.Reply)) (walk : Walk) : Prop where
  pointValues : Observed whole walk.pointValues
  result : Observed whole walk.result.pointValues

/-- The point values stay as they are. -/
structure SamePoints (walk after : Walk) : Prop where
  pointValues : after.pointValues = walk.pointValues
  result : after.result.pointValues = walk.result.pointValues

variable {walk : Walk}

theorem PointsObserved.of_same {after : Walk} (observed : walk.PointsObserved whole)
    (same : walk.SamePoints after) : after.PointsObserved whole :=
  ⟨same.pointValues ▸ observed.pointValues, same.result ▸ observed.result⟩

theorem samePoints_follow (walk : Walk) (label : String) (wires : List String) :
    walk.SamePoints (walk.follow label wires).1 := by
  cases wires <;> exact ⟨rfl, rfl⟩

theorem observed_enter (observed : walk.PointsObserved whole) (entry : NodeEntry) (values : Values)
    (read : Except String RuleReadOutcome)
    (points : ∀ outcome, read = .ok outcome → Observed whole outcome.pointValues) :
    (walk.enter entry values read).1.PointsObserved whole := by
  cases read with
  | error =>
    simp only [enter]
    split
    · exact ⟨observed.pointValues, observed.pointValues⟩
    · exact ⟨observed.pointValues, observed.result⟩
  | ok outcome =>
    have extended := observed.pointValues.extend (points outcome rfl)
    simp only [enter]
    split
    · split
      · exact ⟨extended, extended⟩
      · exact ⟨extended, observed.result⟩
    · exact ⟨extended, observed.result⟩

end Walk

theorem observed_withVariables {entry : NodeEntry} {walk after : Walk} {next : Option String}
    {work : Walk → Values → RuleProgram (Walk × Option String)}
    (run : (withVariables execution entry variables_ walk work).Runs trace (.ok (after, next)))
    (part : trace ⊆ whole) (observed : walk.PointsObserved whole)
    (works : ∀ {entered snapshot attempted},
      (work entered snapshot).Runs attempted (.ok (after, next)) → entered.SamePoints after) :
    after.PointsObserved whole := by
  obtain ⟨_, _, ⟨values, read⟩, rfl, readRun, workRun⟩ := runs_bind.mp run
  have entered := Walk.observed_enter observed entry values read fun outcome same =>
    observed_readRuleVariables (same ▸ readRun) fun _ member =>
      part (List.mem_append_left _ member)
  generalize walk.enter entry values read = step at workRun entered
  obtain ⟨_, _ | _⟩ := step
  · obtain ⟨rfl, same⟩ := workRun
    cases same
    exact entered
  · exact entered.of_same (works workRun)

namespace RuleExecutor

variable {executor : RuleExecutor} {ruleId : Int} {id : String} {walk after : Walk}
  {next : Option String} {wires : List String} {snapshot : Values} {rule : Rule}
  {result : RuleExecutionResult}

theorem samePoints_decideSwitch {branches : List RuleSwitchBranch}
    {wires : String → Option (List String)}
    (decided : executor.decideSwitch id branches wires walk snapshot = (after, next)) :
    walk.SamePoints after := by
  simp only [decideSwitch] at decided
  split at decided <;> cases decided <;> exact ⟨rfl, rfl⟩

theorem samePoints_finishCalculations {values : Values} {actions : List ActionResult}
    {error : Option String} :
    walk.SamePoints (finishCalculations id wires walk snapshot values actions error).1 := by
  cases error with
  | some => exact ⟨rfl, rfl⟩
  | none => cases wires <;> exact ⟨rfl, rfl⟩

theorem samePoints_measurePeriod {input output : RuleVariable} {period : String} {value : UInt64}
    (run : (executor.measurePeriod ruleId execution id input output period wires walk snapshot
      value).Runs trace (.ok (after, next))) : walk.SamePoints after := by
  obtain ⟨reply, _, rfl, measuredRun⟩ := runs_send_bind.mp run
  cases reply with
  | error =>
    cases measuredRun.2
    exact ⟨rfl, rfl⟩
  | ok =>
    obtain ⟨_, _, _, rfl, -, rfl, same⟩ := runs_bind.mp measuredRun
    obtain ⟨rfl, -⟩ := Prod.ext_iff.mp (Except.ok.inj same)
    cases wires <;> exact ⟨rfl, rfl⟩

theorem observed_finish (observed : walk.PointsObserved whole) :
    (finish walk).PointsObserved whole := by
  refine ⟨observed.pointValues, ?_⟩
  simp only [finish]
  split <;> exact observed.pointValues

theorem observed_stepNode {node : RuleNode}
    (run : (executor.stepNode ruleId execution id walk node).Runs trace (.ok (after, next)))
    (part : trace ⊆ whole) (observed : walk.PointsObserved whole) : after.PointsObserved whole := by
  cases node with
  | end_ =>
    cases run.2
    exact observed_finish observed
  | start wires =>
    obtain ⟨-, same⟩ := run
    obtain ⟨rfl, -⟩ := Prod.ext_iff.mp (Except.ok.inj same)
    exact observed.of_same (walk.samePoints_follow "Start" wires)
  | switch =>
    refine observed_withVariables run part observed fun decideRun => ?_
    exact samePoints_decideSwitch (Except.ok.inj decideRun.2).symm
  | changeValue _ _ wires =>
    refine observed_withVariables run part observed fun changeRun => ?_
    obtain ⟨_, _, _, rfl, -, rfl, same⟩ := runs_bind.mp changeRun
    obtain ⟨rfl, -⟩ := Prod.ext_iff.mp (Except.ok.inj same)
    cases wires <;> exact ⟨rfl, rfl⟩
  | calculation =>
    refine observed_withVariables run part observed fun calculateRun => ?_
    obtain ⟨_, _, _, rfl, -, rfl, same⟩ := runs_bind.mp calculateRun
    obtain ⟨rfl, -⟩ := Prod.ext_iff.mp (Except.ok.inj same)
    exact samePoints_finishCalculations
  | periodDelta =>
    refine observed_withVariables run part observed fun periodRun => ?_
    split at periodRun
    · cases periodRun.2
      exact ⟨rfl, rfl⟩
    · exact samePoints_measurePeriod periodRun

theorem observed_walkFrom {remaining : Nat}
    (run : (executor.walkFrom rule execution remaining id walk).Runs trace (.ok result))
    (part : trace ⊆ whole) (observed : walk.PointsObserved whole) :
    Observed whole result.pointValues := by
  induction remaining generalizing id walk trace with
  | zero =>
    cases run.2
    exact observed.result
  | succ _ ih =>
    obtain ⟨_, _, rfl, nodeRun⟩ := runs_send_bind.mp run
    obtain ⟨-, part⟩ := List.cons_subset.mp part
    split at nodeRun
    · cases nodeRun.2
      exact observed.result
    · obtain ⟨_, _, ⟨_, next⟩, rfl, stepRun, restRun⟩ := runs_bind.mp nodeRun
      obtain ⟨firstPart, restPart⟩ := List.append_subset.mp part
      have stepped := observed_stepNode stepRun firstPart ⟨observed.pointValues, observed.result⟩
      cases next with
      | none =>
        cases restRun.2
        exact stepped.result
      | some => exact ih restRun restPart stepped

theorem observed_execute (run : (executor.execute rule).Runs trace (.ok result)) :
    Observed trace result.pointValues := by
  obtain ⟨_, _, rfl, walkRun⟩ := runs_send_bind.mp run
  exact observed_walkFrom walkRun (List.subset_cons_self _ _) ⟨observed_empty, observed_empty⟩

end RuleExecutor

end AetherIot.Rules
