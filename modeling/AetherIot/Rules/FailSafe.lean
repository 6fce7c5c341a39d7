import AetherIot.Rules.Executor

/-!
# Rules fail safe

A run of a rule is a sequence of visits.  Each visit reads the variables of its node and then
attempts actions.  A visit whose reads are not all available is the last one, and it attempts
nothing.
-/

namespace AetherIot.Rules

open Interaction Model

abbrev RuleExchange : Type := Exchange RuleRequest.Reply

def RuleNode.declared : RuleNode → List RuleVariable
  | .start _ | .end_ => []
  | .switch variables_ _ _ | .changeValue variables_ _ _ | .calculation variables_ _ _ => variables_
  | .periodDelta input output _ _ => [input, output]

/-- The variables that a node reads: all that it declares, but not the output of a period. -/
def RuleNode.inputs : RuleNode → List RuleVariable
  | .periodDelta input _ _ _ => [input]
  | node => node.declared

def RuleNode.isEnd : RuleNode → Bool
  | .end_ => true
  | _ => false

theorem RuleNode.eq_end_of_isEnd {node : RuleNode} (ended : node.isEnd = true) : node = .end_ := by
  cases node with
  | end_ => rfl
  | _ => cases ended

section

variable (execution : RuleExecutionContext) (declared : RuleVariable) (exchange : RuleExchange)

/-- The read of a variable without a formula.  A measurement is present and finite. -/
def PointRead : Prop :=
  ∃ instanceId point reply, declared.instance_ = some instanceId ∧ declared.point = some point ∧
    exchange = ⟨.getInstance execution instanceId (if declared.isAction then 1 else 0) point,
      reply⟩ ∧
    (declared.isAction = false →
      ∃ value timestamp, reply = some (value, timestamp) ∧ Float64.isFinite value)

def FormulaRead : Prop :=
  ∃ values result,
    exchange = ⟨.evaluateFormula (formulaExpression declared.formula) values, .ok result⟩

/-- The variables were read one after the other, and all of them are available. -/
def AvailableReads (variables_ : List RuleVariable) (reads : List RuleExchange) : Prop :=
  ∃ points formulas, reads = points ++ formulas ∧
    List.Forall₂ (PointRead execution) (variables_.filter (·.formula = [])) points ∧
    List.Forall₂ FormulaRead (variables_.filter (·.formula ≠ [])) formulas

end

/-- A request that only reads. -/
def RuleRequest.IsRead : RuleRequest → Prop
  | .getInstance _ _ _ _ | .evaluateFormula _ _ => True
  | _ => False

variable {declared : RuleVariable} {instanceId point : UInt32} {values after : Values}
  {outcome read : RuleReadOutcome} {execution : RuleExecutionContext}
  {variables_ : List RuleVariable} {trace : List RuleExchange} {actions : List ActionResult}
  {rawValue : UInt64} {default : PointTag} {action : ActionResult} {walk : Walk}
  {result : RuleExecutionResult}

theorem recordRead_missing {reply : Option (UInt64 × UInt64)}
    (complete : (recordRead declared instanceId point reply values outcome).2.missing = []) :
    outcome.missing = [] ∧ (declared.isAction = false →
      ∃ value timestamp, reply = some (value, timestamp) ∧ Float64.isFinite value) := by
  have unavailable : (if declared.isAction then outcome
      else { outcome with missing := outcome.missing ++ [declared.name] }).missing = [] →
      outcome.missing = [] ∧ declared.isAction = true := by
    cases declared.isAction <;> simp
  rcases reply with _ | ⟨value, timestamp⟩
  · obtain ⟨empty, action⟩ := unavailable complete
    exact ⟨empty, by simp [action]⟩
  · by_cases finite : Float64.isFinite value
    · simp only [recordRead, if_pos finite] at complete
      exact ⟨complete, fun _ => ⟨value, timestamp, rfl, finite⟩⟩
    · simp only [recordRead, if_neg finite] at complete
      obtain ⟨empty, action⟩ := unavailable complete
      exact ⟨empty, by simp [action]⟩

theorem readPoints_available
    (run : (readPoints execution variables_ values outcome).Runs trace (.ok (after, .ok read)))
    (complete : read.missing = []) :
    outcome.missing = [] ∧
      List.Forall₂ (PointRead execution) (variables_.filter (·.formula = [])) trace := by
  induction variables_ generalizing values outcome trace with
  | nil =>
    obtain ⟨rfl, same⟩ := run
    cases same
    exact ⟨complete, .nil⟩
  | cons declared _ ih =>
    by_cases formula : declared.formula = []
    · simp only [readPoints, formula, ne_eq, not_true_eq_false, if_false] at run
      split at run
      · cases run.2
      · cases run.2
      · rename_i instanceId point instanceKnown pointKnown
        obtain ⟨reply, _, rfl, run⟩ := run
        obtain ⟨kept, others⟩ := ih run
        obtain ⟨empty, available⟩ := recordRead_missing kept
        refine ⟨empty, ?_⟩
        rw [List.filter_cons_of_pos (by simpa using formula)]
        exact .cons ⟨instanceId, point, reply, instanceKnown, pointKnown, rfl, available⟩ others
    · simp only [readPoints, formula, ne_eq, not_false_eq_true, if_true] at run
      rw [List.filter_cons_of_neg (by simpa using formula)]
      exact ih run

theorem readFormulas_available {read : Values × RuleReadOutcome}
    (run : (readFormulas variables_ values outcome).Runs trace (.ok read))
    (complete : read.2.missing = []) :
    outcome.missing = [] ∧ List.Forall₂ FormulaRead (variables_.filter (·.formula ≠ [])) trace := by
  induction variables_ generalizing values outcome trace with
  | nil =>
    obtain ⟨rfl, same⟩ := run
    cases same
    exact ⟨complete, .nil⟩
  | cons declared _ ih =>
    by_cases formula : declared.formula = []
    · simp only [readFormulas, if_pos formula] at run
      rw [List.filter_cons_of_neg (by simpa using formula)]
      exact ih run
    · simp only [readFormulas, if_neg formula] at run
      obtain ⟨reply, _, rfl, run⟩ := run
      cases reply with
      | ok result =>
        obtain ⟨empty, others⟩ := ih run
        refine ⟨empty, ?_⟩
        rw [List.filter_cons_of_pos (by simpa using formula)]
        exact .cons ⟨values, result, rfl⟩ others
      | error =>
        obtain ⟨empty, -⟩ := ih run
        simp at empty

/-- A node that finds nothing missing has read all of its variables. -/
theorem readRuleVariables_available
    (run : (readRuleVariables execution variables_ values).Runs trace (.ok (after, .ok read)))
    (complete : read.missing = []) : AvailableReads execution variables_ trace := by
  obtain ⟨points, _, ⟨_, outcome⟩, rfl, pointRun, run⟩ := runs_bind.mp run
  cases outcome with
  | error => cases run.2
  | ok =>
    obtain ⟨formulas, _, _, rfl, formulaRun, rfl, same⟩ := runs_bind.mp run
    cases same
    obtain ⟨kept, formulasRead⟩ := readFormulas_available formulaRun complete
    obtain ⟨-, pointsRead⟩ := readPoints_available pointRun kept
    exact ⟨points, formulas, by simp, pointsRead, formulasRead⟩

section

variable (execution : RuleExecutionContext) (variables_ : List RuleVariable) (values : Values)

theorem uses_readPoints (outcome : RuleReadOutcome) :
    (readPoints execution variables_ values outcome).Uses RuleRequest.IsRead := by
  induction variables_ generalizing values outcome with
  | nil => trivial
  | cons _ _ ih =>
    simp only [readPoints]
    split
    · exact ih values outcome
    · split
      · trivial
      · trivial
      · exact ⟨trivial, fun reply => ih _ _⟩

theorem uses_readFormulas (outcome : RuleReadOutcome) :
    (readFormulas variables_ values outcome).Uses RuleRequest.IsRead := by
  induction variables_ generalizing values outcome with
  | nil => trivial
  | cons _ _ ih =>
    simp only [readFormulas]
    split
    · exact ih values outcome
    · refine ⟨trivial, fun reply => ?_⟩
      cases reply with
      | ok | error => exact ih _ _

theorem uses_readRuleVariables :
    (readRuleVariables execution variables_ values).Uses RuleRequest.IsRead := by
  refine (uses_readPoints execution variables_ values .initial).bind fun read => ?_
  obtain ⟨after, outcome⟩ := read
  cases outcome with
  | error => trivial
  | ok outcome => exact (uses_readFormulas variables_ after outcome).bind fun _ => trivial

/-- A command that a node with these variables may dispatch. -/
structure Issued (command : RuleActionCommand) : Prop where
  target : ∃ declared ∈ variables_,
    declared.instance_ = some command.instanceId ∧ declared.point = some command.pointId
  finite : Float64.isFinite command.value
  inRange : validateValue command.value .default = .ok command.value
  fence : command.topologyFence = execution.commandTopologyFence

/-- The result of an action that was dispatched. -/
structure Reports (action : ActionResult) (command : RuleActionCommand)
    (outcome : Except String Unit) : Prop where
  targetId : action.targetId = command.instanceId
  pointId : action.pointId = command.pointId
  value : action.value = command.value
  success : action.success = outcome.isOk

/-- A request that computes a value. -/
def RuleRequest.IsComputation : RuleRequest → Prop
  | .calculate _ _ _ | .periodDelta _ _ _ => True
  | _ => False

/-- What a node does after its reads, and the results of its actions. -/
inductive Attempts : List RuleExchange → List ActionResult → Prop
  | nil : Attempts [] []
  | computed {request : RuleRequest} {reply : request.Reply} {trace : List RuleExchange}
      {actions : List ActionResult} (computation : request.IsComputation)
      (rest : Attempts trace actions) :
      Attempts (⟨request, reply⟩ :: trace) actions
  | refused {action : ActionResult} {trace : List RuleExchange} {actions : List ActionResult}
      (failed : action.success = false) (rest : Attempts trace actions) :
      Attempts trace (action :: actions)
  | dispatched {command : RuleActionCommand} {outcome : Except String Unit}
      {action : ActionResult} {trace : List RuleExchange} {actions : List ActionResult}
      (issued : Issued execution variables_ command) (reports : Reports action command outcome)
      (rest : Attempts trace actions) :
      Attempts (⟨.writeAction command, outcome⟩ :: trace) (action :: actions)

end

theorem Attempts.append {first second : List RuleExchange} {others : List ActionResult}
    (attempts : Attempts execution variables_ first actions)
    (rest : Attempts execution variables_ second others) :
    Attempts execution variables_ (first ++ second) (actions ++ others) := by
  induction attempts with
  | nil => exact rest
  | computed computation _ ih => exact .computed computation ih
  | refused failed _ ih => exact .refused failed ih
  | dispatched issued reports _ ih => exact .dispatched issued reports ih

theorem validateWriteTarget_ok {value : UInt64} {pointType : PointTag}
    (accepted : validateWriteTarget declared rawValue default =
      .ok (instanceId, point, value, pointType)) :
    declared.instance_ = some instanceId ∧ declared.point = some point ∧
      validateValue value .default = .ok value := by
  simp only [validateWriteTarget] at accepted
  split at accepted
  · cases accepted
  · rename_i valid
    split at accepted
    · cases accepted
    · cases accepted
    · rename_i instanceKnown pointKnown
      cases accepted
      obtain ⟨rfl, -⟩ := validateValue_default valid
      exact ⟨instanceKnown, pointKnown, valid⟩

theorem validateWriteTarget_error
    (refused : validateWriteTarget declared rawValue default = .error action) :
    action.success = false := by
  simp only [validateWriteTarget] at refused
  split at refused
  · cases refused
    rfl
  · split at refused <;> cases refused <;> rfl

namespace RuleExecutor

variable {executor : RuleExecutor} {value : UInt64}

section

variable (member : declared ∈ variables_)

include member

theorem attempts_writeToPoint {instanceId point : UInt32}
    (instanceKnown : declared.instance_ = some instanceId)
    (pointKnown : declared.point = some point) (valid : validateValue value .default = .ok value)
    {pointType : PointTag}
    (run : (executor.writeToPoint execution instanceId point value pointType).Runs trace
      (.ok action)) : Attempts execution variables_ trace [action] := by
  obtain ⟨_, _, _, rfl, writeRun, rfl, same⟩ := runs_bind.mp run
  cases same
  rw [List.append_nil]
  split at writeRun
  · simp only [writeActionPoint] at writeRun
    split at writeRun
    · obtain ⟨_, _, rfl, rfl, same⟩ := writeRun
      cases same
      exact .dispatched ⟨⟨declared, member, instanceKnown, pointKnown⟩,
        (validateValue_default valid).2, valid, rfl⟩ ⟨rfl, rfl, rfl, rfl⟩ .nil
    · obtain ⟨rfl, same⟩ := writeRun
      cases same
      exact .refused rfl .nil
  · obtain ⟨rfl, same⟩ := writeRun
    cases same
    exact .refused rfl .nil

theorem attempts_writeValidated {default : PointTag}
    (run : (executor.writeValidated execution declared rawValue default).Runs trace (.ok action)) :
    Attempts execution variables_ trace [action] := by
  simp only [writeValidated] at run
  split at run
  · rename_i refused
    obtain ⟨rfl, same⟩ := run
    cases same
    exact .refused (validateWriteTarget_error refused) .nil
  · rename_i accepted
    obtain ⟨instanceKnown, pointKnown, valid⟩ := validateWriteTarget_ok accepted
    exact attempts_writeToPoint member instanceKnown pointKnown valid run

theorem attempts_writePeriodDeltaResult
    (run : (executor.writePeriodDeltaResult execution declared rawValue).Runs trace (.ok action)) :
    Attempts execution variables_ trace [action] := by
  simp only [writePeriodDeltaResult] at run
  split at run
  · rename_i refused
    obtain ⟨rfl, same⟩ := run
    cases same
    exact .refused (validateWriteTarget_error refused) .nil
  · rename_i accepted
    obtain ⟨instanceKnown, pointKnown, valid⟩ := validateWriteTarget_ok accepted
    exact attempts_writeToPoint member instanceKnown pointKnown valid run

theorem attempts_executeRuleChange {assignment : RuleValueAssignment}
    (run : (executor.executeRuleChange execution declared assignment values).Runs trace
      (.ok action)) : Attempts execution variables_ trace [action] := by
  simp only [executeRuleChange] at run
  split at run
  · obtain ⟨rfl, same⟩ := run
    cases same
    exact .refused rfl .nil
  · exact attempts_writeValidated member run

end

theorem attempts_executeAssignments {assignments : List RuleValueAssignment}
    (run : (executor.executeAssignments execution variables_ values assignments).Runs trace
      (.ok actions)) : Attempts execution variables_ trace actions := by
  induction assignments generalizing trace actions with
  | nil =>
    obtain ⟨rfl, same⟩ := run
    cases same
    exact .nil
  | cons _ _ ih =>
    simp only [executeAssignments] at run
    split at run
    · exact ih run
    · rename_i found
      obtain ⟨_, _, _, rfl, changeRun, run⟩ := runs_bind.mp run
      obtain ⟨_, _, _, rfl, restRun, rfl, same⟩ := runs_bind.mp run
      cases same
      rw [List.append_nil]
      exact (attempts_executeRuleChange (List.mem_of_find?_eq_some found) changeRun).append
        (ih restRun)

theorem attempts_writeOutput {output : String}
    (run : (executor.writeOutput execution variables_ output value).Runs trace (.ok actions)) :
    Attempts execution variables_ trace actions := by
  simp only [writeOutput] at run
  split at run
  · obtain ⟨rfl, same⟩ := run
    cases same
    exact .nil
  · rename_i found
    obtain ⟨_, _, _, rfl, writeRun, rfl, same⟩ := runs_bind.mp run
    cases same
    rw [List.append_nil]
    exact attempts_writeValidated (List.mem_of_find?_eq_some found) writeRun

theorem attempts_executeCalculations {ruleId : Int} {calculations : List CalculationRule}
    {calculated : Values × List ActionResult × Option String}
    (run : (executor.executeCalculations ruleId execution variables_ calculations values).Runs
      trace (.ok calculated)) : Attempts execution variables_ trace calculated.2.1 := by
  induction calculations generalizing trace values calculated with
  | nil =>
    obtain ⟨rfl, same⟩ := run
    cases same
    exact .nil
  | cons _ rest ih =>
    simp only [executeCalculations] at run
    obtain ⟨reply, _, rfl, calculatedRun⟩ := runs_send_bind.mp run
    cases reply with
    | error =>
      obtain ⟨rfl, same⟩ := calculatedRun
      cases same
      exact .computed trivial .nil
    | ok =>
      obtain ⟨_, _, _, rfl, writeRun, rest⟩ := runs_bind.mp calculatedRun
      obtain ⟨_, _, _, rfl, restRun, rfl, same⟩ := runs_bind.mp rest
      cases same
      rw [List.append_nil]
      exact .computed trivial ((attempts_writeOutput writeRun).append (ih restRun))

end RuleExecutor

/-- What a visit of a node does, which actions it attempts, and whether the walk goes on. -/
inductive NodeVisit (execution : RuleExecutionContext) (node : RuleNode) :
    List RuleExchange → List ActionResult → Bool → Prop
  | stopped {reads : List RuleExchange} (onlyReads : ∀ exchange ∈ reads, exchange.1.IsRead) :
      NodeVisit execution node reads [] false
  | performed {reads attempted : List RuleExchange} {actions : List ActionResult} {goesOn : Bool}
      (onlyReads : ∀ exchange ∈ reads, exchange.1.IsRead)
      (available : AvailableReads execution node.inputs reads)
      (attempts : Attempts execution node.declared attempted actions) :
      NodeVisit execution node (reads ++ attempted) actions goesOn

namespace Walk

/-- A later walk that attempted further actions. -/
structure Extends (walk : Walk) (actions : List ActionResult) (after : Walk) : Prop where
  actionsExecuted : after.result.actionsExecuted = walk.result.actionsExecuted ++ actions
  success : after.result.success = walk.result.success

variable {middle after : Walk}

theorem Extends.trans {others : List ActionResult} (first : walk.Extends actions middle)
    (second : middle.Extends others after) :
    walk.Extends (actions ++ others) after where
  actionsExecuted := by
    rw [second.actionsExecuted, first.actionsExecuted, List.append_assoc]
  success := second.success.trans first.success

theorem Extends.quietly (first : walk.Extends actions middle) (second : middle.Extends [] after) :
    walk.Extends actions after := by
  simpa using first.trans second

theorem extends_fail (walk : Walk) (error : String) : walk.Extends [] (walk.fail error) :=
  ⟨(List.append_nil _).symm, rfl⟩

theorem extends_follow (walk : Walk) (label : String) (wires : List String) :
    walk.Extends [] (walk.follow label wires).1 := by
  cases wires with
  | nil => exact walk.extends_fail _
  | cons => exact ⟨(List.append_nil _).symm, rfl⟩

theorem Extends.follow (first : walk.Extends actions middle) (label : String) (wires : List String) :
    walk.Extends actions (middle.follow label wires).1 :=
  first.quietly (middle.extends_follow label wires)

theorem extends_enter (walk : Walk) (entry : NodeEntry) (values : Values)
    (read : Except String RuleReadOutcome) :
    walk.Extends [] (walk.enter entry values read).1 := by
  cases read with
  | error =>
    simp only [enter]
    split <;> exact ⟨(List.append_nil _).symm, rfl⟩
  | ok =>
    simp only [enter]
    split
    · split <;> exact ⟨(List.append_nil _).symm, rfl⟩
    · exact ⟨(List.append_nil _).symm, rfl⟩

/-- A node does its work only if it was read without an error and nothing is missing. -/
theorem complete_of_enter {entry : NodeEntry} {values snapshot : Values}
    {read : Except String RuleReadOutcome}
    (entered : walk.enter entry values read = (after, some snapshot)) :
    ∃ outcome, read = .ok outcome ∧ outcome.missing = [] := by
  cases read with
  | error => simp [enter] at entered
  | ok outcome =>
    refine ⟨outcome, rfl, ?_⟩
    by_contra missing
    simp [enter, missing] at entered

end Walk

theorem visit_withVariables (node : RuleNode) {entry : NodeEntry} {after : Walk}
    {next : Option String} {work : Walk → Values → RuleProgram (Walk × Option String)}
    (run : (withVariables execution entry node.inputs walk work).Runs trace (.ok (after, next)))
    (works : ∀ {entered snapshot attempted},
      (work entered snapshot).Runs attempted (.ok (after, next)) →
        ∃ actions, Attempts execution node.declared attempted actions ∧
          entered.Extends actions after) :
    ∃ actions, NodeVisit execution node trace actions next.isSome ∧ walk.Extends actions after := by
  obtain ⟨_, _, ⟨values, read⟩, rfl, readRun, workRun⟩ := runs_bind.mp run
  have onlyReads := (uses_readRuleVariables _ _ _).runs readRun
  have extended := walk.extends_enter entry values read
  generalize entered : walk.enter entry values read = step at workRun extended
  obtain ⟨_, _ | _⟩ := step
  · obtain ⟨rfl, same⟩ := workRun
    cases same
    rw [List.append_nil]
    exact ⟨[], .stopped onlyReads, extended⟩
  · obtain ⟨actions, attempts, further⟩ := works workRun
    obtain ⟨_, rfl, complete⟩ := Walk.complete_of_enter entered
    have available := readRuleVariables_available readRun complete
    exact ⟨actions, .performed onlyReads available attempts, extended.trans further⟩

namespace RuleExecutor

variable {executor : RuleExecutor} {ruleId : Int} {id : String} {after : Walk}
  {next : Option String} {wires : List String} {snapshot : Values}

theorem extends_decideSwitch {branches : List RuleSwitchBranch}
    {wires : String → Option (List String)}
    (decided : executor.decideSwitch id branches wires walk snapshot = (after, next)) :
    walk.Extends [] after := by
  simp only [decideSwitch] at decided
  split at decided <;> cases decided <;> exact ⟨(List.append_nil _).symm, rfl⟩

theorem extends_finishCalculations {values : Values} {actions : List ActionResult}
    {error : Option String} :
    walk.Extends actions (finishCalculations id wires walk snapshot values actions error).1 := by
  have added : walk.Extends actions ({ walk with values }.addActions actions) := ⟨rfl, rfl⟩
  cases error with
  | some error => exact added.quietly (Walk.extends_fail _ error)
  | none =>
    have recorded : Walk.Extends ({ walk with values }.addActions actions) []
        ({ { walk with values }.addActions actions with snapshot := none }.addDetail id
          ⟨"calculation", snapshot, none, none, some actions⟩) := ⟨(List.append_nil _).symm, rfl⟩
    exact (added.quietly recorded).follow _ _

theorem attempts_measurePeriod {input output : RuleVariable} {period : String} {value : UInt64}
    (run : (executor.measurePeriod ruleId execution id input output period wires walk snapshot
      value).Runs trace (.ok (after, next))) :
    ∃ actions, Attempts execution [input, output] trace actions ∧ walk.Extends actions after := by
  obtain ⟨reply, _, rfl, measuredRun⟩ := runs_send_bind.mp run
  cases reply with
  | error =>
    obtain ⟨rfl, same⟩ := measuredRun
    cases same
    exact ⟨[], .computed trivial .nil, walk.extends_fail _⟩
  | ok =>
    obtain ⟨_, _, action, rfl, writeRun, rfl, same⟩ := runs_bind.mp measuredRun
    rw [List.append_nil]
    refine ⟨[action], .computed trivial (attempts_writePeriodDeltaResult (by simp) writeRun), ?_⟩
    obtain ⟨rfl, -⟩ := Prod.ext_iff.mp (Except.ok.inj same)
    refine Walk.Extends.follow ?_ _ _
    exact ⟨rfl, rfl⟩

theorem visit_stepNode {node : RuleNode} (going : node.isEnd = false)
    (run : (executor.stepNode ruleId execution id walk node).Runs trace (.ok (after, next))) :
    ∃ actions, NodeVisit execution node trace actions next.isSome ∧ walk.Extends actions after := by
  cases node with
  | end_ => cases going
  | start wires =>
    obtain ⟨rfl, same⟩ := run
    obtain ⟨rfl, -⟩ := Prod.ext_iff.mp (Except.ok.inj same)
    have nothing : AvailableReads execution (RuleNode.start wires).inputs [] :=
      ⟨[], [], rfl, .nil, .nil⟩
    exact ⟨[], .performed (by simp) nothing .nil, walk.extends_follow _ _⟩
  | switch variables_ branches wires =>
    refine visit_withVariables (.switch variables_ branches wires) run fun decideRun => ?_
    obtain ⟨rfl, same⟩ := decideRun
    exact ⟨[], .nil, extends_decideSwitch (Except.ok.inj same).symm⟩
  | changeValue variables_ assignments wires =>
    refine visit_withVariables (.changeValue variables_ assignments wires) run fun changeRun => ?_
    obtain ⟨_, _, actions, rfl, assignRun, rfl, same⟩ := runs_bind.mp changeRun
    obtain ⟨rfl, -⟩ := Prod.ext_iff.mp (Except.ok.inj same)
    rw [List.append_nil]
    refine ⟨actions, attempts_executeAssignments assignRun, Walk.Extends.follow ?_ _ _⟩
    exact ⟨rfl, rfl⟩
  | calculation variables_ calculations wires =>
    refine visit_withVariables (.calculation variables_ calculations wires) run
      fun calculateRun => ?_
    obtain ⟨_, _, calculated, rfl, calculatedRun, rfl, same⟩ := runs_bind.mp calculateRun
    obtain ⟨rfl, -⟩ := Prod.ext_iff.mp (Except.ok.inj same)
    rw [List.append_nil]
    exact ⟨calculated.2.1, attempts_executeCalculations calculatedRun, extends_finishCalculations⟩
  | periodDelta input output period wires =>
    refine visit_withVariables (.periodDelta input output period wires) run fun periodRun => ?_
    split at periodRun
    · obtain ⟨rfl, same⟩ := periodRun
      cases same
      exact ⟨[], .nil, Walk.extends_fail _ _⟩
    · exact attempts_measurePeriod periodRun

end RuleExecutor

/-- A walk over a number of nodes at most: what it asks, which actions it attempts, and whether it
reaches the end. -/
inductive FlowRun (flow : RuleFlow) (execution : RuleExecutionContext) :
    Nat → List RuleExchange → List ActionResult → Bool → Prop
  | exhausted : FlowRun flow execution 0 [] [] false
  | lost {remaining : Nat} {id : String} (unknown : flow.nodes id = none) :
      FlowRun flow execution (remaining + 1) [⟨.visit id, ()⟩] [] false
  | reached {remaining : Nat} {id : String} (known : flow.nodes id = some .end_) :
      FlowRun flow execution (remaining + 1) [⟨.visit id, ()⟩] [] true
  | stopped {remaining : Nat} {id : String} {node : RuleNode} {trace : List RuleExchange}
      {actions : List ActionResult} (known : flow.nodes id = some node)
      (going : node.isEnd = false) (visit : NodeVisit execution node trace actions false) :
      FlowRun flow execution (remaining + 1) (⟨.visit id, ()⟩ :: trace) actions false
  | onward {remaining : Nat} {id : String} {node : RuleNode} {trace later : List RuleExchange}
      {actions others : List ActionResult} {reached : Bool} (known : flow.nodes id = some node)
      (going : node.isEnd = false) (visit : NodeVisit execution node trace actions true)
      (rest : FlowRun flow execution remaining later others reached) :
      FlowRun flow execution (remaining + 1) (⟨.visit id, ()⟩ :: (trace ++ later))
        (actions ++ others) reached

theorem finish_actionsExecuted (walk : Walk) :
    (RuleExecutor.finish walk).result.actionsExecuted = walk.result.actionsExecuted := by
  simp only [RuleExecutor.finish]
  split <;> rfl

theorem finish_success (walk : Walk) :
    (RuleExecutor.finish walk).result.success = walk.result.actionsExecuted.all (·.success) := by
  simp only [RuleExecutor.finish]
  split
  · rename_i none_
    rw [List.countP_eq_zero] at none_
    symm
    simpa using none_
  · rename_i some_
    rw [List.countP_eq_zero] at some_
    symm
    simpa using some_

/-- The executor walks. -/
theorem flowRun_walkFrom {executor : RuleExecutor} {rule : Rule} {remaining : Nat} {id : String}
    (run : (executor.walkFrom rule execution remaining id walk).Runs trace (.ok result))
    (unfinished : walk.result.success = false) :
    ∃ actions reached, FlowRun rule.flow execution remaining trace actions reached ∧
      result.actionsExecuted = walk.result.actionsExecuted ++ actions ∧
      result.success = (reached && result.actionsExecuted.all (·.success)) := by
  induction remaining generalizing id walk trace with
  | zero =>
    obtain ⟨rfl, same⟩ := run
    cases same
    exact ⟨[], false, .exhausted, (List.append_nil _).symm, unfinished⟩
  | succ _ ih =>
    obtain ⟨_, _, rfl, nodeRun⟩ := runs_send_bind.mp run
    split at nodeRun
    · rename_i unknown
      obtain ⟨rfl, same⟩ := nodeRun
      cases same
      exact ⟨[], false, .lost unknown, (List.append_nil _).symm, unfinished⟩
    · rename_i node known
      obtain ⟨_, _, ⟨_, next⟩, rfl, stepRun, restRun⟩ := runs_bind.mp nodeRun
      cases going : node.isEnd with
      | true =>
        obtain rfl := RuleNode.eq_end_of_isEnd going
        obtain ⟨rfl, same⟩ := stepRun
        cases same
        obtain ⟨rfl, same⟩ := restRun
        cases same
        refine ⟨[], true, .reached known, ?_, ?_⟩
        · rw [finish_actionsExecuted, List.append_nil]
        · rw [finish_success, finish_actionsExecuted, Bool.true_and]
      | false =>
        obtain ⟨actions, visit, extended⟩ := RuleExecutor.visit_stepNode going stepRun
        cases next with
        | none =>
          obtain ⟨rfl, same⟩ := restRun
          cases same
          rw [List.append_nil]
          refine ⟨actions, false, .stopped known going visit, extended.actionsExecuted, ?_⟩
          exact extended.success.trans unfinished
        | some =>
          obtain ⟨others, reached, flowRun, executed, success⟩ :=
            ih restRun (extended.success.trans unfinished)
          refine ⟨actions ++ others, reached, .onward known going visit flowRun, ?_, success⟩
          rw [executed, extended.actionsExecuted, List.append_assoc]

/-- The node that an exchange visits. -/
def visited : RuleExchange → Option String
  | ⟨.visit id, _⟩ => some id
  | _ => none

/-- The visited nodes in their order. -/
def visits (trace : List RuleExchange) : List String := trace.filterMap visited

theorem visits_nil : visits [] = [] := rfl

theorem visits_append (first second : List RuleExchange) :
    visits (first ++ second) = visits first ++ visits second := List.filterMap_append

theorem visits_cons_visit (id : String) (trace : List RuleExchange) :
    visits (⟨.visit id, ()⟩ :: trace) = id :: visits trace := rfl

theorem Attempts.of_mem (attempts : Attempts execution variables_ trace actions)
    {exchange : RuleExchange} (member : exchange ∈ trace) :
    exchange.1.IsComputation ∨ ∃ command outcome, exchange = ⟨.writeAction command, outcome⟩ ∧
      Issued execution variables_ command ∧ ∃ action ∈ actions, Reports action command outcome := by
  induction attempts with
  | nil => cases member
  | computed computation _ ih =>
    obtain rfl | member := List.mem_cons.mp member
    · exact .inl computation
    · exact ih member
  | refused _ _ ih =>
    obtain computation | ⟨command, outcome, rfl, issued, action, listed, reports⟩ := ih member
    · exact .inl computation
    · exact .inr ⟨command, outcome, rfl, issued, action, List.mem_cons_of_mem _ listed, reports⟩
  | dispatched issued reports _ ih =>
    obtain rfl | member := List.mem_cons.mp member
    · exact .inr ⟨_, _, rfl, issued, _, List.mem_cons_self, reports⟩
    · obtain computation | ⟨command, outcome, rfl, others, action, listed, reported⟩ :=
        ih member
      · exact .inl computation
      · exact .inr ⟨command, outcome, rfl, others, action, List.mem_cons_of_mem _ listed,
          reported⟩

theorem Attempts.exists_of_success (attempts : Attempts execution variables_ trace actions)
    (listed : action ∈ actions) (success : action.success = true) :
    ∃ command, (⟨.writeAction command, .ok ()⟩ : RuleExchange) ∈ trace ∧
      Reports action command (.ok ()) := by
  induction attempts with
  | nil => cases listed
  | computed _ _ ih =>
    obtain ⟨command, member, reports⟩ := ih listed
    exact ⟨command, List.mem_cons_of_mem _ member, reports⟩
  | refused failed _ ih =>
    obtain rfl | listed := List.mem_cons.mp listed
    · simp [failed] at success
    · exact ih listed
  | @dispatched command outcome _ _ _ _ reports _ ih =>
    obtain rfl | listed := List.mem_cons.mp listed
    · cases outcome with
      | ok => exact ⟨command, List.mem_cons_self, reports⟩
      | error =>
        have failed := reports.success
        simp [success, Except.isOk, Except.toBool] at failed
    · obtain ⟨command, member, reports⟩ := ih listed
      exact ⟨command, List.mem_cons_of_mem _ member, reports⟩

/-- An element of two lists one after the other lies in one of them. -/
theorem append_eq_append_cons {α : Type} {first second earlier later : List α} {middle : α}
    (split : first ++ second = earlier ++ middle :: later) :
    (∃ rest, first = earlier ++ middle :: rest) ∨
      ∃ rest, earlier = first ++ rest ∧ second = rest ++ middle :: later := by
  obtain ⟨rest, rfl, same⟩ | ⟨rest, rfl, same⟩ := List.append_eq_append_iff.mp split
  · exact .inr ⟨rest, rfl, same⟩
  · cases rest with
    | nil => exact .inr ⟨[], by simp, by simpa using same.symm⟩
    | cons _ rest =>
      obtain ⟨rfl, -⟩ := List.cons_eq_cons.mp same
      exact .inl ⟨rest, rfl⟩

namespace NodeVisit

variable {node : RuleNode} {goesOn : Bool}

theorem visits_eq_nil (visit : NodeVisit execution node trace actions goesOn) :
    visits trace = [] := by
  have isRead (exchange : RuleExchange) (read : exchange.1.IsRead) : visited exchange = none := by
    obtain ⟨request, _⟩ := exchange
    cases request <;> first | rfl | cases read
  have isComputation (exchange : RuleExchange) (computation : exchange.1.IsComputation) :
      visited exchange = none := by
    obtain ⟨request, _⟩ := exchange
    cases request <;> first | rfl | cases computation
  rw [visits, List.filterMap_eq_nil_iff]
  intro exchange member
  cases visit with
  | stopped onlyReads => exact isRead exchange (onlyReads exchange member)
  | performed onlyReads _ attempts =>
    obtain member | member := List.mem_append.mp member
    · exact isRead exchange (onlyReads exchange member)
    · obtain computation | ⟨_, _, rfl, -⟩ := attempts.of_mem member
      · exact isComputation exchange computation
      · rfl

variable {command : RuleActionCommand} {outcome : Except String Unit}

theorem available_of_goesOn (visit : NodeVisit execution node trace actions true) :
    ∃ reads rest, trace = reads ++ rest ∧ AvailableReads execution node.inputs reads := by
  cases visit with
  | @performed reads attempted _ _ _ available => exact ⟨reads, attempted, rfl, available⟩

section

variable (visit : NodeVisit execution node trace actions goesOn)

include visit

/-- A node that dispatches a command has read its variables, and reports the outcome. -/
theorem of_command
    (member : (⟨.writeAction command, outcome⟩ : RuleExchange) ∈ trace) :
    (∃ reads rest, trace = reads ++ rest ∧ AvailableReads execution node.inputs reads) ∧
      Issued execution node.declared command ∧
      ∃ action ∈ actions, Reports action command outcome := by
  cases visit with
  | stopped onlyReads => cases onlyReads _ member
  | @performed reads attempted _ _ onlyReads available attempts =>
    refine ⟨⟨reads, attempted, rfl, available⟩, ?_⟩
    obtain member | member := List.mem_append.mp member
    · cases onlyReads _ member
    · obtain computation | ⟨_, _, same, issued, reported⟩ := attempts.of_mem member
      · cases computation
      · cases same
        exact ⟨issued, reported⟩

theorem issued_of_split
    {earlier later : List RuleExchange}
    (split : trace = earlier ++ ⟨.writeAction command, outcome⟩ :: later) :
    visits earlier = [] ∧ Issued execution node.declared command := by
  have quiet := visit.visits_eq_nil
  have member : (⟨.writeAction command, outcome⟩ : RuleExchange) ∈ trace := by
    rw [split]
    exact List.mem_append_right _ List.mem_cons_self
  rw [split, visits_append] at quiet
  exact ⟨(List.append_eq_nil_iff.mp quiet).1, (visit.of_command member).2.1⟩

theorem exists_of_success
    {action : ActionResult} (listed : action ∈ actions) (success : action.success = true) :
    ∃ command, (⟨.writeAction command, .ok ()⟩ : RuleExchange) ∈ trace ∧
      Reports action command (.ok ()) := by
  cases visit with
  | stopped => cases listed
  | performed _ _ attempts =>
    obtain ⟨command, member, reports⟩ := attempts.exists_of_success listed success
    exact ⟨command, List.mem_append_right _ member, reports⟩

end

end NodeVisit

namespace FlowRun

variable {flow : RuleFlow} {remaining : Nat} {reached : Bool}

theorem length_visits_le (run : FlowRun flow execution remaining trace actions reached) :
    (visits trace).length ≤ remaining := by
  induction run with
  | exhausted => exact Nat.zero_le 0
  | lost | reached => simp [visits_cons_visit, visits_nil]
  | stopped _ _ visit => simp [visits_cons_visit, visit.visits_eq_nil]
  | onward _ _ visit _ ih =>
    simpa [visits_cons_visit, visits_append, visit.visits_eq_nil] using ih

theorem reached_iff (run : FlowRun flow execution remaining trace actions reached) :
    reached = true ↔ ∃ id ∈ visits trace, flow.nodes id = some .end_ := by
  have other {node : RuleNode} (going : node.isEnd = false) : node ≠ .end_ := by
    rintro rfl
    cases going
  induction run with
  | exhausted => simp [visits_nil]
  | lost unknown => simp [visits_cons_visit, visits_nil, unknown]
  | reached known => simp [visits_cons_visit, visits_nil, known]
  | stopped known going visit =>
    simp [visits_cons_visit, visit.visits_eq_nil, known, other going]
  | onward known going visit _ ih =>
    simpa [visits_cons_visit, visits_append, visit.visits_eq_nil, known, other going] using ih

variable {earlier later : List RuleExchange} {command : RuleActionCommand}
  {outcome : Except String Unit}

section

variable (run : FlowRun flow execution remaining trace actions reached)

include run

theorem command_issued (split : trace = earlier ++ ⟨.writeAction command, outcome⟩ :: later) :
    ∃ id node, (visits earlier).getLast? = some id ∧ flow.nodes id = some node ∧
      Issued execution node.declared command := by
  induction run generalizing earlier with
  | exhausted => simp at split
  | lost | reached =>
    cases earlier with
    | nil => cases split
    | cons => simp at split
  | @stopped _ id node _ _ known _ visit =>
    cases earlier with
    | nil => cases split
    | cons =>
      obtain ⟨rfl, within⟩ := List.cons_eq_cons.mp split
      obtain ⟨quiet, issued⟩ := visit.issued_of_split within
      exact ⟨id, node, by rw [visits_cons_visit, quiet, List.getLast?_singleton], known, issued⟩
  | @onward _ id node _ _ _ _ _ known _ visit _ ih =>
    cases earlier with
    | nil => cases split
    | cons =>
      obtain ⟨rfl, within⟩ := List.cons_eq_cons.mp split
      obtain ⟨_, here⟩ | ⟨_, rfl, later⟩ := append_eq_append_cons within
      · obtain ⟨quiet, issued⟩ := visit.issued_of_split here
        exact ⟨id, node, by rw [visits_cons_visit, quiet, List.getLast?_singleton], known,
          issued⟩
      · obtain ⟨last, source, lastVisit, known, issued⟩ := ih later
        refine ⟨last, source, ?_, known, issued⟩
        rw [visits_cons_visit, visits_append, visit.visits_eq_nil, List.nil_append,
          List.getLast?_cons, lastVisit, Option.getD_some]

theorem reads_available {id : String} {node : RuleNode}
    (split : trace = earlier ++ ⟨.visit id, ()⟩ :: later) (known : flow.nodes id = some node)
    (dispatched : (⟨.writeAction command, outcome⟩ : RuleExchange) ∈ later) :
    ∃ reads rest, later = reads ++ rest ∧ AvailableReads execution node.inputs reads := by
  have unvisited {node : RuleNode} {trace : List RuleExchange} {actions : List ActionResult}
      {goesOn : Bool} (visit : NodeVisit execution node trace actions goesOn)
      {earlier rest : List RuleExchange} : trace ≠ earlier ++ ⟨.visit id, ()⟩ :: rest := by
    rintro rfl
    have quiet := visit.visits_eq_nil
    rw [visits_append, visits_cons_visit] at quiet
    simp at quiet
  induction run generalizing earlier with
  | exhausted => simp at split
  | lost | reached =>
    cases earlier with
    | nil =>
      obtain ⟨-, rfl⟩ := List.cons_eq_cons.mp split
      cases dispatched
    | cons => simp at split
  | stopped source _ visit =>
    cases earlier with
    | nil =>
      obtain ⟨same, rfl⟩ := List.cons_eq_cons.mp split
      cases same
      obtain rfl := Option.some.inj (known.symm.trans source)
      exact (visit.of_command dispatched).1
    | cons =>
      obtain ⟨-, within⟩ := List.cons_eq_cons.mp split
      exact absurd within (unvisited visit)
  | onward source _ visit _ ih =>
    cases earlier with
    | nil =>
      obtain ⟨same, rfl⟩ := List.cons_eq_cons.mp split
      cases same
      obtain rfl := Option.some.inj (known.symm.trans source)
      obtain ⟨reads, rest, rfl, available⟩ := visit.available_of_goesOn
      exact ⟨reads, rest ++ _, by rw [List.append_assoc], available⟩
    | cons =>
      obtain ⟨-, within⟩ := List.cons_eq_cons.mp split
      obtain ⟨_, within⟩ | ⟨_, -, within⟩ := append_eq_append_cons within
      · exact absurd within (unvisited visit)
      · exact ih within

theorem reported (dispatched : (⟨.writeAction command, outcome⟩ : RuleExchange) ∈ trace) :
    ∃ action ∈ actions, Reports action command outcome := by
  induction run with
  | exhausted => cases dispatched
  | lost | reached => simp at dispatched
  | stopped _ _ visit =>
    obtain same | dispatched := List.mem_cons.mp dispatched
    · cases same
    · exact (visit.of_command dispatched).2.2
  | onward _ _ visit _ ih =>
    obtain same | dispatched := List.mem_cons.mp dispatched
    · cases same
    · obtain dispatched | dispatched := List.mem_append.mp dispatched
      · obtain ⟨-, -, action, listed, reports⟩ := visit.of_command dispatched
        exact ⟨action, List.mem_append_left _ listed, reports⟩
      · obtain ⟨action, listed, reports⟩ := ih dispatched
        exact ⟨action, List.mem_append_right _ listed, reports⟩

theorem exists_of_success {action : ActionResult} (listed : action ∈ actions)
    (success : action.success = true) :
    ∃ command, (⟨.writeAction command, .ok ()⟩ : RuleExchange) ∈ trace ∧
      Reports action command (.ok ()) := by
  induction run with
  | exhausted | lost | reached => cases listed
  | stopped _ _ visit =>
    obtain ⟨command, dispatched, reports⟩ := visit.exists_of_success listed success
    exact ⟨command, List.mem_cons_of_mem _ dispatched, reports⟩
  | onward _ _ visit _ ih =>
    obtain listed | listed := List.mem_append.mp listed
    · obtain ⟨command, dispatched, reports⟩ := visit.exists_of_success listed success
      exact ⟨command, List.mem_cons_of_mem _ (List.mem_append_left _ dispatched), reports⟩
    · obtain ⟨command, dispatched, reports⟩ := ih listed
      exact ⟨command, List.mem_cons_of_mem _ (List.mem_append_right _ dispatched), reports⟩

end

end FlowRun

/-- What an execution guarantees.  Commands have a valid value and the fence that was captured
first, and target a variable of the node that was visited last.  A visit whose inputs are not all
available is not followed by a command.  An execution succeeds if it reaches the end and all of its
actions succeed. -/
structure FailSafe (flow : RuleFlow) (trace : List RuleExchange) (result : RuleExecutionResult) :
    Prop where
  commands : ∀ earlier command outcome later,
    trace = earlier ++ ⟨.writeAction command, outcome⟩ :: later →
      ∃ execution rest id node, earlier = ⟨.beginExecution, execution⟩ :: rest ∧
        (visits earlier).getLast? = some id ∧ flow.nodes id = some node ∧
        Issued execution node.declared command
  inputs : ∀ earlier id node later, trace = earlier ++ ⟨.visit id, ()⟩ :: later →
    flow.nodes id = some node →
      (∃ command outcome, (⟨.writeAction command, outcome⟩ : RuleExchange) ∈ later) →
        ∃ execution reads rest, later = reads ++ rest ∧ AvailableReads execution node.inputs reads
  visited_le : (visits trace).length ≤ 100
  success_iff : result.success = true ↔ (∃ id ∈ visits trace, flow.nodes id = some .end_) ∧
    ∀ action ∈ result.actionsExecuted, action.success = true
  reported : ∀ command outcome, (⟨.writeAction command, outcome⟩ : RuleExchange) ∈ trace →
    ∃ action ∈ result.actionsExecuted, Reports action command outcome
  performed : ∀ action ∈ result.actionsExecuted, action.success = true →
    ∃ command, (⟨.writeAction command, .ok ()⟩ : RuleExchange) ∈ trace ∧
      Reports action command (.ok ())

theorem failSafe_of_flowRun {flow : RuleFlow} {reached : Bool}
    (run : FlowRun flow execution 100 trace result.actionsExecuted reached)
    (success : result.success = (reached && result.actionsExecuted.all (·.success))) :
    FailSafe flow (⟨.beginExecution, execution⟩ :: trace) result where
  commands := by
    intro earlier command _ _ split
    cases earlier with
    | nil => cases split
    | cons _ rest =>
      obtain ⟨rfl, within⟩ := List.cons_eq_cons.mp split
      obtain ⟨id, node, lastVisit, known, issued⟩ := run.command_issued within
      exact ⟨execution, rest, id, node, rfl, lastVisit, known, issued⟩
  inputs := by
    rintro earlier id _ _ split known ⟨command, _, dispatched⟩
    cases earlier with
    | nil => cases split
    | cons =>
      obtain ⟨-, within⟩ := List.cons_eq_cons.mp split
      exact ⟨execution, run.reads_available within known dispatched⟩
  visited_le := run.length_visits_le
  success_iff := by
    have reached_iff : reached = true ↔
        ∃ id ∈ visits (⟨.beginExecution, execution⟩ :: trace), flow.nodes id = some .end_ :=
      run.reached_iff
    rw [success, Bool.and_eq_true, reached_iff, List.all_eq_true]
  reported := by
    intro command _ dispatched
    obtain same | dispatched := List.mem_cons.mp dispatched
    · cases same
    · exact run.reported dispatched
  performed := by
    intro _ listed succeeded
    obtain ⟨command, dispatched, reports⟩ := run.exists_of_success listed succeeded
    exact ⟨command, List.mem_cons_of_mem _ dispatched, reports⟩

/-- Every execution of every rule fails safe, whatever its surroundings reply. -/
theorem execution_fails_safe (executor : RuleExecutor) (rule : Rule)
    (environment : List RuleExchange → ∀ request : RuleRequest, request.Reply) :
    ∃ result, ((executor.execute rule).serve environment []).2 = .ok result ∧
      FailSafe rule.flow ((executor.execute rule).serve environment []).1 result := by
  have run := runs_serve environment (executor.execute rule) []
  generalize (executor.execute rule).serve environment [] = served at run ⊢
  obtain ⟨_, outcome⟩ := served
  cases outcome with
  | error impossible => cases impossible
  | ok result =>
    obtain ⟨_, _, rfl, walkRun⟩ := runs_send_bind.mp run
    obtain ⟨actions, _, flowRun, executed, success⟩ := flowRun_walkFrom walkRun rfl
    obtain rfl : result.actionsExecuted = actions := executed
    exact ⟨result, rfl, failSafe_of_flowRun flowRun success⟩

/-- A rule that measures a period and then sets an action point. -/
def periodRule : Rule where
  id := 1
  name := "period"
  enabled := true
  cooldownMs := 0
  flow :=
    { startNode := "start"
      nodes := fun id =>
        if id = "start" then some (.start ["measure"])
        else if id = "measure" then some (.periodDelta
          ⟨"energy", some 1, some "measurement", some 7, []⟩
          ⟨"today", some 1, some "measurement", some 8, []⟩ "day" ["set"])
        else if id = "set" then some (.changeValue
          [⟨"limit", some 1, some "action", some 9, []⟩] [⟨"limit", .number 0 "0"⟩] ["end"])
        else if id = "end" then some .end_
        else none }

/-- A live state with the energy only. -/
def energyOnly (_ : List RuleExchange) : ∀ request : RuleRequest, request.Reply
  | .beginExecution => ⟨none⟩
  | .visit _ => ()
  | .getInstance _ instanceId instanceType pointId =>
    if instanceId = 1 ∧ instanceType = 0 ∧ pointId = 7 then some (0, 0) else none
  | .evaluateFormula _ _ | .calculate _ _ _ | .periodDelta _ _ _ => .ok 0
  | .writeAction _ => .ok ()

/-- The output of a period is a measurement that the node declares.  It is absent, and the rule
dispatches a command after it. -/
theorem absent_period_output_dispatches : ∃ earlier later node declared command outcome,
      (((⟨true, fun _ => none⟩ : RuleExecutor).execute periodRule).serve energyOnly []).1 =
        earlier ++ ⟨.visit "measure", ()⟩ :: later ∧
      periodRule.flow.nodes "measure" = some node ∧ declared ∈ node.declared ∧
      declared.formula = [] ∧ declared.isAction = false ∧
      (∃ instanceId point, declared.instance_ = some instanceId ∧ declared.point = some point ∧
        ∀ history execution,
          energyOnly history (.getInstance execution instanceId 0 point) = none) ∧
      (⟨.writeAction command, outcome⟩ : RuleExchange) ∈ later := by
  refine ⟨_, _, _, ⟨"today", some 1, some "measurement", some 8, []⟩, ⟨1, 9, 0, none⟩, .ok (),
    show _ = [_, _] ++ _ :: _ from rfl, rfl, ?_, rfl, rfl, ⟨1, 8, rfl, rfl, ?_⟩, ?_⟩
  · exact List.mem_cons_of_mem _ List.mem_cons_self
  · intro _ _
    rfl
  · exact List.mem_of_getElem? (i := 4) rfl

end AetherIot.Rules
