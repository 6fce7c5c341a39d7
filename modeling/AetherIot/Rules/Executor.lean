import AetherIot.Foundation.Interaction
import AetherIot.Model.Validation
import AetherIot.Rules.Types

/-!
# The rule executor

An execution walks the flow graph of a rule for at most a hundred nodes.  It reads the variables of
a node from the live state, and writes to action points through the command facade.  What it asks of
its surroundings are the requests of a program.  A visit asks for nothing; it says which node the
requests after it come from.
-/

namespace AetherIot.Rules

open Model Float64

inductive RuleRequest where
  | beginExecution
  | visit (node : String)
  | getInstance (execution : RuleExecutionContext) (instanceId : UInt32) (instanceType : UInt8)
      (pointId : UInt32)
  | evaluateFormula (expression : String) (values : Values)
  | calculate (context formula : String) (values : Values)
  | periodDelta (stateKey : String) (value : UInt64) (period : String)
  | writeAction (command : RuleActionCommand)

abbrev RuleRequest.Reply : RuleRequest → Type
  | .beginExecution => RuleExecutionContext
  | .visit _ => Unit
  | .getInstance _ _ _ _ => Option (UInt64 × UInt64)
  | .evaluateFormula _ _ | .calculate _ _ _ | .periodDelta _ _ _ => Except String UInt64
  | .writeAction _ => Except String Unit

abbrev RuleProgram (α : Type) : Type := Interaction RuleRequest.Reply Empty α

def ask (request : RuleRequest) : RuleProgram request.Reply := .send request

/-- The command facade may be missing.  `parseFloat` is the standard reading of a number. -/
structure RuleExecutor where
  actionCommands : Bool
  parseFloat : String → Option UInt64

structure RuleReadOutcome where
  valuesChanged : Bool
  missing : List String
  pointValues : Values

def RuleReadOutcome.initial : RuleReadOutcome := ⟨false, [], .empty⟩

def pointKey (isAction : Bool) (instanceId point : UInt32) : String :=
  let prefix_ := if isAction then "A" else "M"
  s!"{prefix_}:{instanceId}:{point}"

variable (declared : RuleVariable)

/-- A value of a variable without a formula.  Only a finite one is kept, and only an action point
may be without one. -/
def recordRead (instanceId point : UInt32) (reply : Option (UInt64 × UInt64)) (values : Values)
    (outcome : RuleReadOutcome) :
    Values × RuleReadOutcome :=
  let unavailable := if declared.isAction then outcome
    else { outcome with missing := outcome.missing ++ [declared.name] }
  match reply with
  | some (value, _) =>
    if isFinite value then
      (values.insert declared.name value,
        { outcome with
          valuesChanged := outcome.valuesChanged || values declared.name ≠ some value
          pointValues := outcome.pointValues.insert
            (pointKey declared.isAction instanceId point) value })
    else (values, unavailable)
  | none => (values, unavailable)

/-- The variables without a formula. -/
def readPoints (execution : RuleExecutionContext) : List RuleVariable → Values → RuleReadOutcome →
      RuleProgram (Values × Except String RuleReadOutcome)
  | [], values, outcome => return (values, .ok outcome)
  | declared :: rest, values, outcome =>
    if declared.formula ≠ [] then readPoints execution rest values outcome
    else match declared.instance_, declared.point with
      | none, _ => return (values, .error
          s!"Rule execution error: Variable '{declared.name}' is missing instance_id")
      | some _, none => return (values, .error
          s!"Rule execution error: Variable '{declared.name}' is missing point_id")
      | some instanceId, some point => do
          let reply ← ask (.getInstance execution instanceId
            (if declared.isAction then 1 else 0) point)
          let read := recordRead declared instanceId point reply values outcome
          readPoints execution rest read.1 read.2

def formulaExpression (tokens : List JsonValue) : String :=
  " ".intercalate (tokens.map fun token => token.asText.getD token.toText)

def readFormulas :
    List RuleVariable → Values → RuleReadOutcome → RuleProgram (Values × RuleReadOutcome)
  | [], values, outcome => return (values, outcome)
  | declared :: rest, values, outcome =>
    if declared.formula = [] then readFormulas rest values outcome
    else do
      match ← ask (.evaluateFormula (formulaExpression declared.formula) values) with
      | .ok result =>
        let changed := (values declared.name).all fun previous => !eq previous result
        readFormulas rest (values.insert declared.name result)
          { outcome with valuesChanged := outcome.valuesChanged || changed }
      | .error _ =>
        readFormulas rest values { outcome with missing := outcome.missing ++ [declared.name] }

def readRuleVariables (execution : RuleExecutionContext) (variables_ : List RuleVariable)
    (values : Values) : RuleProgram (Values × Except String RuleReadOutcome) := do
  let read ← readPoints execution variables_ values .initial
  match read.2 with
  | .error error => return (read.1, .error error)
  | .ok outcome =>
    let evaluated ← readFormulas variables_ read.1 outcome
    return (evaluated.1, .ok evaluated.2)

def isOr (relation : Option String) : Bool :=
  relation = some "||" ∨ relation = some "or" ∨ relation = some "OR"

def epsilon : Float := Float.ofBits 0x3CB0000000000000

def distance (left right : UInt64) : Float := (Float.ofBits left - Float.ofBits right).abs

namespace RuleExecutor

variable (executor : RuleExecutor)

/-- The right side of a comparison. -/
def comparand (value : Option JsonValue) (values : Values) : Option UInt64 :=
  match value with
  | none => some 0
  | some json =>
    match json.asFloat with
    | some number => some number
    | none =>
      match json.asText with
      | some text => values text <|> executor.parseFloat text
      | none => some 0

def evaluateFlowCondition (condition : FlowCondition) (values : Values) : Bool :=
  match condition.variables_.bind values, executor.comparand condition.value values with
  | some left, some right =>
    match condition.operator.getD "==" with
    | "==" | "eq" => distance left right < epsilon
    | "!=" | "ne" => distance left right ≥ epsilon
    | ">" | "gt" => lt right left
    | "<" | "lt" => lt left right
    | ">=" | "gte" => le right left
    | "<=" | "lte" => le left right
    | _ => false
  | _, _ => false

/-- Conditions from left to right, with the relation that stands before the next one. -/
def evaluateFlowConditions (conditions : List FlowCondition) (values : Values) : Bool :=
  (conditions.foldl (fun (state : Bool × Option String) condition =>
    if condition.condType = "relation" then (state.1, condition.value.bind JsonValue.asText)
    else
      let holds := executor.evaluateFlowCondition condition values
      (if isOr state.2 then state.1 || holds else state.1 && holds, none)) (true, none)).1

end RuleExecutor

def trimQuotes (text : String) : String :=
  let characters := text.toList.dropWhile (· = '"')
  String.ofList (characters.reverse.dropWhile (· = '"')).reverse

def formatConditions (conditions : List FlowCondition) : String :=
  String.join (conditions.foldl (fun (state : List String × Option String) condition =>
    if condition.condType = "relation" then (state.1, condition.value.bind JsonValue.asText)
    else match condition.variables_ with
      | none => state
      | some name =>
        let operator := condition.operator.getD "=="
        let value := (condition.value.map fun json => trimQuotes json.toText).getD ""
        let relation := match state.2 with
          | none => []
          | some _ => [if isOr state.2 then " || " else " && "]
        (state.1 ++ relation ++ [name ++ operator ++ value], none)) ([], none)).1

/-- The branch that a switch takes. -/
structure SwitchMatch where
  target : String
  port : String
  condition : String

namespace RuleExecutor

variable (executor : RuleExecutor)

/-- The first branch that holds and has a target. -/
def evaluateRuleSwitchWithDetails (wires : String → Option (List String)) (values : Values) :
    List RuleSwitchBranch → Option SwitchMatch
  | [] => none
  | branch :: rest =>
    if executor.evaluateFlowConditions branch.rule values then
      match (wires branch.name).bind List.head? with
      | some target => some ⟨target, branch.name, formatConditions branch.rule⟩
      | none => evaluateRuleSwitchWithDetails wires values rest
    else evaluateRuleSwitchWithDetails wires values rest

def evaluateAllConditions (branches : List RuleSwitchBranch) (values : Values) :
    List ConditionResult :=
  branches.map fun branch =>
    ⟨formatConditions branch.rule, executor.evaluateFlowConditions branch.rule values, branch.name⟩

end RuleExecutor

/-- An action whose value could not be determined. -/
def actionSkipped : ActionResult where
  targetType := "instance"
  targetId := declared.instance_.getD 0
  pointType := pointTypeToStatic declared.pointType .action
  pointId := declared.point.getD 0
  value := nan
  success := false

/-- The point, the value and the point type of a write, or the result of a failed one. -/
def validateWriteTarget (rawValue : UInt64) (default : PointTag) :
    Except ActionResult (UInt32 × UInt32 × UInt64 × PointTag) :=
  let pointType := pointTypeToStatic declared.pointType default
  match validateValue rawValue .default with
  | .error _ => .error ⟨"instance", declared.instance_.getD 0, pointType, declared.point.getD 0,
      nan, false⟩
  | .ok value =>
    match declared.instance_, declared.point with
    | none, _ => .error ⟨"instance", 0, pointType, 0, value, false⟩
    | some instanceId, none => .error ⟨"instance", instanceId, pointType, 0, value, false⟩
    | some instanceId, some point => .ok (instanceId, point, value, pointType)

namespace RuleExecutor

variable (executor : RuleExecutor) (execution : RuleExecutionContext)

/-- A command carries the fence of its execution. -/
def writeActionPoint (instanceId point : UInt32) (value : UInt64) : RuleProgram Bool :=
  if executor.actionCommands then do
    let outcome ← ask (.writeAction ⟨instanceId, point, value, execution.commandTopologyFence⟩)
    return outcome.isOk
  else return false

/-- Derived measurements have no plane of their own and are refused. -/
def writeToPoint (instanceId point : UInt32) (value : UInt64) (pointType : PointTag) :
    RuleProgram ActionResult := do
  let success ← (if pointType = .action then
      executor.writeActionPoint execution instanceId point value
    else pure false : RuleProgram Bool)
  return ⟨"instance", instanceId, pointType, point, value, success⟩

section

variable (declared : RuleVariable)

def writeValidated (rawValue : UInt64) (default : PointTag) : RuleProgram ActionResult :=
  match validateWriteTarget declared rawValue default with
  | .error action => return action
  | .ok (instanceId, point, value, pointType) =>
    executor.writeToPoint execution instanceId point value pointType

def assignedValue (value : JsonValue) (values : Values) : Option UInt64 :=
  match value.asFloat with
  | some number => some number
  | none => value.asText.bind fun text => executor.parseFloat text <|> values text

def executeRuleChange (assignment : RuleValueAssignment) (values : Values) :
    RuleProgram ActionResult :=
  match executor.assignedValue assignment.value values with
  | none => return actionSkipped declared
  | some rawValue => executor.writeValidated execution declared rawValue .action

def writeCalculationResult (rawValue : UInt64) : RuleProgram ActionResult :=
  executor.writeValidated execution declared rawValue .measurement

/-- The result of a period is always a measurement. -/
def writePeriodDeltaResult (rawValue : UInt64) : RuleProgram ActionResult :=
  match validateWriteTarget declared rawValue .measurement with
  | .error action => return action
  | .ok (instanceId, point, value, _) =>
    executor.writeToPoint execution instanceId point value .measurement

end

end RuleExecutor

/-- The state of a walk. -/
structure Walk where
  values : Values
  pointValues : Values
  snapshot : Option Values
  result : RuleExecutionResult

namespace Walk

def initial (ruleId : Int) : Walk := ⟨.empty, .empty, none, .initial ruleId⟩

variable (walk : Walk)

def fail (error : String) : Walk :=
  { walk with result := { walk.result with error := some error } }

/-- Hand the values over to the result. -/
def surface : Walk :=
  { walk with result := { walk.result with
      variableValues := walk.values
      pointValues := walk.pointValues } }

def addActions (actions : List ActionResult) : Walk :=
  { walk with result := { walk.result with
      actionsExecuted := walk.result.actionsExecuted ++ actions } }

def addDetail (node : String) (detail : NodeExecutionDetail) : Walk :=
  { walk with result := { walk.result with
      nodeDetails := Function.update walk.result.nodeDetails node (some detail) } }

/-- Follow the first wire. -/
def follow (label : String) (wires : List String) : Walk × Option String :=
  match wires with
  | next :: _ => (walk, some next)
  | [] => (walk.fail s!"{label} node has no output wire", none)

end Walk

/-- What differs between the nodes that read variables: the texts of their errors, and whether they
hand over the values on an error. -/
structure NodeEntry where
  readError : String
  unavailable : String
  surfaces : Bool

def NodeEntry.switch : NodeEntry :=
  ⟨"Failed to read variables: ", "Rule cycle skipped: variables unavailable: ", true⟩

def NodeEntry.changeValue : NodeEntry :=
  ⟨"Failed to read variables: ", "Rule cycle skipped: variables unavailable: ", false⟩

def NodeEntry.calculation : NodeEntry :=
  ⟨"Failed to read variables: ", "Calculation skipped: variables unavailable: ", false⟩

def NodeEntry.periodDelta : NodeEntry :=
  ⟨"Failed to read input variable: ", "PeriodDelta skipped: input variable unavailable: ", false⟩

/-- The walk with the values that were read, and the values on which the node works unless some are
unavailable. -/
def Walk.enter (walk : Walk) (entry : NodeEntry) (values : Values)
    (read : Except String RuleReadOutcome) : Walk × Option Values :=
  let stop (walk : Walk) : Walk × Option Values :=
    (if entry.surfaces then walk.surface else walk, none)
  match read with
  | .error error => stop ({ walk with values }.fail (entry.readError ++ error))
  | .ok outcome =>
    let walk := { walk with values, pointValues := walk.pointValues.extend outcome.pointValues }
    if outcome.missing ≠ [] then
      stop (walk.fail (entry.unavailable ++ ", ".intercalate outcome.missing))
    else
      let snapshot := if outcome.valuesChanged then values else walk.snapshot.getD values
      ({ walk with
          snapshot := some snapshot
          result := { walk.result with variableValues := snapshot } }, some snapshot)

/-- Read the variables of a node, and do its work unless some are unavailable. -/
def withVariables (execution : RuleExecutionContext) (entry : NodeEntry)
    (variables_ : List RuleVariable) (walk : Walk)
    (work : Walk → Values → RuleProgram (Walk × Option String)) :
    RuleProgram (Walk × Option String) := do
  let read ← readRuleVariables execution variables_ walk.values
  match walk.enter entry read.1 read.2 with
  | (walk, none) => return (walk, none)
  | (walk, some snapshot) => work walk snapshot

namespace RuleExecutor

variable (executor : RuleExecutor)

/-- The branch that is taken, with what the node reports about its conditions. -/
def decideSwitch (node : String) (branches : List RuleSwitchBranch)
    (wires : String → Option (List String)) (walk : Walk) (snapshot : Values) :
    Walk × Option String :=
  let taken := executor.evaluateRuleSwitchWithDetails wires walk.values branches
  let walk := { walk with
    result := { walk.result with matchedCondition := taken.map SwitchMatch.condition } }
  let walk := walk.addDetail node ⟨"switch", snapshot,
    some (executor.evaluateAllConditions branches walk.values), taken.map SwitchMatch.port, none⟩
  match taken with
  | some branch => (walk, some branch.target)
  | none => (walk.fail "No matching switch rule", none)

variable (execution : RuleExecutionContext)

def handleSwitchNode (node : String) (variables_ : List RuleVariable)
    (branches : List RuleSwitchBranch) (wires : String → Option (List String)) (walk : Walk) :
    RuleProgram (Walk × Option String) :=
  withVariables execution .switch variables_ walk fun walk snapshot =>
    return executor.decideSwitch node branches wires walk snapshot

/-- The assignments to declared variables, in their order. -/
def executeAssignments (execution : RuleExecutionContext) (variables_ : List RuleVariable)
    (values : Values) : List RuleValueAssignment → RuleProgram (List ActionResult)
  | [] => return []
  | assignment :: rest =>
    match variables_.find? fun declared => declared.name = assignment.variables_ with
    | none => executeAssignments execution variables_ values rest
    | some declared => do
        let executed ← executor.executeRuleChange execution declared assignment values
        let others ← executeAssignments execution variables_ values rest
        return executed :: others

def handleChangeValueNode (node : String) (variables_ : List RuleVariable)
    (assignments : List RuleValueAssignment) (wires : List String) (walk : Walk) :
    RuleProgram (Walk × Option String) :=
  withVariables execution .changeValue variables_ walk fun walk snapshot => do
    let actions ← executor.executeAssignments execution variables_ walk.values assignments
    let walk := (walk.addActions actions).addDetail node
      ⟨"change", snapshot, none, none, some actions⟩
    return walk.follow "ChangeValue" wires

/-- The value of a calculation is written if its output is declared. -/
def writeOutput (variables_ : List RuleVariable) (output : String) (value : UInt64) :
    RuleProgram (List ActionResult) :=
  match variables_.find? fun declared => declared.name = output with
  | none => return []
  | some declared => do
      let action ← executor.writeCalculationResult execution declared value
      return [action]

/-- The calculations in their order, up to one that fails; each result is a value for the next. -/
def executeCalculations (ruleId : Int) (execution : RuleExecutionContext)
    (variables_ : List RuleVariable) :
    List CalculationRule → Values → RuleProgram (Values × List ActionResult × Option String)
  | [], values => return (values, [], none)
  | calculation :: rest, values => do
      match ← ask (.calculate s!"rule_{ruleId}" calculation.formula values) with
      | .error error =>
        return (values, [], some s!"Calc '{calculation.formula}' error: {error}")
      | .ok value =>
        let written ← executor.writeOutput execution variables_ calculation.output value
        let others ← executeCalculations ruleId execution variables_ rest
          (values.insert calculation.output value)
        return (others.1, written ++ others.2.1, others.2.2)

def finishCalculations (node : String) (wires : List String) (walk : Walk)
    (snapshot values : Values) (actions : List ActionResult) (error : Option String) : Walk × Option String :=
  let walk := { walk with values }.addActions actions
  match error with
  | some error => (walk.fail error, none)
  | none =>
    let walk := { walk with snapshot := none }.addDetail node
      ⟨"calculation", snapshot, none, none, some actions⟩
    walk.follow "Calculation" wires

variable (ruleId : Int)

section

variable (execution : RuleExecutionContext) (node : String)

def handleCalculationNode (variables_ : List RuleVariable) (calculations : List CalculationRule)
    (wires : List String)
    (walk : Walk) : RuleProgram (Walk × Option String) :=
  withVariables execution .calculation variables_ walk fun walk snapshot => do
    let calculated ←
      executor.executeCalculations ruleId execution variables_ calculations walk.values
    return finishCalculations node wires walk snapshot calculated.1 calculated.2.1 calculated.2.2

/-- The input of a period, if it is a number. -/
def periodInput (input : RuleVariable) (values : Values) : Except String UInt64 :=
  match values input.name with
  | some value =>
    if isFinite value then .ok value
    else
      let shown := nonFiniteText value
      .error s!"PeriodDelta skipped: input variable '{input.name}' is non-finite ({shown})"
  | none => .error s!"PeriodDelta skipped: input variable '{input.name}' unavailable after read"

def periodStateKey (input : RuleVariable) : String :=
  let instanceId := input.instance_.getD 0
  let point := input.point.getD 0
  s!"{ruleId}:{instanceId}:{point}"

section

variable (input output : RuleVariable) (period : String) (wires : List String) (walk : Walk)

def measurePeriod (snapshot : Values) (value : UInt64) : RuleProgram (Walk × Option String) := do
  match ← ask (.periodDelta (periodStateKey ruleId input) value period) with
  | .error error => return (walk.fail s!"period_delta error: {error}", none)
  | .ok delta => do
      let action ← executor.writePeriodDeltaResult execution output delta
      let walk := { walk with values := walk.values.insert output.name delta, snapshot := none }
      let walk := (walk.addActions [action]).addDetail node
        ⟨"periodDelta", snapshot, none, none, some [action]⟩
      return walk.follow "PeriodDelta" wires

def handlePeriodDeltaNode : RuleProgram (Walk × Option String) :=
  withVariables execution .periodDelta [input] walk fun walk snapshot =>
    match periodInput input walk.values with
    | .error error => return (walk.fail error, none)
    | .ok value =>
      executor.measurePeriod ruleId execution node input output period wires walk snapshot value

/-- A walk that reached the end. -/
def finish : Walk :=
  let actions := walk.result.actionsExecuted
  let failed := actions.countP fun action => !action.success
  let result := walk.surface.result
  let result := if failed = 0 then { result with success := true }
    else
      let attempted := actions.length
      { result with
        success := false
        error := some s!"{failed} of {attempted} attempted rule actions failed" }
  { walk with result }

end

def stepNode (id : String) (walk : Walk) : RuleNode → RuleProgram (Walk × Option String)
  | .end_ => return (finish walk, none)
  | .start wires => return walk.follow "Start" wires
  | .switch variables_ branches wires =>
    executor.handleSwitchNode execution id variables_ branches wires walk
  | .changeValue variables_ assignments wires =>
    executor.handleChangeValueNode execution id variables_ assignments wires walk
  | .calculation variables_ calculations wires =>
    executor.handleCalculationNode ruleId execution id variables_ calculations wires walk
  | .periodDelta input output period wires =>
    executor.handlePeriodDeltaNode ruleId execution id input output period wires walk

end

def maxIterations : Nat := 100

/-- Walk on from a node for a number of nodes at most. -/
def walkFrom (rule : Rule) (execution : RuleExecutionContext) :
    Nat → String → Walk → RuleProgram RuleExecutionResult
  | 0, _, walk => return (walk.fail "Execution exceeded maximum iterations").result
  | remaining + 1, id, walk => do
      ask (.visit id)
      let walk := { walk with
        result := { walk.result with executionPath := walk.result.executionPath ++ [id] } }
      match rule.flow.nodes id with
      | none => return (walk.fail s!"Node not found: {id}").result
      | some node => do
          match ← executor.stepNode rule.id execution id walk node with
          | (walk, none) => return walk.result
          | (walk, some next) => walkFrom rule execution remaining next walk

/-- The context is captured once, before anything is read. -/
def execute (rule : Rule) : RuleProgram RuleExecutionResult := do
  let execution ← ask .beginExecution
  executor.walkFrom rule execution maxIterations rule.flow.startNode (.initial rule.id)

end RuleExecutor

end AetherIot.Rules
