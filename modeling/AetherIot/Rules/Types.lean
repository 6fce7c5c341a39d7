import Mathlib

/-!
# Rules

A rule is a flow graph.  Its nodes declare variables, which are points of instances or formulas, and
branch, write values, or calculate.
-/

namespace AetherIot.Rules

/-- Variable values by name.  Floating-point numbers are given by their bits. -/
abbrev Values : Type := String → Option UInt64

def Values.empty : Values := fun _ => none

def Values.insert (values : Values) (name : String) (value : UInt64) : Values :=
  Function.update values name (some value)

/-- Add values; new ones replace old ones. -/
def Values.extend (values added : Values) : Values := fun name => added name <|> values name

/-- A JSON value, as far as rules look into it. -/
inductive JsonValue where
  | number (bits : UInt64) (text : String)
  | string (text : String)
  | other (text : String)
  deriving DecidableEq

namespace JsonValue

def asFloat : JsonValue → Option UInt64
  | number bits _ => some bits
  | string _ | other _ => none

def asText : JsonValue → Option String
  | string text => some text
  | number _ _ | other _ => none

/-- A character inside a JSON string. -/
def escaped (character : Char) : String :=
  if character = '"' then "\\\""
  else if character = '\\' then "\\\\"
  else if character = '\n' then "\\n"
  else if character = '\r' then "\\r"
  else if character = '\t' then "\\t"
  else if character = Char.ofNat 8 then "\\b"
  else if character = Char.ofNat 12 then "\\f"
  else if character.toNat < 32 then
    "\\u00" ++ String.ofList [Nat.digitChar (character.toNat / 16),
      Nat.digitChar (character.toNat % 16)]
  else character.toString

def toText : JsonValue → String
  | number _ text => text
  | string text => "\"" ++ String.join (text.toList.map escaped) ++ "\""
  | other text => text

end JsonValue

structure RuleVariable where
  name : String
  instance_ : Option UInt32
  pointType : Option String
  point : Option UInt32
  formula : List JsonValue
  deriving DecidableEq

/-- The variable is read from the action plane. -/
def RuleVariable.isAction (declared : RuleVariable) : Bool :=
  declared.pointType.getD "measurement" = "action"

structure FlowCondition where
  condType : String
  variables_ : Option String
  operator : Option String
  value : Option JsonValue
  deriving DecidableEq

structure RuleSwitchBranch where
  name : String
  rule : List FlowCondition
  deriving DecidableEq

structure RuleValueAssignment where
  variables_ : String
  value : JsonValue
  deriving DecidableEq

structure CalculationRule where
  output : String
  formula : String
  deriving DecidableEq

inductive RuleNode where
  | start (wires : List String)
  | end_
  | switch (variables_ : List RuleVariable) (branches : List RuleSwitchBranch)
      (wires : String → Option (List String))
  | changeValue (variables_ : List RuleVariable) (assignments : List RuleValueAssignment)
      (wires : List String)
  | calculation (variables_ : List RuleVariable) (calculations : List CalculationRule)
      (wires : List String)
  | periodDelta (input output : RuleVariable) (period : String) (wires : List String)

structure RuleFlow where
  startNode : String
  nodes : String → Option RuleNode

structure Rule where
  id : Int
  name : String
  enabled : Bool
  cooldownMs : UInt64
  flow : RuleFlow

/-- The topology publication that an execution was begun under, if any. -/
structure RuleExecutionContext where
  commandTopologyFence : Option UInt64
  deriving DecidableEq

structure RuleActionCommand where
  instanceId : UInt32
  pointId : UInt32
  value : UInt64
  topologyFence : Option UInt64
  deriving DecidableEq

inductive PointTag where
  | measurement
  | action
  | telemetry
  | status
  | control
  deriving DecidableEq

def pointTypeToStatic (pointType : Option String) (default : PointTag) : PointTag :=
  match pointType with
  | some "M" | some "measurement" => .measurement
  | some "A" | some "action" => .action
  | some "T" | some "telemetry" => .telemetry
  | some "S" | some "status" => .status
  | some "C" | some "control" => .control
  | _ => default

structure ActionResult where
  targetType : String
  targetId : UInt32
  pointType : PointTag
  pointId : UInt32
  value : UInt64
  success : Bool
  deriving DecidableEq

structure ConditionResult where
  expression : String
  result : Bool
  port : String
  deriving DecidableEq

structure NodeExecutionDetail where
  nodeType : String
  inputValues : Values
  conditionResults : Option (List ConditionResult)
  matchedPort : Option String
  actions : Option (List ActionResult)

structure RuleExecutionResult where
  ruleId : Int
  success : Bool
  actionsExecuted : List ActionResult
  error : Option String
  executionPath : List String
  matchedCondition : Option String
  variableValues : Values
  pointValues : Values
  nodeDetails : String → Option NodeExecutionDetail

def RuleExecutionResult.initial (ruleId : Int) : RuleExecutionResult where
  ruleId := ruleId
  success := false
  actionsExecuted := []
  error := none
  executionPath := []
  matchedCondition := none
  variableValues := .empty
  pointValues := .empty
  nodeDetails := fun _ => none

end AetherIot.Rules
