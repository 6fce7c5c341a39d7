import AetherIot.Rules.Executor

/-!
# The rule scheduler

A tick, or an event of the point watch, goes through phases.  It collects the subscribed points,
samples them, selects the rules that are due, executes them, and at last records what they saw.  The
rules are locked within a phase only, so that they can be reloaded between any two of them.
-/

namespace AetherIot.Rules

/-- An instant in nanoseconds. -/
abbrev Instant : Type := Nat

/-- The elapsed milliseconds in a machine word. -/
def elapsedMs (now earlier : Instant) : Nat := (now - earlier) / 1000000 % 2 ^ 64

inductive PointKind where
  | measurement
  | action
  deriving DecidableEq

structure PointRef where
  instance_ : UInt32
  pointType : PointKind
  point : UInt32
  deriving DecidableEq

namespace PointRef

def cacheKey (ref : PointRef) : String :=
  pointKey (ref.pointType = .action) ref.instance_ ref.point

def instanceType (ref : PointRef) : UInt8 :=
  match ref.pointType with
  | .measurement => 0
  | .action => 1

end PointRef

inductive ValueDeadband where
  | absolute (threshold : UInt64)
  | percent (threshold : UInt64)
  deriving DecidableEq

/-- Both values are finite. -/
def ValueDeadband.exceeds (deadband : ValueDeadband) (last new : UInt64) : Bool :=
  let delta := (Float.ofBits new - Float.ofBits last).abs
  match deadband with
  | .absolute threshold => delta > Float.ofBits threshold
  | .percent threshold =>
    let basis := (Float.ofBits last).abs
    if basis == 0 then Float.ofBits new != 0
    else delta / basis * 100 > Float.ofBits threshold

inductive TriggerConfig where
  | interval (intervalMs : UInt64)
  | onChange (pointRefs : List PointRef) (timeDeadbandMs : Option UInt64)
      (valueDeadband : Option ValueDeadband)
  deriving DecidableEq

structure OnChangeState where
  lastValue : Values
  lastTrigger : Option Instant

def OnChangeState.initial : OnChangeState := ⟨.empty, none⟩

/-- A new value of a point counts as a change. -/
def isChange (valueDeadband : Option ValueDeadband) (last new : UInt64) : Bool :=
  match valueDeadband with
  | some deadband => deadband.exceeds last new
  | none => last ≠ new

/-- Enough time has passed since the last trigger. -/
def timeGateOpen (state : OnChangeState) (timeDeadbandMs : Option UInt64) (now : Instant) : Bool :=
  match timeDeadbandMs, state.lastTrigger with
  | some deadband, some last => !(elapsedMs now last < deadband.toNat)
  | _, _ => true

/-- The sampled value of a point is a change, or the first one. -/
def pointChanged (state : OnChangeState) (valueDeadband : Option ValueDeadband) (snapshot : Values)
    (ref : PointRef) : Bool :=
  match (snapshot ref.cacheKey).filter Float64.isFinite with
  | none => false
  | some new =>
    match state.lastValue ref.cacheKey with
    | none => true
    | some last => isChange valueDeadband last new

def shouldTriggerOnchange (state : OnChangeState) (pointRefs : List PointRef)
    (timeDeadbandMs : Option UInt64) (valueDeadband : Option ValueDeadband) (snapshot : Values)
    (now : Instant) : Bool :=
  timeGateOpen state timeDeadbandMs now && pointRefs.any (pointChanged state valueDeadband snapshot)

structure ScheduledRule where
  rule : Rule
  trigger : TriggerConfig
  lastExecution : Option Instant
  lastCooldownStart : Option Instant
  onchangeState : OnChangeState

namespace ScheduledRule

/-- A rule as it is loaded, with its trigger if that can be parsed. -/
def load (row : Rule × Option TriggerConfig) : ScheduledRule where
  rule := row.1
  trigger := row.2.getD (.interval (if row.1.cooldownMs > 0 then row.1.cooldownMs else 1000))
  lastExecution := none
  lastCooldownStart := none
  onchangeState := .initial

variable (scheduled : ScheduledRule)

def isOnchange : Bool :=
  match scheduled.trigger with
  | .onChange _ _ _ => true
  | .interval _ => false

def pointRefs : List PointRef :=
  match scheduled.trigger with
  | .onChange refs _ _ => refs
  | .interval _ => []

def cooldownOk (now : Instant) : Bool :=
  if scheduled.rule.cooldownMs > 0 then
    match scheduled.lastCooldownStart with
    | none => true
    | some start => elapsedMs now start ≥ scheduled.rule.cooldownMs.toNat
  else true

end ScheduledRule

/-- What starts a pass over the rules: the clock, or an event that names rules. -/
inductive PassKind where
  | tick
  | watch (ruleIds : List Int)
  deriving DecidableEq

/-- A pass looks at a rule. -/
def PassKind.covers (kind : PassKind) (scheduled : ScheduledRule) : Bool :=
  scheduled.rule.enabled && match kind with
    | .tick => true
    | .watch ruleIds => scheduled.isOnchange && decide (scheduled.rule.id ∈ ruleIds)

/-- The points to sample. -/
def PassKind.subscriptions (kind : PassKind) (rules : List ScheduledRule) : List PointRef :=
  ((rules.filter kind.covers).flatMap ScheduledRule.pointRefs).dedup

def ScheduledRule.shouldExecute (scheduled : ScheduledRule) (snapshot : Values) (now : Instant) :
    Bool :=
  match scheduled.trigger with
  | .interval intervalMs => scheduled.lastExecution.all fun last =>
    elapsedMs now last ≥ intervalMs.toNat
  | .onChange pointRefs timeDeadbandMs valueDeadband =>
    shouldTriggerOnchange scheduled.onchangeState pointRefs timeDeadbandMs valueDeadband snapshot
      now

def PassKind.isDue (kind : PassKind) (snapshot : Values) (now : Instant)
    (scheduled : ScheduledRule) : Bool :=
  kind.covers scheduled && scheduled.shouldExecute snapshot now && scheduled.cooldownOk now

/-- What an execution leaves for the rule at an index. -/
structure TimestampUpdate where
  idx : Nat
  ruleId : Int
  startCooldown : Bool
  isOnchange : Bool
  pointValues : Values

/-- The value that is recorded for a point: the one that the execution read, or else the sample. -/
def observedValue (snapshot pointValues : Values) (key : String) : Option UInt64 :=
  (pointValues key <|> snapshot key).filter Float64.isFinite

def recordValues (snapshot pointValues : Values) (refs : List PointRef) (values : Values) : Values :=
  refs.foldl (fun values ref =>
    match observedValue snapshot pointValues ref.cacheKey with
    | some value => values.insert ref.cacheKey value
    | none => values) values

/-- Executions that failed are recorded as the others. -/
def ScheduledRule.record (scheduled : ScheduledRule) (now : Instant) (snapshot : Values)
    (update : TimestampUpdate) : ScheduledRule :=
  { scheduled with
    lastExecution := some now
    lastCooldownStart := if update.startCooldown then some now else scheduled.lastCooldownStart
    onchangeState :=
      if update.isOnchange && scheduled.isOnchange then
        ⟨recordValues snapshot update.pointValues scheduled.pointRefs
          scheduled.onchangeState.lastValue, some now⟩
      else scheduled.onchangeState }

/-- The rule at the index is updated if it has the same id. -/
def applyUpdate (now : Instant) (snapshot : Values) (rules : List ScheduledRule)
    (update : TimestampUpdate) : List ScheduledRule :=
  rules.modify update.idx fun scheduled =>
    if scheduled.rule.id = update.ruleId then scheduled.record now snapshot update else scheduled

/-- An execution of a selected rule: what is left of its program, and what it has asked.  The
version says which load of the rules it was selected from. -/
structure RuleExecution where
  idx : Nat
  version : Nat
  rule : Rule
  isOnchange : Bool
  program : RuleProgram RuleExecutionResult
  trace : List (Exchange RuleRequest.Reply)

/-- An execution that returned. -/
structure CompletedExecution where
  idx : Nat
  version : Nat
  rule : Rule
  isOnchange : Bool
  trace : List (Exchange RuleRequest.Reply)
  snapshot : Values
  result : RuleExecutionResult

def CompletedExecution.update (completed : CompletedExecution) : TimestampUpdate where
  idx := completed.idx
  ruleId := completed.rule.id
  startCooldown := completed.result.success && completed.result.actionsExecuted ≠ []
  isOnchange := completed.isOnchange
  pointValues := completed.result.pointValues

/-- The execution with its result, once it returned. -/
def RuleExecution.completed (execution : RuleExecution) (snapshot : Values) :
    Option CompletedExecution :=
  match execution.program with
  | .done result => some ⟨execution.idx, execution.version, execution.rule, execution.isOnchange,
      execution.trace, snapshot, result⟩
  | .fail impossible => nomatch impossible
  | .ask _ _ => none

inductive PassPhase where
  | sampling (remaining : List PointRef) (snapshot : Values)
  | executing (snapshot : Values) (executions : List RuleExecution)

structure Pass where
  kind : PassKind
  now : Instant
  phase : PassPhase

/-- The values of the points of instances, with their timestamps. -/
abbrev LiveState : Type := UInt32 → UInt8 → UInt32 → Option (UInt64 × UInt64)

/-- The scheduler with its surroundings.  `loads` counts the loads of the rules, and `history` has
the executions that were recorded. -/
structure SchedulerState where
  rules : List ScheduledRule
  live : LiveState
  pass : Option Pass
  loads : Nat
  history : List CompletedExecution

variable (live : LiveState)

def SchedulerState.initial : SchedulerState := ⟨[], live, none, 0, []⟩

inductive SchedulerInput where
  | updateLive (live : LiveState)
  | reload (rows : List (Rule × Option TriggerConfig))
  | begin_ (kind : PassKind) (now : Instant)
  | sample (index : Nat)
  | select
  | serve (index : Nat) (reply : ∀ request : RuleRequest, request.Reply)
  | record

/-- A finite value of a point. -/
def LiveState.sample (ref : PointRef) : Option UInt64 :=
  ((live ref.instance_ ref.instanceType ref.point).map Prod.fst).filter Float64.isFinite

/-- Points are read from the live state; the other replies come from the surroundings. -/
def LiveState.answer (reply : ∀ request : RuleRequest, request.Reply) :
    ∀ request : RuleRequest, request.Reply
  | .getInstance _ instanceId instanceType pointId => live instanceId instanceType pointId
  | request => reply request

def RuleExecution.serve (reply : ∀ request : RuleRequest, request.Reply) (execution : RuleExecution) :
    RuleExecution :=
  match execution.program with
  | .ask request next =>
    let answer := live.answer reply request
    { execution with program := next answer, trace := execution.trace ++ [⟨request, answer⟩] }
  | _ => execution

variable (executor : RuleExecutor)

def selectExecutions (kind : PassKind) (now : Instant) (snapshot : Values) (version : Nat)
    (rules : List ScheduledRule) : List RuleExecution :=
  (rules.zipIdx.filter fun entry => kind.isDue snapshot now entry.1).map fun entry =>
    ⟨entry.2, version, entry.1.rule, entry.1.isOnchange, executor.execute entry.1.rule, []⟩

/-- One step of a pass.  The points are sampled in any order, and the executions take turns. -/
def Pass.step (state : SchedulerState) (pass : Pass) : SchedulerInput → SchedulerState
  | .sample index =>
    match pass.phase with
    | .sampling remaining snapshot =>
      match remaining[index]? with
      | some ref =>
        let sampled := Function.update snapshot ref.cacheKey (state.live.sample ref)
        { state with
          pass := some { pass with phase := .sampling (remaining.eraseIdx index) sampled } }
      | none => state
    | _ => state
  | .select =>
    match pass.phase with
    | .sampling [] snapshot =>
      let executions :=
        selectExecutions executor pass.kind pass.now snapshot state.loads state.rules
      { state with pass := some { pass with phase := .executing snapshot executions } }
    | _ => state
  | .serve index reply =>
    match pass.phase with
    | .executing snapshot executions =>
      let served := executions.modify index (RuleExecution.serve state.live reply)
      { state with pass := some { pass with phase := .executing snapshot served } }
    | _ => state
  | .record =>
    match pass.phase with
    | .executing snapshot executions =>
      match executions.mapM (RuleExecution.completed · snapshot) with
      | some completed =>
        { state with
          rules := completed.foldl (fun rules execution =>
            applyUpdate pass.now snapshot rules execution.update) state.rules
          pass := none
          history := state.history ++ completed }
      | none => state
    | _ => state
  | _ => state

/-- One step.  There is one pass at a time. -/
def schedulerStep (state : SchedulerState) (input : SchedulerInput) : SchedulerState :=
  match input with
  | .updateLive live => { state with live }
  | .reload rows =>
    { state with rules := rows.map ScheduledRule.load, loads := state.loads + 1 }
  | .begin_ kind now =>
    match state.pass with
    | some _ => state
    | none => { state with pass := some ⟨kind, now,
        .sampling (kind.subscriptions state.rules) .empty⟩ }
  | input =>
    match state.pass with
    | some pass => pass.step executor state input
    | none => state

end AetherIot.Rules
