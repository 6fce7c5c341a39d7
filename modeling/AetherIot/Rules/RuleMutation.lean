import AetherIot.Foundation.GuardedRun
import AetherIot.Outbox.Journal
import AetherIot.Rules.Scheduler

/-!
# Mutations of the stored rules

Rules are rows of a table under one revision.  A mutation that presents the current revision is one
transaction; after its commit the scheduler loads the enabled rows anew.  The loads of several
mutations are serialized by a gate, and a load that fails stops the scheduler for good.
-/

namespace AetherIot.Rules

open Outbox GuardedRun

/-- A stored rule.  The integer columns may be null. -/
structure RuleRow where
  id : Int
  name : String
  description : Option String
  enabled : Option Int
  priority : Option Int
  cooldownMs : Option Int
  triggerConfig : Option String
  nodesJson : String
  flowJson : Option String

/-- The readers and writers of the stored texts. -/
structure RuleCodec where
  Document : Type
  readDocument : String → Except String Document
  writeDocument : Document → String
  extractRuleFlow : Document → Except String RuleFlow
  writeFlow : RuleFlow → String
  readFlow : String → Except String RuleFlow
  readTrigger : String → Except String TriggerConfig

variable (codec : RuleCodec)

/-- A flow that was written can be read. -/
def RuleCodec.RoundTrips : Prop :=
  ∀ document flow, codec.extractRuleFlow document = .ok flow →
    codec.readFlow (codec.writeFlow flow) = .ok flow

structure FlowColumns where
  flowJson : String
  nodesJson : String

def flowColumnValues (document : codec.Document) :
    Except String FlowColumns := do
  let compact ← codec.extractRuleFlow document
  return ⟨codec.writeDocument document, codec.writeFlow compact⟩

/-- An integer column that must not be null. -/
def column (name : String) (value : Option Int) : Except String Int :=
  match value with
  | some number => .ok number
  | none => .error s!"column {name}: unexpected null"

def hydrateRule (row : RuleRow) :
    Except String (Rule × Option TriggerConfig) := do
  let enabled ← column "enabled" row.enabled
  let _ ← column "priority" row.priority
  let cooldownMs ← column "cooldown_ms" row.cooldownMs
  let flow ← (codec.readFlow row.nodesJson).mapError fun error => s!"nodes_json: {error}"
  let rule : Rule := {
    id := row.id
    name := row.name
    enabled := enabled ≠ 0
    cooldownMs := if 0 ≤ cooldownMs then UInt64.ofNat cooldownMs.toNat else 0
    flow }
  return (rule, row.triggerConfig.bind fun text => (codec.readTrigger text).toOption)

/-- Rows by falling priority, then by rising id.  Null is the lowest priority. -/
def loadedBefore (first second : RuleRow) : Bool :=
  match first.priority, second.priority with
  | some mine, some other => other < mine || (other = mine && first.id ≤ second.id)
  | some _, none => true
  | none, some _ => false
  | none, none => first.id ≤ second.id

def loadEnabledRules (rows : List RuleRow) : Except String (List (Rule × Option TriggerConfig)) :=
  ((rows.filter fun row => row.enabled = some 1).insertionSort (loadedBefore · ·)).mapM
    (hydrateRule codec)

/-- The rules that the scheduler loads from the table. -/
def loadRules (rows : List RuleRow) : Except String (List ScheduledRule) := do
  let loaded ← loadEnabledRules codec rows
  return loaded.map ScheduledRule.load

/-- The fields of an update; a field without a value is left alone. -/
structure RuleChanges where
  name : Option String
  description : Option String
  enabled : Option Bool
  priority : Option UInt32
  cooldownMs : Option UInt64
  flowJson : Option String
  triggerConfig : Option String

inductive RuleMutation where
  | create (name : String) (description : Option String)
  | update (ruleId : UInt64) (changes : RuleChanges)
  | setEnabled (ruleId : UInt64) (enabled : Bool)
  | delete (ruleId : UInt64)
  | reload

inductive RuleMutationKind where
  | create
  | update
  | enable
  | disable
  | delete
  | reload
  deriving DecidableEq

def RuleMutation.kind : RuleMutation → RuleMutationKind
  | create _ _ => .create
  | update _ _ => .update
  | setEnabled _ enabled => if enabled then .enable else .disable
  | delete _ => .delete
  | reload => .reload

/-- The rules table, the revision of the rules, and the last id that was assigned. -/
structure RuleDatabase where
  rows : List RuleRow
  revision : Int
  sequence : Int

/-- The largest integer that a column stores. -/
def sqliteMax : Nat := 2 ^ 63 - 1

def databaseRuleId (ruleId : UInt64) : Except PortError Int :=
  if ruleId.toNat ≤ sqliteMax then .ok ruleId.toNat
  else .error ⟨.invalidData, "rule identifier exceeds SQLite INTEGER range"⟩

def storedBool (value : Bool) : Int := if value then 1 else 0

/-- The stored id of a rule that exists. -/
def affectedRule (database : RuleDatabase) (ruleId : UInt64) : Except PortError Int := do
  let id ← databaseRuleId ruleId
  if database.rows.any fun row => row.id = id then return id
  else throw ⟨.notFound, s!"rule {ruleId} does not exist"⟩

def changeRows (id : Int) (change : RuleRow → RuleRow) (rows : List RuleRow) : List RuleRow :=
  rows.map fun row => if row.id = id then change row else row

def updatedFlow (changes : RuleChanges) : Except PortError (Option FlowColumns) :=
  match changes.flowJson with
  | none => .ok none
  | some text => do
      let document ← (codec.readDocument text).mapError fun error =>
        (⟨.invalidData, s!"invalid flow JSON: {error}"⟩ : PortError)
      let columns ← (flowColumnValues codec document).mapError fun error =>
        (⟨.invalidData, error⟩ : PortError)
      return some columns

def checkTrigger (changes : RuleChanges) : Except PortError Unit :=
  match changes.triggerConfig with
  | none => .ok ()
  | some text =>
    match codec.readTrigger text with
    | .ok _ => .ok ()
    | .error error => .error ⟨.invalidData, s!"invalid trigger configuration: {error}"⟩

variable (changes : RuleChanges)

def RuleChanges.isEmpty : Bool :=
  changes.name.isNone && changes.description.isNone && changes.enabled.isNone &&
    changes.priority.isNone && changes.cooldownMs.isNone && changes.flowJson.isNone &&
    changes.triggerConfig.isNone

def checkFields : Except PortError Unit :=
  if changes.isEmpty then .error ⟨.invalidData, "no rule fields were provided"⟩ else .ok ()

def checkCooldown : Except PortError Unit :=
  match changes.cooldownMs with
  | some cooldown =>
    if cooldown.toNat ≤ sqliteMax then .ok ()
    else .error ⟨.invalidData, "cooldown exceeds SQLite INTEGER range"⟩
  | none => .ok ()

/-- A row with the fields of an update. -/
def RuleChanges.apply (columns : Option FlowColumns) (row : RuleRow) : RuleRow :=
  { row with
    name := changes.name.getD row.name
    description := changes.description <|> row.description
    enabled := changes.enabled.map storedBool <|> row.enabled
    priority := changes.priority.map (fun priority => (priority.toNat : Int)) <|> row.priority
    cooldownMs := changes.cooldownMs.map (fun cooldown => (cooldown.toNat : Int)) <|> row.cooldownMs
    triggerConfig := changes.triggerConfig <|> row.triggerConfig
    nodesJson := (columns.map FlowColumns.nodesJson).getD row.nodesJson
    flowJson := columns.map FlowColumns.flowJson <|> row.flowJson }

/-- A new rule has no flow and is disabled. -/
def newRule (id : Int) (name : String) (description : Option String) : RuleRow where
  id
  name
  description
  enabled := some 0
  priority := some 0
  cooldownMs := some 0
  triggerConfig := none
  nodesJson := "\x7b\x7d"
  flowJson := none

/-- The writes of a mutation, and the rule that it is about. -/
def applyMutation (database : RuleDatabase) :
    RuleMutation → Except PortError (RuleDatabase × Option UInt64)
  | .create name description =>
    let id := database.sequence + 1
    if sqliteMax < id then
      .error ⟨.unavailable, "rule database mutation failed: database or disk is full"⟩
    else if id < 0 then
      .error ⟨.permanent, "SQLite returned a negative rule identifier"⟩
    else .ok ({ database with
      rows := database.rows ++ [newRule id name description], sequence := id },
      some (UInt64.ofNat id.toNat))
  | .update ruleId changes => do
      let columns ← updatedFlow codec changes
      checkTrigger codec changes
      checkFields changes
      let _ ← databaseRuleId ruleId
      checkCooldown changes
      let id ← affectedRule database ruleId
      return ({ database with rows := changeRows id (changes.apply columns) database.rows },
        some ruleId)
  | .setEnabled ruleId enabled => do
      let id ← affectedRule database ruleId
      let change (row : RuleRow) : RuleRow := { row with enabled := some (storedBool enabled) }
      return ({ database with rows := changeRows id change database.rows }, some ruleId)
  | .delete ruleId => do
      let id ← affectedRule database ruleId
      return ({ database with rows := database.rows.filter fun row => row.id ≠ id }, some ruleId)
  | .reload => .ok (database, none)

/-- The transaction of a mutation, which must present the current revision. -/
def mutateRules (database : RuleDatabase) (mutation : RuleMutation) (expected : UInt64) :
    Except PortError (RuleDatabase × Option UInt64) :=
  if expected = 0 ∨ sqliteMax ≤ expected.toNat then
    .error ⟨.invalidData, "expected automation-rules revision must be in 1..i64::MAX"⟩
  else if database.revision ≠ expected.toNat then
    .error ⟨.conflict, s!"automation rules changed concurrently; expected revision {expected}"⟩
  else do
    let (written, ruleId) ← applyMutation codec database mutation
    return ({ written with revision := database.revision + 1 }, ruleId)

/-- What a receipt says about the scheduler. -/
inductive RuleRuntimeStatus where
  | refreshed
  | pointWatchGated (failure : PortError)
  | stopped (failure : PortError)
  deriving DecidableEq

structure RuleMutationReceipt where
  ruleId : Option UInt64
  kind : RuleMutationKind
  resultingRevision : Int
  runtimeStatus : RuleRuntimeStatus
  deriving DecidableEq

/-- How far a call is.  After its commit it waits for the gate, reads the rules, and installs
them. -/
inductive CallPhase where
  | committed
  | entered
  | loaded (rules : List ScheduledRule)
  | failed (failure : PortError)
  | returned (reply : Except PortError RuleMutationReceipt)

structure RuleCall where
  ruleId : Option UInt64
  kind : RuleMutationKind
  revision : Int
  phase : CallPhase

def RuleCall.receipt (call : RuleCall) (status : RuleRuntimeStatus) : RuleCall :=
  { call with phase := .returned (.ok ⟨call.ruleId, call.kind, call.revision, status⟩) }

/-- The database, the scheduler, and the calls in the order of their transactions. -/
structure RuleRuntime where
  database : RuleDatabase
  rules : List ScheduledRule
  running : Bool
  gate : Option Nat
  calls : List RuleCall

inductive CallStep where
  | enter
  | load
  | install (manifestMatches : Bool)
  | stop

inductive RuleRuntimeInput where
  | call (mutation : RuleMutation) (expected : UInt64)
  | advance (index : Nat) (step : CallStep)

def schedulerReloadError (error : String) : PortError :=
  ⟨.unavailable, s!"rule scheduler reload failed: {error}"⟩

def pointWatchMismatch : PortError :=
  ⟨.unavailable,
    "PointWatch subscription publication does not match the active topology generation"⟩

/-- A new call performs its transaction. -/
def RuleRuntime.begin_ (runtime : RuleRuntime) (mutation : RuleMutation) (expected : UInt64) :
    RuleRuntime :=
  match mutateRules codec runtime.database mutation expected with
  | .ok (database, ruleId) =>
    { runtime with
      database
      calls := runtime.calls ++ [⟨ruleId, mutation.kind, database.revision, .committed⟩] }
  | .error error =>
    { runtime with
      calls := runtime.calls ++
        [⟨none, mutation.kind, runtime.database.revision, .returned (.error error)⟩] }

/-- A step of a call.  The gate is that of the topology, without which loads are not serialized. -/
def RuleRuntime.advance (gated : Bool) (runtime : RuleRuntime) (index : Nat) (call : RuleCall) :
    CallStep → RuleRuntime
  | .enter =>
    match call.phase with
    | .committed =>
      if gated && runtime.gate.isSome then runtime
      else { runtime with
        gate := if gated then some index else runtime.gate
        calls := runtime.calls.set index { call with phase := .entered } }
    | _ => runtime
  | .load =>
    match call.phase with
    | .entered =>
      match loadRules codec runtime.database.rows with
      | .ok rules => { runtime with
          calls := runtime.calls.set index { call with phase := .loaded rules } }
      | .error error => { runtime with
          gate := if gated then none else runtime.gate
          calls := runtime.calls.set index
            { call with phase := .failed (schedulerReloadError error) } }
    | _ => runtime
  | .install manifestMatches =>
    match call.phase with
    | .loaded rules => { runtime with
        rules
        gate := if gated then none else runtime.gate
        calls := runtime.calls.set index (call.receipt
          (if gated && !manifestMatches then .pointWatchGated pointWatchMismatch
            else .refreshed)) }
    | _ => runtime
  | .stop =>
    match call.phase with
    | .failed failure => { runtime with
        running := false
        calls := runtime.calls.set index (call.receipt (.stopped failure)) }
    | _ => runtime

def RuleRuntime.step (codec : RuleCodec) (gated : Bool) (runtime : RuleRuntime) :
    RuleRuntimeInput → RuleRuntime
  | .call mutation expected => runtime.begin_ codec mutation expected
  | .advance index step =>
    match runtime.calls[index]? with
    | some call => runtime.advance codec gated index call step
    | none => runtime

end AetherIot.Rules
