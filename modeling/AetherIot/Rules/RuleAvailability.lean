import AetherIot.Foundation.Attempt
import AetherIot.Rules.RuleMutation

/-!
# One rule does not stop the others

A load of the rules fails as a whole if one enabled row cannot be read.  As long as only rows that
can be read are enabled, no load fails, the scheduler is never stopped, and it ends up with exactly
the enabled rows.
-/

namespace AetherIot.Rules

open Outbox GuardedRun Attempt

variable {codec : RuleCodec}

/-- A row that can be loaded once it is enabled. -/
structure Runnable (codec : RuleCodec) (row : RuleRow) : Prop where
  priority : row.priority.isSome
  cooldown : row.cooldownMs.isSome
  flow : ∃ flow, codec.readFlow row.nodesJson = .ok flow

/-- All enabled rows can be loaded. -/
def Loadable (codec : RuleCodec) (rows : List RuleRow) : Prop :=
  ∀ row ∈ rows, row.enabled = some 1 → Runnable codec row

theorem hydrateRule_ok_iff {row : RuleRow} (enabled : row.enabled = some 1) :
    (∃ loaded, hydrateRule codec row = .ok loaded) ↔ Runnable codec row := by
  obtain ⟨_, _, _, _, priority, cooldownMs, _, nodesJson, _⟩ := row
  obtain rfl := enabled
  cases priority with
  | none =>
    refine ⟨fun ⟨loaded, hydrated⟩ => ?_, fun runnable => ?_⟩
    · cases hydrated
    · cases runnable.priority
  | some =>
    cases cooldownMs with
    | none =>
      refine ⟨fun ⟨loaded, hydrated⟩ => ?_, fun runnable => ?_⟩
      · cases hydrated
      · cases runnable.cooldown
    | some =>
      cases read : codec.readFlow nodesJson with
      | error =>
        refine ⟨fun ⟨loaded, hydrated⟩ => ?_, fun ⟨_, _, flow, same⟩ => ?_⟩
        · simp [hydrateRule, column, read, Except.mapError, bind, Except.bind] at hydrated
        · cases read.symm.trans same
      | ok flow =>
        refine ⟨fun _ => ⟨rfl, rfl, flow, read⟩, fun _ => ?_⟩
        simp only [hydrateRule, column, read, Except.mapError, bind, Except.bind]
        exact ⟨_, rfl⟩

theorem loadRules_ok_iff {rows : List RuleRow} :
    (∃ rules, loadRules codec rows = .ok rules) ↔ Loadable codec rows := by
  have same : (∃ rules, loadRules codec rows = .ok rules) ↔
      ∃ loaded, loadEnabledRules codec rows = .ok loaded := by
    cases read : loadEnabledRules codec rows <;>
      simp [loadRules, read, bind, Except.bind, pure, Except.pure]
  rw [same, loadEnabledRules, mapM_eq_ok_iff]
  simp only [List.mem_insertionSort, List.mem_filter, decide_eq_true_eq, and_imp]
  refine forall₃_congr fun row _ enabled => hydrateRule_ok_iff enabled

/-- An update supplies what a row lacks. -/
structure RuleChanges.Completes (codec : RuleCodec) (changes : RuleChanges) (row : RuleRow) :
    Prop where
  priority : changes.priority.isSome ∨ row.priority.isSome
  cooldown : changes.cooldownMs.isSome ∨ row.cooldownMs.isSome
  flow : changes.flowJson.isSome ∨ ∃ flow, codec.readFlow row.nodesJson = .ok flow

/-- A mutation enables only rows that can be loaded afterwards. -/
def RuleMutation.EnablesRunnable (codec : RuleCodec) (rows : List RuleRow) : RuleMutation → Prop
  | .update ruleId changes => changes.enabled = some true →
      ∀ row ∈ rows, row.id = ruleId.toNat → changes.Completes codec row
  | .setEnabled ruleId enabled => enabled = true →
      ∀ row ∈ rows, row.id = ruleId.toNat → Runnable codec row
  | .create _ _ | .delete _ | .reload => True

theorem affectedRule_ok {database : RuleDatabase} {ruleId : UInt64} {id : Int}
    (affected : affectedRule database ruleId = .ok id) : id = ruleId.toNat := by
  obtain ⟨stored, storedId, affected⟩ := bind_eq_ok.mp affected
  have same : stored = ruleId.toNat := by
    rw [databaseRuleId] at storedId
    split at storedId
    · cases storedId
      rfl
    · cases storedId
  split at affected
  · cases affected
    exact same
  · cases affected

theorem loadable_changeRows {rows : List RuleRow} (loadable : Loadable codec rows) {id : Int}
    {change : RuleRow → RuleRow} :
    Loadable codec (changeRows id change rows) ↔
      ∀ row ∈ rows, row.id = id → (change row).enabled = some 1 → Runnable codec (change row) := by
  constructor
  · intro changed row member same enabled
    refine changed (change row) (List.mem_map.mpr ⟨row, member, ?_⟩) enabled
    rw [if_pos same]
  · intro changed _ member enabled
    obtain ⟨before, listed, rfl⟩ := List.mem_map.mp member
    by_cases same : before.id = id
    · rw [if_pos same] at enabled ⊢
      exact changed before listed same enabled
    · rw [if_neg same] at enabled ⊢
      exact loadable before listed enabled

theorem Runnable.completes {row : RuleRow} (runnable : Runnable codec row) (changes : RuleChanges) :
    changes.Completes codec row :=
  ⟨.inr runnable.priority, .inr runnable.cooldown, .inr runnable.flow⟩

/-- A call that has not read the rules yet. -/
def CallPhase.Waits : CallPhase → Prop
  | .committed | .entered => True
  | _ => False

/-- A call behind the gate. -/
def CallPhase.Inside : CallPhase → Prop
  | .entered | .loaded _ => True
  | _ => False

/-- No load of the call failed. -/
def CallPhase.Healthy : CallPhase → Prop
  | .failed _ => False
  | .returned (.ok receipt) => ∀ failure, receipt.runtimeStatus ≠ .stopped failure
  | _ => True

def RuleRuntime.Waiting (runtime : RuleRuntime) : Prop :=
  ∃ call ∈ runtime.calls, call.phase.Waits

/-- The scheduler has the rules of the table, or a call is going to load them. -/
structure Available (codec : RuleCodec) (runtime : RuleRuntime) : Prop where
  loadable : Loadable codec runtime.database.rows
  running : runtime.running = true
  gate : ∀ index call, runtime.calls[index]? = some call → call.phase.Inside →
    runtime.gate = some index
  healthy : ∀ call ∈ runtime.calls, call.phase.Healthy
  fresh : ∀ call ∈ runtime.calls, ∀ rules, call.phase = .loaded rules →
    runtime.Waiting ∨ loadRules codec runtime.database.rows = .ok rules
  current : runtime.Waiting ∨ (∃ call ∈ runtime.calls, ∃ rules, call.phase = .loaded rules) ∨
    loadRules codec runtime.database.rows = .ok runtime.rules

theorem getElem?_append_singleton_cases {calls : List RuleCall} {new : RuleCall} {index : Nat}
    {call : RuleCall} (found : (calls ++ [new])[index]? = some call) :
    calls[index]? = some call ∨ call = new := by
  obtain before | after := Nat.lt_or_ge index calls.length
  · rw [List.getElem?_append_left before] at found
    exact .inl found
  · rw [List.getElem?_append_right after] at found
    exact .inr (List.mem_singleton.mp (List.mem_of_getElem? found))

section

variable (roundTrips : codec.RoundTrips)

include roundTrips

theorem updatedFlow_readable {changes : RuleChanges}
    {columns : Option FlowColumns} (updated : updatedFlow codec changes = .ok columns) :
    (columns = none ∧ changes.flowJson = none) ∨ ∃ stored flow, columns = some stored ∧
      changes.flowJson.isSome ∧ codec.readFlow stored.nodesJson = .ok flow := by
  cases given : changes.flowJson with
  | none =>
    simp only [updatedFlow, given] at updated
    cases updated
    exact .inl ⟨rfl, rfl⟩
  | some =>
    simp only [updatedFlow, given] at updated
    obtain ⟨document, -, updated⟩ := bind_eq_ok.mp updated
    obtain ⟨_, written, updated⟩ := bind_eq_ok.mp updated
    cases updated
    obtain ⟨flow, extracted, written⟩ := bind_eq_ok.mp (mapError_eq_ok.mp written)
    cases written
    exact .inr ⟨_, flow, rfl, rfl, roundTrips document flow extracted⟩

/-- An updated row that is enabled can be loaded exactly if nothing is missing. -/
theorem runnable_apply_iff {changes : RuleChanges}
    {columns : Option FlowColumns} (updated : updatedFlow codec changes = .ok columns)
    (row : RuleRow) : Runnable codec (changes.apply columns row) ↔ changes.Completes codec row := by
  have priority : (changes.apply columns row).priority.isSome ↔
      changes.priority.isSome ∨ row.priority.isSome := by
    cases known : changes.priority <;> simp [RuleChanges.apply, known]
  have cooldown : (changes.apply columns row).cooldownMs.isSome ↔
      changes.cooldownMs.isSome ∨ row.cooldownMs.isSome := by
    cases known : changes.cooldownMs <;> simp [RuleChanges.apply, known]
  have flow : (∃ flow, codec.readFlow (changes.apply columns row).nodesJson = .ok flow) ↔
      changes.flowJson.isSome ∨ ∃ flow, codec.readFlow row.nodesJson = .ok flow := by
    obtain ⟨rfl, given⟩ | ⟨_, flow, rfl, given, readable⟩ := updatedFlow_readable roundTrips updated
    · simp [RuleChanges.apply, given]
    · simp [RuleChanges.apply, given, readable]
  constructor
  · intro runnable
    exact ⟨priority.mp runnable.priority, cooldown.mp runnable.cooldown, flow.mp runnable.flow⟩
  · intro completes
    exact ⟨priority.mpr completes.priority, cooldown.mpr completes.cooldown,
      flow.mpr completes.flow⟩

/-- The rows after a mutation can be loaded exactly if it enabled none that cannot. -/
theorem applyMutation_loadable_iff {database written : RuleDatabase}
    (loadable : Loadable codec database.rows) {mutation : RuleMutation} {ruleId : Option UInt64}
    (applied : applyMutation codec database mutation = .ok (written, ruleId)) :
    Loadable codec written.rows ↔ mutation.EnablesRunnable codec database.rows := by
  cases mutation with
  | create =>
    refine iff_of_true ?_ trivial
    simp only [applyMutation] at applied
    split at applied
    · cases applied
    split at applied
    · cases applied
    cases applied
    intro row member enabled
    obtain member | member := List.mem_append.mp member
    · exact loadable row member enabled
    · cases List.mem_singleton.mp member
      cases enabled
  | update _ changes =>
    obtain ⟨_, updated, applied⟩ := bind_eq_ok.mp applied
    obtain ⟨_, -, applied⟩ := bind_eq_ok.mp applied
    obtain ⟨_, -, applied⟩ := bind_eq_ok.mp applied
    obtain ⟨_, -, applied⟩ := bind_eq_ok.mp applied
    obtain ⟨_, -, applied⟩ := bind_eq_ok.mp applied
    obtain ⟨_, affected, applied⟩ := bind_eq_ok.mp applied
    cases applied
    obtain rfl := affectedRule_ok affected
    rw [loadable_changeRows loadable]
    simp only [runnable_apply_iff roundTrips updated]
    constructor
    · intro changed enables row member same
      refine changed row member same ?_
      simp [RuleChanges.apply, enables, storedBool]
    · intro enables row member same enabled
      cases given : changes.enabled with
      | none =>
        refine (loadable row member ?_).completes changes
        simpa [RuleChanges.apply, given] using enabled
      | some value =>
        cases value with
        | true => exact enables given row member same
        | false => simp [RuleChanges.apply, given, storedBool] at enabled
  | setEnabled _ enabled =>
    obtain ⟨_, affected, applied⟩ := bind_eq_ok.mp applied
    cases applied
    obtain rfl := affectedRule_ok affected
    rw [loadable_changeRows loadable]
    constructor
    · rintro changed rfl row member same
      have runnable := changed row member same rfl
      exact ⟨runnable.priority, runnable.cooldown, runnable.flow⟩
    · intro enables row member same stored
      cases enabled with
      | true =>
        have runnable := enables rfl row member same
        exact ⟨runnable.priority, runnable.cooldown, runnable.flow⟩
      | false => cases stored
  | delete =>
    obtain ⟨_, -, applied⟩ := bind_eq_ok.mp applied
    cases applied
    exact iff_of_true (fun row member => loadable row (List.mem_of_mem_filter member)) trivial
  | reload =>
    cases applied
    exact iff_of_true loadable trivial

theorem mutateRules_loadable_iff {database : RuleDatabase}
    (loadable : Loadable codec database.rows) {mutation : RuleMutation} {expected : UInt64}
    {written : RuleDatabase × Option UInt64}
    (committed : mutateRules codec database mutation expected = .ok written) :
    Loadable codec written.1.rows ↔ mutation.EnablesRunnable codec database.rows := by
  simp only [mutateRules, bind_eq_ok, refuse_eq_ok] at committed
  obtain ⟨-, -, ⟨_, _⟩, wrote, ⟨⟩⟩ := committed
  have kept := applyMutation_loadable_iff roundTrips loadable wrote
  exact kept

theorem available_begin {runtime : RuleRuntime}
    (available : Available codec runtime) {mutation : RuleMutation}
    (enables : mutation.EnablesRunnable codec runtime.database.rows) (expected : UInt64) :
    Available codec (runtime.begin_ codec mutation expected) := by
  rw [RuleRuntime.begin_]
  split
  · rename_i database ruleId committed
    have waiting : RuleRuntime.Waiting { runtime with
        database
        calls := runtime.calls ++ [⟨ruleId, mutation.kind, database.revision, .committed⟩] } :=
      ⟨_, List.mem_append_right _ List.mem_cons_self, trivial⟩
    refine ⟨?_, available.running, ?_, ?_, fun _ _ _ _ => .inl waiting, .inl waiting⟩
    · exact (mutateRules_loadable_iff roundTrips available.loadable committed).mpr enables
    · intro index call found inside
      obtain found | rfl := getElem?_append_singleton_cases found
      · exact available.gate index call found inside
      · cases inside
    · intro call member
      obtain member | member := List.mem_append.mp member
      · exact available.healthy call member
      · cases List.mem_singleton.mp member
        trivial
  · refine ⟨available.loadable, available.running, ?_, ?_, ?_, ?_⟩
    · intro index call found inside
      obtain found | rfl := getElem?_append_singleton_cases found
      · exact available.gate index call found inside
      · cases inside
    · intro call member
      obtain member | member := List.mem_append.mp member
      · exact available.healthy call member
      · cases List.mem_singleton.mp member
        trivial
    · intro call member rules loaded
      obtain member | member := List.mem_append.mp member
      · obtain ⟨other, listed, waits⟩ | same := available.fresh call member rules loaded
        · exact .inl ⟨other, List.mem_append_left _ listed, waits⟩
        · exact .inr same
      · cases List.mem_singleton.mp member
        cases loaded
    · obtain ⟨other, listed, waits⟩ | ⟨other, listed, loaded⟩ | same := available.current
      · exact .inl ⟨other, List.mem_append_left _ listed, waits⟩
      · exact .inr (.inl ⟨other, List.mem_append_left _ listed, loaded⟩)
      · exact .inr (.inr same)

end

section

variable {calls : List RuleCall} {index : Nat} {call new : RuleCall}

theorem getElem?_set_cases {position : Nat} {other : RuleCall}
    (found : (calls.set index new)[position]? = some other) :
    (position = index ∧ other = new) ∨ (position ≠ index ∧ calls[position]? = some other) := by
  rw [List.getElem?_set] at found
  split at found
  · rename_i same
    split at found
    · exact .inl ⟨same.symm, (Option.some.inj found).symm⟩
    · cases found
  · rename_i different
    exact .inr ⟨Ne.symm different, found⟩

theorem mem_set_of_found (found : calls[index]? = some call) : new ∈ calls.set index new := by
  have bound := (List.getElem?_eq_some_iff.mp found).1
  exact List.mem_of_getElem? (List.getElem?_set_self bound)

theorem waits_set (found : calls[index]? = some call) (done : ¬ call.phase.Waits)
    (waiting : ∃ other ∈ calls, other.phase.Waits) :
    ∃ other ∈ calls.set index new, other.phase.Waits := by
  obtain ⟨other, member, waits⟩ := waiting
  obtain ⟨position, here⟩ := List.mem_iff_getElem?.mp member
  refine ⟨other, List.mem_of_getElem? (i := position) ?_, waits⟩
  rw [List.getElem?_set_ne, here]
  rintro rfl
  cases Option.some.inj (found.symm.trans here)
  exact done waits

end

theorem Available.healthy_set {runtime : RuleRuntime} (available : Available codec runtime)
    (index : Nat) {call : RuleCall} (healthy : call.phase.Healthy) :
    ∀ other ∈ runtime.calls.set index call, other.phase.Healthy := by
  intro other member
  obtain member | rfl := List.mem_or_eq_of_mem_set member
  · exact available.healthy other member
  · exact healthy

section

variable {runtime : RuleRuntime} (available : Available codec runtime) {index : Nat}
  {call : RuleCall} (found : runtime.calls[index]? = some call)

include available found

/-- Behind the gate there is one call at most. -/
theorem Available.alone (inside : call.phase.Inside) {position : Nat} {other : RuleCall}
    (otherFound : runtime.calls[position]? = some other)
    (otherInside : other.phase.Inside) : position = index := by
  have mine := available.gate index call found inside
  have others := available.gate position other otherFound otherInside
  exact Option.some.inj (others.symm.trans mine)

theorem available_enter (free : runtime.gate = none) :
    Available codec { runtime with
      gate := some index, calls := runtime.calls.set index { call with phase := .entered } } := by
  have waiting : RuleRuntime.Waiting { runtime with
      gate := some index, calls := runtime.calls.set index { call with phase := .entered } } :=
    ⟨_, mem_set_of_found found, trivial⟩
  refine ⟨available.loadable, available.running, ?_, available.healthy_set index trivial,
    fun _ _ _ _ => .inl waiting, .inl waiting⟩
  intro position other otherFound inside
  obtain ⟨rfl, -⟩ | ⟨-, otherFound⟩ := getElem?_set_cases otherFound
  · rfl
  · cases free.symm.trans (available.gate position other otherFound inside)

theorem available_load (entered : call.phase = .entered)
    {rules : List ScheduledRule} (read : loadRules codec runtime.database.rows = .ok rules) :
    Available codec { runtime with
      calls := runtime.calls.set index { call with phase := .loaded rules } } := by
  have inside : call.phase.Inside := by rw [entered]; trivial
  refine ⟨available.loadable, available.running, ?_, available.healthy_set index trivial, ?_, ?_⟩
  · intro position other otherFound otherInside
    obtain ⟨rfl, -⟩ | ⟨-, otherFound⟩ := getElem?_set_cases otherFound
    · exact available.gate position call found inside
    · exact available.gate position other otherFound otherInside
  · intro other member _ loaded
    obtain ⟨_, otherFound⟩ := List.mem_iff_getElem?.mp member
    obtain ⟨-, rfl⟩ | ⟨different, otherFound⟩ := getElem?_set_cases otherFound
    · cases loaded
      exact .inr read
    · have otherInside : other.phase.Inside := by rw [loaded]; trivial
      exact absurd (available.alone found inside otherFound otherInside) different
  · exact .inr (.inl ⟨_, mem_set_of_found found, rules, rfl⟩)

theorem available_install {rules : List ScheduledRule} (loaded : call.phase = .loaded rules)
    {status : RuleRuntimeStatus} (healthy : ∀ failure, status ≠ .stopped failure) :
    Available codec { runtime with
      rules, gate := none, calls := runtime.calls.set index (call.receipt status) } := by
  have inside : call.phase.Inside := by rw [loaded]; trivial
  have done : ¬ call.phase.Waits := by rw [loaded]; exact id
  have outside : ∀ (position : Nat) (other : RuleCall),
      (runtime.calls.set index (call.receipt status))[position]? = some other →
        ¬ other.phase.Inside := by
    intro position other otherFound otherInside
    obtain ⟨-, rfl⟩ | ⟨different, otherFound⟩ := getElem?_set_cases otherFound
    · cases otherInside
    · exact different (available.alone found inside otherFound otherInside)
  refine ⟨available.loadable, available.running, ?_, available.healthy_set index healthy, ?_, ?_⟩
  · intro position other otherFound otherInside
    exact absurd otherInside (outside position other otherFound)
  · intro other member _ otherLoaded
    obtain ⟨position, otherFound⟩ := List.mem_iff_getElem?.mp member
    refine absurd ?_ (outside position other otherFound)
    rw [otherLoaded]
    trivial
  · obtain waiting | read := available.fresh call (List.mem_of_getElem? found) rules loaded
    · exact .inl (waits_set found done waiting)
    · exact .inr (.inr read)

theorem available_advance (step : CallStep) :
    Available codec (runtime.advance codec true index call step) := by
  cases step with
  | enter =>
    simp only [RuleRuntime.advance]
    split
    · split
      · exact available
      · rename_i free
        exact available_enter available found (by simpa using free)
    · exact available
  | load =>
    simp only [RuleRuntime.advance]
    split
    · rename_i entered
      obtain ⟨_, read⟩ := loadRules_ok_iff.mpr available.loadable
      simp only [read]
      exact available_load available found entered read
    · exact available
  | install =>
    simp only [RuleRuntime.advance]
    split
    · rename_i loaded
      refine available_install available found loaded fun failure => ?_
      split <;> simp
    · exact available
  | stop =>
    simp only [RuleRuntime.advance]
    split
    · rename_i failed
      have healthy := available.healthy call (List.mem_of_getElem? found)
      rw [failed] at healthy
      cases healthy
    · exact available

end

/-- The calls of a step enable only rows that can be loaded. -/
def EnablesRunnable (codec : RuleCodec) (runtime : RuleRuntime) (input : RuleRuntimeInput) : Prop :=
  ∀ mutation expected, input = .call mutation expected →
    mutation.EnablesRunnable codec runtime.database.rows

theorem available_step (roundTrips : codec.RoundTrips) {runtime : RuleRuntime}
    (available : Available codec runtime) {input : RuleRuntimeInput}
    (enables : EnablesRunnable codec runtime input) :
    Available codec (runtime.step codec true input) := by
  cases input with
  | call mutation expected =>
    exact available_begin roundTrips available (enables mutation expected rfl) expected
  | advance index step =>
    cases found : runtime.calls[index]? with
    | none => simpa only [RuleRuntime.step, found] using available
    | some =>
      simp only [RuleRuntime.step, found]
      exact available_advance available found step

/-- The scheduler runs with the enabled rows of the table, and there is no call. -/
structure RuleRuntime.Idle (codec : RuleCodec) (runtime : RuleRuntime) : Prop where
  running : runtime.running = true
  gate : runtime.gate = none
  calls : runtime.calls = []
  loaded : loadRules codec runtime.database.rows = .ok runtime.rules

theorem RuleRuntime.Idle.available {runtime : RuleRuntime} (idle : runtime.Idle codec) :
    Available codec runtime where
  loadable := loadRules_ok_iff.mp ⟨_, idle.loaded⟩
  running := idle.running
  gate := by simp [idle.calls]
  healthy := by simp [idle.calls]
  fresh := by simp [idle.calls]
  current := .inr (.inr idle.loaded)

def endFlow : RuleFlow where
  startNode := "start"
  nodes := fun id =>
    if id = "start" then some (.start ["end"]) else if id = "end" then some .end_ else none

/-- A codec under which the empty object is not a flow. -/
def plainCodec : RuleCodec where
  Document := String
  readDocument := .ok
  writeDocument := id
  extractRuleFlow _ := .ok endFlow
  writeFlow _ := "flow"
  readFlow text := if text = "\x7b\x7d" then .error "missing field" else .ok endFlow
  readTrigger _ := .error "missing field"

theorem plainCodec_roundTrips : plainCodec.RoundTrips := by
  intro _ _ extracted
  cases extracted
  rfl

/-- A table with one enabled rule. -/
def oneRuleDatabase : RuleDatabase where
  rows := [⟨1, "first", none, some 1, some 0, some 0, none, "flow", none⟩]
  revision := 1
  sequence := 1

def oneRuleRuntime : RuleRuntime where
  database := oneRuleDatabase
  rules := [.load (⟨1, "first", true, 0, endFlow⟩, none)]
  running := true
  gate := none
  calls := []

theorem idle_oneRule : oneRuleRuntime.Idle plainCodec where
  running := rfl
  gate := rfl
  calls := rfl
  loaded := by
    simp [loadRules, loadEnabledRules, oneRuleRuntime, oneRuleDatabase]
    rfl

/-- What the reply to a call says about the scheduler. -/
def RuleCall.reportedStatus (call : RuleCall) : Option RuleRuntimeStatus :=
  match call.phase with
  | .returned (.ok receipt) => some receipt.runtimeStatus
  | _ => none

theorem returned_of_reportedStatus {call : RuleCall} (reported : call.reportedStatus.isSome) :
    ∃ reply, call.phase = .returned reply := by
  cases phase : call.phase with
  | returned reply => exact ⟨reply, rfl⟩
  | _ => simp [RuleCall.reportedStatus, phase] at reported

/-- A new rule is created and then enabled without a flow. -/
def stubInputs : List RuleRuntimeInput :=
  [.call (.create "second" none) 1, .advance 0 .enter, .advance 0 .load,
    .advance 0 (.install true), .call (.setEnabled 2 true) 2, .advance 1 .enter, .advance 1 .load,
    .advance 1 .stop, .call (.setEnabled 2 false) 3, .advance 2 .enter, .advance 2 .load,
    .advance 2 (.install true)]

/-- A new rule is created and then enabled together with its flow. -/
def flowInputs : List RuleRuntimeInput :=
  [.call (.create "second" none) 1, .advance 0 .enter, .advance 0 .load,
    .advance 0 (.install true),
    .call (.update 2 ⟨none, none, some true, some 5, some 1000, some "flow", none⟩) 2,
    .advance 1 .enter, .advance 1 .load, .advance 1 (.install false)]

theorem enablesRunnable_advance (runtime : RuleRuntime) (index : Nat) (step : CallStep) :
    EnablesRunnable plainCodec runtime (.advance index step) := by
  rintro _ _ ⟨⟩

end AetherIot.Rules
