import AetherIot.Foundation.GuardedRun
import AetherIot.Rules.Scheduler

/-!
# A pass that is not disturbed

While neither the rules nor the live state change, a pass samples the live values, executes exactly
the rules that are due with them, and records what it executed.
-/

namespace AetherIot.Rules

open Interaction GuardedRun RuleExecution

theorem colon_notMem_repr (number : Nat) : ':' ∉ (Nat.repr number).toList := by
  intro member
  have digits : ':' ∈ Nat.toDigits 10 number := by simpa [Nat.repr] using member
  have digit := Nat.isDigit_of_mem_toDigits (by decide) (by decide) digits
  cases digit

theorem pointKey_injective {isAction otherAction : Bool} {instanceId otherId point other : UInt32}
    (same : pointKey isAction instanceId point = pointKey otherAction otherId other) :
    isAction = otherAction ∧ instanceId = otherId ∧ point = other := by
  have lists : (if isAction then "A" else "M").toList ++ ':' ::
        ((Nat.repr instanceId.toNat).toList ++ ':' :: (Nat.repr point.toNat).toList) =
      (if otherAction then "A" else "M").toList ++ ':' ::
        ((Nat.repr otherId.toNat).toList ++ ':' :: (Nat.repr other.toNat).toList) := by
    have texts := congrArg String.toList same
    simpa [pointKey, toString] using texts
  have tails : isAction = otherAction ∧
      (Nat.repr instanceId.toNat).toList ++ ':' :: (Nat.repr point.toNat).toList =
        (Nat.repr otherId.toNat).toList ++ ':' :: (Nat.repr other.toNat).toList := by
    cases isAction <;> cases otherAction <;> first | exact ⟨rfl, by simpa using lists⟩ | simp at lists
  obtain ⟨instances, -, points⟩ := (List.append_cons_inj_of_notMem (colon_notMem_repr _)
    (colon_notMem_repr _)).mp tails.2
  refine ⟨tails.1, ?_, ?_⟩
  · exact UInt32.toNat_inj.mp (Nat.repr_injective (String.toList_inj.mp instances))
  · exact UInt32.toNat_inj.mp (Nat.repr_injective (String.toList_inj.mp points))

theorem cacheKey_injective : Function.Injective PointRef.cacheKey := by
  rintro ⟨_, kind, _⟩ ⟨_, otherKind, _⟩ same
  obtain ⟨actions, rfl, rfl⟩ := pointKey_injective same
  cases kind <;> cases otherKind <;> first | rfl | cases actions

/-- All points but the remaining ones have been sampled. -/
def Sampled (live : LiveState) (points remaining : List PointRef) (snapshot : Values) : Prop :=
  ∀ ref ∈ points, ref ∈ remaining ∨ snapshot ref.cacheKey = live.sample ref

theorem sampled_initial (live : LiveState) (points : List PointRef) (snapshot : Values) :
    Sampled live points points snapshot := fun _ member => .inl member

variable {live : LiveState} {snapshot : Values} {index : Nat} {ref : PointRef} {kind : PassKind}
  {executor : RuleExecutor} {execution : RuleExecution} {completed : CompletedExecution}
  {start : SchedulerState}

theorem Sampled.sample {points remaining : List PointRef}
    (sampled : Sampled live points remaining snapshot) (next : remaining[index]? = some ref) :
    Sampled live points (remaining.eraseIdx index)
      (Function.update snapshot ref.cacheKey (live.sample ref)) := by
  intro other member
  by_cases same : other = ref
  · subst same
    exact .inr (Function.update_self ..)
  · obtain waiting | known := sampled other member
    · left
      obtain ⟨position, found⟩ := List.mem_iff_getElem?.mp waiting
      refine List.mem_eraseIdx_iff_getElem?.mpr ⟨position, ?_, found⟩
      rintro rfl
      exact same (Option.some.inj (found.symm.trans next))
    · right
      rw [Function.update_of_ne (fun keys => same (cacheKey_injective keys)), known]

/-- A finished sampling has sampled every point of a rule that the pass covers. -/
theorem Sampled.eq_sample {rules : List ScheduledRule} {scheduled : ScheduledRule} {idx : Nat}
    (sampled : Sampled live (kind.subscriptions rules) [] snapshot)
    (found : rules[idx]? = some scheduled) (covered : kind.covers scheduled)
    (member : ref ∈ scheduled.pointRefs) : snapshot ref.cacheKey = live.sample ref := by
  have subscribed : ref ∈ kind.subscriptions rules := by
    simp only [PassKind.subscriptions, List.mem_dedup, List.mem_flatMap, List.mem_filter]
    exact ⟨scheduled, ⟨List.mem_of_getElem? found, covered⟩, member⟩
  obtain waiting | known := sampled ref subscribed
  · cases waiting
  · exact known

/-- An execution in progress whose reads all saw the live state. -/
structure InProgress (executor : RuleExecutor) (live : LiveState) (execution : RuleExecution) :
    Prop where
  after : After (executor.execute execution.rule) execution.trace execution.program
  reads : ∀ context instanceId instanceType pointId reply,
    (⟨.getInstance context instanceId instanceType pointId, reply⟩ : Exchange RuleRequest.Reply) ∈
      execution.trace → reply = live instanceId instanceType pointId

theorem InProgress.serve (progress : InProgress executor live execution)
    (reply : ∀ request : RuleRequest, request.Reply) :
    InProgress executor live (execution.serve live reply) := by
  obtain ⟨_, _, _, _, program, _⟩ := execution
  obtain ⟨after, reads⟩ := progress
  cases program with
  | done => exact ⟨after, reads⟩
  | fail impossible => cases impossible
  | ask =>
    refine ⟨after.serve _, fun context instanceId instanceType pointId answer member => ?_⟩
    obtain member | member := List.mem_append.mp member
    · exact reads context instanceId instanceType pointId answer member
    · cases List.mem_singleton.mp member
      rfl

theorem forall_mem_modify {α : Type} {holds : α → Prop} {change : α → α}
    (kept : ∀ value, holds value → holds (change value)) {values : List α}
    (all : ∀ value ∈ values, holds value) : ∀ value ∈ values.modify index change, holds value := by
  intro _ member
  obtain ⟨_, found⟩ := List.mem_iff_getElem?.mp member
  rw [List.getElem?_modify] at found
  obtain ⟨before, earlier, rfl⟩ := Option.map_eq_some_iff.mp found
  have holds := all before (List.mem_of_getElem? earlier)
  split
  · exact kept before holds
  · exact holds

/-- What stays of an execution while it proceeds. -/
structure ExecutionKey where
  idx : Nat
  version : Nat
  rule : Rule
  isOnchange : Bool

def RuleExecution.key (execution : RuleExecution) : ExecutionKey :=
  ⟨execution.idx, execution.version, execution.rule, execution.isOnchange⟩

def CompletedExecution.key (completed : CompletedExecution) : ExecutionKey :=
  ⟨completed.idx, completed.version, completed.rule, completed.isOnchange⟩

theorem key_serve (live : LiveState) (reply : ∀ request : RuleRequest, request.Reply)
    (execution : RuleExecution) : (execution.serve live reply).key = execution.key := by
  obtain ⟨_, _, _, _, program, _⟩ := execution
  cases program <;> rfl

theorem map_key_modify (live : LiveState) (reply : ∀ request : RuleRequest, request.Reply)
    (executions : List RuleExecution) (index : Nat) :
    (executions.modify index (serve live reply)).map key = executions.map key := by
  refine List.ext_getElem? fun position => ?_
  rw [List.getElem?_map, List.getElem?_map, List.getElem?_modify]
  cases executions[position]? with
  | none => rfl
  | some =>
    by_cases here : index = position
    · simp [here, key_serve]
    · simp [here]

def dueKeys (kind : PassKind) (now : Instant) (snapshot : Values) (version : Nat)
    (rules : List ScheduledRule) : List ExecutionKey :=
  (rules.zipIdx.filter fun entry => kind.isDue snapshot now entry.1).map fun entry =>
    ⟨entry.2, version, entry.1.rule, entry.1.isOnchange⟩

theorem map_key_selectExecutions (executor : RuleExecutor) (kind : PassKind) (now : Instant)
    (snapshot : Values) (version : Nat) (rules : List ScheduledRule) :
    (selectExecutions executor kind now snapshot version rules).map key =
      dueKeys kind now snapshot version rules := by
  simp only [selectExecutions, dueKeys, List.map_map]
  rfl

/-- An execution that returned, all of whose reads saw the live state. -/
structure Returned (executor : RuleExecutor) (live : LiveState) (snapshot : Values)
    (completed : CompletedExecution) : Prop where
  runs : (executor.execute completed.rule).Runs completed.trace (.ok completed.result)
  reads : ∀ context instanceId instanceType pointId reply,
    (⟨.getInstance context instanceId instanceType pointId, reply⟩ : Exchange RuleRequest.Reply) ∈
      completed.trace → reply = live instanceId instanceType pointId
  sampled : completed.snapshot = snapshot

theorem exists_of_mem_mapM {α β : Type} {compute : α → Option β} {values : List α}
    {results : List β} (computed : values.mapM compute = some results) {result : β}
    (member : result ∈ results) : ∃ value ∈ values, compute value = some result := by
  induction values generalizing results with
  | nil =>
    cases computed
    cases member
  | cons value _ ih =>
    rw [List.mapM_cons] at computed
    obtain ⟨_, firstComputed, computed⟩ := Option.bind_eq_some_iff.mp computed
    obtain ⟨_, othersComputed, computed⟩ := Option.bind_eq_some_iff.mp computed
    cases computed
    obtain rfl | member := List.mem_cons.mp member
    · exact ⟨value, List.mem_cons_self, firstComputed⟩
    · obtain ⟨source, listed, found⟩ := ih othersComputed member
      exact ⟨source, List.mem_cons_of_mem _ listed, found⟩

theorem completed_key (returned : execution.completed snapshot = some completed) :
    completed.key = execution.key ∧ completed.snapshot = snapshot := by
  obtain ⟨_, _, _, _, program, _⟩ := execution
  cases program with
  | done =>
    cases returned
    exact ⟨rfl, rfl⟩
  | fail impossible => cases impossible
  | ask => cases returned

theorem map_key_of_mapM {executions : List RuleExecution} {completed : List CompletedExecution}
    (returned : executions.mapM (RuleExecution.completed · snapshot) = some completed) :
    completed.map CompletedExecution.key = executions.map key := by
  induction executions generalizing completed with
  | nil =>
    cases returned
    rfl
  | cons _ _ ih =>
    rw [List.mapM_cons] at returned
    obtain ⟨_, firstReturned, returned⟩ := Option.bind_eq_some_iff.mp returned
    obtain ⟨_, othersReturned, returned⟩ := Option.bind_eq_some_iff.mp returned
    cases returned
    rw [List.map_cons, List.map_cons, (completed_key firstReturned).1, ih othersReturned]

theorem map_idx_eq (completed : List CompletedExecution) : completed.map CompletedExecution.idx =
      (completed.map CompletedExecution.key).map ExecutionKey.idx := by
  rw [List.map_map]
  rfl

theorem returned_of_completed (progress : InProgress executor live execution)
    (returned : execution.completed snapshot = some completed) :
    Returned executor live snapshot completed := by
  obtain ⟨_, _, _, _, program, _⟩ := execution
  obtain ⟨after, reads⟩ := progress
  cases program with
  | done =>
    cases returned
    refine ⟨?_, reads, rfl⟩
    simpa using after.runs ⟨rfl, rfl⟩
  | fail impossible => cases impossible
  | ask => cases returned

theorem recordValues_apply (snapshot pointValues : Values) (refs : List PointRef) (values : Values)
    (key : String) :
    recordValues snapshot pointValues refs values key =
      if key ∈ refs.map PointRef.cacheKey then observedValue snapshot pointValues key <|> values key
      else values key := by
  induction refs generalizing values with
  | nil => rfl
  | cons ref _ ih =>
    simp only [recordValues, List.foldl_cons] at ih ⊢
    rw [ih]
    by_cases here : key = ref.cacheKey
    · subst here
      cases observedValue snapshot pointValues ref.cacheKey <;> simp [Values.insert]
    · cases observedValue snapshot pointValues ref.cacheKey <;> simp [Values.insert, here]

section

variable (scheduled : ScheduledRule) (now : Instant) (snapshot : Values) (update : TimestampUpdate)

theorem record_rule : (scheduled.record now snapshot update).rule = scheduled.rule := rfl

theorem record_trigger :
    (scheduled.record now snapshot update).trigger = scheduled.trigger := rfl

theorem record_lastValue (member : ref ∈ scheduled.pointRefs) :
    (scheduled.record now snapshot update).onchangeState.lastValue ref.cacheKey =
      if update.isOnchange then
        observedValue snapshot update.pointValues ref.cacheKey <|>
          scheduled.onchangeState.lastValue ref.cacheKey
      else scheduled.onchangeState.lastValue ref.cacheKey := by
  have onchange : scheduled.isOnchange = true := by
    cases trigger : scheduled.trigger with
    | interval => simp [ScheduledRule.pointRefs, trigger] at member
    | onChange => simp [ScheduledRule.isOnchange, trigger]
  cases mine : update.isOnchange with
  | false => simp [ScheduledRule.record, mine]
  | true =>
    simp only [ScheduledRule.record, mine, onchange, Bool.and_self, if_true]
    rw [recordValues_apply, if_pos (List.mem_map_of_mem member)]

end

theorem getElem?_applyUpdate (now : Instant) (snapshot : Values) (rules : List ScheduledRule)
    (update : TimestampUpdate) (idx : Nat) :
    (applyUpdate now snapshot rules update)[idx]? = rules[idx]?.map fun scheduled =>
      if update.idx = idx ∧ scheduled.rule.id = update.ruleId then
        scheduled.record now snapshot update
      else scheduled := by
  rw [applyUpdate, List.getElem?_modify]
  cases rules[idx]? with
  | none => rfl
  | some =>
    by_cases here : update.idx = idx
    · simp [here]
    · simp [here]

section

variable (executor)

/-- The effects of a step, with what it found. -/
inductive StepEffect (state : SchedulerState) : SchedulerInput → SchedulerState → Prop
  | updateLive (live : LiveState) :
      StepEffect state (.updateLive live) { state with live }
  | reload (rows : List (Rule × Option TriggerConfig)) :
      StepEffect state (.reload rows)
        { state with rules := rows.map ScheduledRule.load, loads := state.loads + 1 }
  | begin_ (kind : PassKind) (now : Instant) (idle : state.pass = none) :
      StepEffect state (.begin_ kind now)
        { state with pass := some ⟨kind, now, .sampling (kind.subscriptions state.rules) .empty⟩ }
  | sample {kind : PassKind} {now : Instant} {remaining : List PointRef} {snapshot : Values}
      {index : Nat} {ref : PointRef}
      (passing : state.pass = some ⟨kind, now, .sampling remaining snapshot⟩)
      (next : remaining[index]? = some ref) :
      StepEffect state (.sample index)
        { state with
          pass := some ⟨kind, now, .sampling (remaining.eraseIdx index)
            (Function.update snapshot ref.cacheKey (state.live.sample ref))⟩ }
  | select {kind : PassKind} {now : Instant} {snapshot : Values}
      (passing : state.pass = some ⟨kind, now, .sampling [] snapshot⟩) :
      StepEffect state .select
        { state with
          pass := some ⟨kind, now, .executing snapshot
            (selectExecutions executor kind now snapshot state.loads state.rules)⟩ }
  | serve {kind : PassKind} {now : Instant} {snapshot : Values} {executions : List RuleExecution}
      (index : Nat) (reply : ∀ request : RuleRequest, request.Reply)
      (passing : state.pass = some ⟨kind, now, .executing snapshot executions⟩) :
      StepEffect state (.serve index reply)
        { state with
          pass := some ⟨kind, now, .executing snapshot
            (executions.modify index (RuleExecution.serve state.live reply))⟩ }
  | record {kind : PassKind} {now : Instant} {snapshot : Values} {executions : List RuleExecution}
      {completed : List CompletedExecution}
      (passing : state.pass = some ⟨kind, now, .executing snapshot executions⟩)
      (returned : executions.mapM (RuleExecution.completed · snapshot) = some completed) :
      StepEffect state .record
        { state with
          rules := completed.foldl (fun rules execution =>
            applyUpdate now snapshot rules execution.update) state.rules
          pass := none
          history := state.history ++ completed }
  | nothing (input : SchedulerInput) : StepEffect state input state

theorem passEffect {state : SchedulerState} {pass : Pass}
    (passing : state.pass = some pass) (input : SchedulerInput) :
    StepEffect executor state input (pass.step executor state input) := by
  obtain ⟨_, _, phase⟩ := pass
  cases input with
  | updateLive | reload | begin_ => exact .nothing _
  | sample index =>
    cases phase with
    | sampling remaining =>
      cases next : remaining[index]? with
      | none =>
        simp only [Pass.step, next]
        exact .nothing _
      | some =>
        simp only [Pass.step, next]
        exact .sample passing next
    | executing => exact .nothing _
  | select =>
    cases phase with
    | sampling remaining =>
      cases remaining with
      | nil => exact .select passing
      | cons => exact .nothing _
    | executing => exact .nothing _
  | serve index reply =>
    cases phase with
    | sampling => exact .nothing _
    | executing => exact .serve index reply passing
  | record =>
    cases phase with
    | sampling => exact .nothing _
    | executing snapshot executions =>
      cases returned : executions.mapM (RuleExecution.completed · snapshot) with
      | none =>
        simp only [Pass.step, returned]
        exact .nothing _
      | some =>
        simp only [Pass.step, returned]
        exact .record passing returned

theorem stepEffect (state : SchedulerState) (input : SchedulerInput) :
    StepEffect executor state input (schedulerStep executor state input) := by
  cases input with
  | updateLive live => exact .updateLive live
  | reload rows => exact .reload rows
  | begin_ kind now =>
    cases idle : state.pass with
    | some =>
      simp only [schedulerStep, idle]
      exact .nothing _
    | none =>
      simp only [schedulerStep, idle]
      exact .begin_ kind now idle
  | sample | select | serve | record =>
    cases passing : state.pass with
    | none =>
      simp only [schedulerStep, passing]
      exact .nothing _
    | some =>
      simp only [schedulerStep, passing]
      exact passEffect executor passing _

def SchedulerInput.IsPassStep : SchedulerInput → Prop
  | .sample _ | .select | .serve _ _ | .record => True
  | _ => False

/-- The states of a pass that nothing disturbs. -/
inductive PassState (start : SchedulerState) (kind : PassKind)
    (now : Instant) : SchedulerState → Prop
  | sampling {remaining : List PointRef} {snapshot : Values}
      (sampled : Sampled start.live (kind.subscriptions start.rules) remaining snapshot) :
      PassState start kind now
        { start with pass := some ⟨kind, now, .sampling remaining snapshot⟩ }
  | executing {snapshot : Values} {executions : List RuleExecution}
      (sampled : Sampled start.live (kind.subscriptions start.rules) [] snapshot)
      (keys : executions.map key = dueKeys kind now snapshot start.loads start.rules)
      (progress : ∀ execution ∈ executions, InProgress executor start.live execution) :
      PassState start kind now
        { start with pass := some ⟨kind, now, .executing snapshot executions⟩ }
  | recorded {snapshot : Values} {completed : List CompletedExecution}
      (sampled : Sampled start.live (kind.subscriptions start.rules) [] snapshot)
      (keys : completed.map CompletedExecution.key =
        dueKeys kind now snapshot start.loads start.rules)
      (returned : ∀ execution ∈ completed, Returned executor start.live snapshot execution) :
      PassState start kind now
        { start with
          rules := completed.foldl (fun rules execution =>
            applyUpdate now snapshot rules execution.update) start.rules
          pass := none
          history := start.history ++ completed }

end

theorem passState_step {state : SchedulerState} {now : Instant}
    (passing : PassState executor start kind now state) {input : SchedulerInput}
    (isStep : input.IsPassStep) :
    PassState executor start kind now (schedulerStep executor state input) := by
  cases passing with
  | @sampling remaining _ sampled =>
    cases input with
    | sample =>
      simp only [schedulerStep, Pass.step]
      split
      · rename_i next
        exact .sampling (sampled.sample next)
      · exact .sampling sampled
    | select =>
      cases remaining with
      | nil =>
        refine .executing sampled (map_key_selectExecutions ..) ?_
        intro execution selected
        obtain ⟨_, -, rfl⟩ := List.mem_map.mp selected
        exact ⟨.start, by simp⟩
      | cons => exact .sampling sampled
    | serve | record => exact .sampling sampled
    | updateLive | reload | begin_ => cases isStep
  | @executing _ _ sampled keys progress =>
    cases input with
    | sample | select => exact .executing sampled keys progress
    | serve _ reply =>
      refine .executing sampled ((map_key_modify ..).trans keys) ?_
      exact forall_mem_modify (fun _ going => going.serve reply) progress
    | record =>
      simp only [schedulerStep, Pass.step]
      split
      · rename_i all
        refine .recorded sampled ((map_key_of_mapM all).trans keys) fun execution member => ?_
        obtain ⟨source, listed, returned⟩ := exists_of_mem_mapM all member
        exact returned_of_completed (progress source listed) returned
      · exact .executing sampled keys progress
    | updateLive | reload | begin_ => cases isStep
  | @recorded _ _ sampled keys returned =>
    cases input with
    | sample | select | serve | record => exact .recorded sampled keys returned
    | updateLive | reload | begin_ => cases isStep

/-- A pass from an idle scheduler, as long as only its own steps are taken. -/
theorem passState_run (executor : RuleExecutor) (idle : start.pass = none) (kind : PassKind)
    (now : Instant) {inputs : List SchedulerInput} (steps : ∀ input ∈ inputs, input.IsPassStep) :
    PassState executor start kind now
      (run (schedulerStep executor) start (.begin_ kind now :: inputs)) := by
  have began : PassState executor start kind now
      (schedulerStep executor start (.begin_ kind now)) := by
    simp only [schedulerStep, idle]
    exact .sampling (sampled_initial _ _ _)
  rw [run_cons]
  exact invariant_of_mem (fun state input member passing => passState_step passing (steps input member))
    began

end AetherIot.Rules
