import AetherIot.Rules.SchedulerPass

/-!
# Rules on change see the final values

The values that the scheduler remembers for a rule are those that its executions observed, as long as
the rules are not reloaded within a pass.  A rule that is not due therefore saw the current values.
-/

namespace AetherIot.Rules

open Interaction GuardedRun CompletedExecution

def CompletedExecution.observed (completed : CompletedExecution) (key : String) : Option UInt64 :=
  observedValue completed.snapshot completed.result.pointValues key

/-- The value of a point that the executions of one version of a rule recorded last. -/
def lastRecorded (history : List CompletedExecution) (version idx : Nat) (key : String) :
    Option UInt64 :=
  history.foldl (fun known completed =>
    if completed.version = version ∧ completed.idx = idx ∧ completed.isOnchange then
      completed.observed key <|> known
    else known) none

theorem lastRecorded_snoc (history : List CompletedExecution) (completed : CompletedExecution)
    (version idx : Nat) (key : String) :
    lastRecorded (history ++ [completed]) version idx key =
      if completed.version = version ∧ completed.idx = idx ∧ completed.isOnchange then
        completed.observed key <|> lastRecorded history version idx key
      else lastRecorded history version idx key := by
  simp only [lastRecorded, List.foldl_append, List.foldl_cons, List.foldl_nil]

variable {history completed : List CompletedExecution} {version idx : Nat}
  {rules : List ScheduledRule} {key : ExecutionKey} {state : SchedulerState} {kind : PassKind}
  {now : Instant} {snapshot : Values} {pass : Pass} {executor : RuleExecutor} {live : LiveState}
  {ref : PointRef} {value : UInt64} {refs : List PointRef} {scheduled : ScheduledRule}

/-- Executions of other rules or other versions are not remembered. -/
theorem lastRecorded_append {key : String} (others : ∀ execution ∈ completed,
      execution.version = version → execution.idx ≠ idx) :
    lastRecorded (history ++ completed) version idx key = lastRecorded history version idx key := by
  induction completed using List.reverseRecOn with
  | nil => rw [List.append_nil]
  | append_singleton _ execution ih =>
    rw [← List.append_assoc, lastRecorded_snoc,
      if_neg (fun same => others execution (by simp) same.1 same.2.1)]
    exact ih fun other member => others other (List.mem_append_left _ member)

def Remembers (rules : List ScheduledRule) (history : List CompletedExecution) (version : Nat) :
    Prop :=
  ∀ idx scheduled, rules[idx]? = some scheduled → ∀ ref ∈ scheduled.pointRefs,
    scheduled.onchangeState.lastValue ref.cacheKey = lastRecorded history version idx ref.cacheKey

/-- The rule of an execution is still loaded. -/
def Loaded (rules : List ScheduledRule) (key : ExecutionKey) : Prop :=
  ∃ scheduled, rules[key.idx]? = some scheduled ∧ scheduled.rule.id = key.rule.id ∧
    scheduled.isOnchange = key.isOnchange

theorem loaded_applyUpdate (loaded : Loaded rules key) (now : Instant) (snapshot : Values)
    (update : TimestampUpdate) :
    Loaded (applyUpdate now snapshot rules update) key := by
  obtain ⟨_, found, sameId, sameKind⟩ := loaded
  refine ⟨_, by rw [getElem?_applyUpdate, found, Option.map_some], ?_, ?_⟩
  · split
    · exact sameId
    · exact sameId
  · split
    · exact sameKind
    · exact sameKind

theorem remembers_applyUpdate (remembers : Remembers rules history version)
    {completed : CompletedExecution} (current : completed.version = version)
    (loaded : Loaded rules completed.key) (now : Instant) :
    Remembers (applyUpdate now completed.snapshot rules completed.update)
      (history ++ [completed]) version := by
  intro idx _ found ref member
  rw [getElem?_applyUpdate] at found
  obtain ⟨before, beforeFound, rfl⟩ := Option.map_eq_some_iff.mp found
  have known (member : ref ∈ before.pointRefs) := remembers idx before beforeFound ref member
  rw [lastRecorded_snoc]
  by_cases here : completed.idx = idx
  · obtain ⟨other, otherFound, sameId, _⟩ := loaded
    have same : other = before := by
      rw [show completed.key.idx = idx from here] at otherFound
      exact Option.some.inj (otherFound.symm.trans beforeFound)
    subst same
    have updated : completed.update.idx = idx ∧ other.rule.id = completed.update.ruleId :=
      ⟨here, sameId⟩
    rw [if_pos updated] at member ⊢
    have member : ref ∈ other.pointRefs := member
    rw [record_lastValue _ _ _ _ member, known member]
    cases mine : completed.isOnchange with
    | false => simp [update, mine]
    | true => simp [update, mine, current, here, observed]
  · have elsewhere : ¬ (completed.update.idx = idx ∧ before.rule.id = completed.update.ruleId) :=
      fun both => here both.1
    rw [if_neg elsewhere] at member ⊢
    rw [if_neg (fun both => here both.2.1)]
    exact known member

theorem remembers_record (now : Instant) (snapshot : Values)
    (remembers : Remembers rules history version)
    (current : ∀ execution ∈ completed, execution.version = version)
    (sampled : ∀ execution ∈ completed, execution.snapshot = snapshot)
    (loaded : ∀ execution ∈ completed, Loaded rules execution.key) :
    Remembers (completed.foldl (fun rules execution =>
      applyUpdate now snapshot rules execution.update) rules) (history ++ completed) version := by
  induction completed generalizing rules history with
  | nil => simpa using remembers
  | cons execution _ ih =>
    have first := remembers_applyUpdate remembers (current execution List.mem_cons_self)
      (loaded execution List.mem_cons_self) now
    rw [sampled execution List.mem_cons_self] at first
    have later := ih first (fun other member => current other (List.mem_cons_of_mem _ member))
      (fun other member => sampled other (List.mem_cons_of_mem _ member))
      fun other member =>
        loaded_applyUpdate (loaded other (List.mem_cons_of_mem _ member)) now snapshot _
    simpa using later

/-- The state of a scheduler whose rules are not reloaded within a pass. -/
structure Coherent (state : SchedulerState) : Prop where
  versions : ∀ completed ∈ state.history, completed.version ≤ state.loads
  remembers : Remembers state.rules state.history state.loads
  loaded : ∀ pass snapshot executions, state.pass = some pass →
    pass.phase = .executing snapshot executions → ∀ execution ∈ executions,
      execution.version = state.loads ∧ Loaded state.rules execution.key

theorem coherent_initial (live : LiveState) : Coherent (.initial live) where
  versions := by simp [SchedulerState.initial]
  remembers := by simp [Remembers, SchedulerState.initial]
  loaded := by simp [SchedulerState.initial]

/-- The rules are reloaded between passes only. -/
def ReloadsIdle (state : SchedulerState) (input : SchedulerInput) : Prop :=
  ∀ rows, input = .reload rows → state.pass = none

theorem coherent_reload (coherent : Coherent state) (idle : state.pass = none)
    (rows : List (Rule × Option TriggerConfig)) :
    Coherent { state with rules := rows.map ScheduledRule.load, loads := state.loads + 1 } where
  versions := fun completed member => Nat.le_succ_of_le (coherent.versions completed member)
  remembers := by
    intro _ _ found _ _
    rw [← List.nil_append state.history, lastRecorded_append fun completed member current =>
      absurd (current ▸ coherent.versions completed member) (Nat.not_succ_le_self _)]
    rw [List.getElem?_map] at found
    obtain ⟨_, -, rfl⟩ := Option.map_eq_some_iff.mp found
    rfl
  loaded := by simp [idle]

/-- The rules stay as they are until a pass records. -/
theorem coherent_setPhase (coherent : Coherent state) (pass : Pass)
    (loaded : ∀ snapshot executions, pass.phase = .executing snapshot executions →
      ∀ execution ∈ executions, execution.version = state.loads ∧ Loaded state.rules execution.key) :
    Coherent { state with pass := some pass } where
  versions := coherent.versions
  remembers := coherent.remembers
  loaded := by
    rintro _ snapshot executions ⟨⟩ executing
    exact loaded snapshot executions executing

theorem loaded_of_mem_dueKeys (due : key ∈ dueKeys kind now snapshot version rules) :
    key.version = version ∧ Loaded rules key := by
  obtain ⟨⟨scheduled, _⟩, selected, rfl⟩ := List.mem_map.mp due
  have found := List.mem_zipIdx_iff_getElem?.mp (List.mem_filter.mp selected).1
  exact ⟨rfl, scheduled, found, rfl, rfl⟩

theorem coherent_record (coherent : Coherent state) (passing : state.pass = some pass)
    {executions : List RuleExecution} (executing : pass.phase = .executing snapshot executions)
    (returned : executions.mapM (RuleExecution.completed · snapshot) = some completed) :
    Coherent { state with
      rules := completed.foldl (fun rules execution =>
        applyUpdate pass.now snapshot rules execution.update) state.rules
      pass := none
      history := state.history ++ completed } := by
  have facts : ∀ execution ∈ completed, execution.version = state.loads ∧
      execution.snapshot = snapshot ∧ Loaded state.rules execution.key := by
    intro execution member
    obtain ⟨source, listed, found⟩ := exists_of_mem_mapM returned member
    obtain ⟨sameKey, sameSnapshot⟩ := completed_key found
    obtain ⟨current, loaded⟩ := coherent.loaded pass snapshot executions passing executing source
      listed
    refine ⟨?_, sameSnapshot, sameKey ▸ loaded⟩
    exact (congrArg ExecutionKey.version sameKey).trans current
  refine ⟨?_, ?_, by simp⟩
  · intro execution member
    obtain member | member := List.mem_append.mp member
    · exact coherent.versions execution member
    · exact (facts execution member).1.le
  · exact remembers_record pass.now snapshot coherent.remembers
      (fun execution member => (facts execution member).1)
      (fun execution member => (facts execution member).2.1)
      fun execution member => (facts execution member).2.2

theorem coherent_step (coherent : Coherent state) {input : SchedulerInput}
    (idle : ReloadsIdle state input) :
    Coherent (schedulerStep executor state input) := by
  have effect := stepEffect executor state input
  generalize schedulerStep executor state input = next at effect ⊢
  cases effect with
  | updateLive => exact ⟨coherent.versions, coherent.remembers, coherent.loaded⟩
  | reload rows => exact coherent_reload coherent (idle rows rfl) rows
  | begin_ | sample => exact coherent_setPhase coherent _ (by simp)
  | select =>
    refine coherent_setPhase coherent _ fun _ _ executing execution member => ?_
    cases executing
    have selected := List.mem_map_of_mem (f := RuleExecution.key) member
    rw [map_key_selectExecutions] at selected
    exact loaded_of_mem_dueKeys selected
  | serve _ reply passing =>
    refine coherent_setPhase coherent _ fun _ _ same => ?_
    cases same
    refine forall_mem_modify (fun execution holds => ?_) (coherent.loaded _ _ _ passing rfl)
    have sameKey := key_serve state.live reply execution
    exact ⟨(congrArg ExecutionKey.version sameKey).trans holds.1, sameKey ▸ holds.2⟩
  | record passing returned => exact coherent_record coherent passing rfl returned
  | nothing => exact coherent

/-- An execution whose reads of the points all returned the sampled values. -/
def ReadsFinal (live : LiveState) (refs : List PointRef) (completed : CompletedExecution) : Prop :=
  ∀ ref ∈ refs, ∀ context reply,
    (⟨.getInstance context ref.instance_ ref.instanceType ref.point, reply⟩ :
      Exchange RuleRequest.Reply) ∈ completed.trace →
      reply.map Prod.fst = live.sample ref

/-- The loaded version of a rule was executed with the final values, or its executions recorded
them. -/
def FinalSeen (state : SchedulerState) (idx : Nat) (refs : List PointRef) : Prop :=
  (∃ completed ∈ state.history, completed.version = state.loads ∧ completed.idx = idx ∧
    ReadsFinal state.live refs completed) ∨
  ∀ ref ∈ refs, lastRecorded state.history state.loads idx ref.cacheKey = state.live.sample ref

/-- A tick that begins with its gates open, and during which nothing changes. -/
structure OpenTick (executor : RuleExecutor) (start : SchedulerState) (now : Instant)
    (steps : List SchedulerInput) (idx : Nat) (scheduled : ScheduledRule) (refs : List PointRef)
    (timeDeadbandMs : Option UInt64) : Prop where
  idle : start.pass = none
  onlySteps : ∀ input ∈ steps, input.IsPassStep
  ended : (run (schedulerStep executor) start (.begin_ .tick now :: steps)).pass = none
  found : start.rules[idx]? = some scheduled
  enabled : scheduled.rule.enabled = true
  trigger : scheduled.trigger = .onChange refs timeDeadbandMs none
  timeGate : timeGateOpen scheduled.onchangeState timeDeadbandMs now = true
  cooldown : scheduled.cooldownOk now = true
  finite : ∀ ref ∈ refs, (start.live.sample ref).isSome

theorem sample_finite (sampled : live.sample ref = some value) : Float64.isFinite value = true := by
  simp only [LiveState.sample, Option.filter_eq_some_iff] at sampled
  exact sampled.2

/-- Undisturbed reads of points with finite values return these. -/
theorem readsFinal_of_returned {completed : CompletedExecution}
    (returned : Returned executor live snapshot completed)
    (finite : ∀ ref ∈ refs, (live.sample ref).isSome) :
    ReadsFinal live refs completed := by
  intro ref member _ _ asked
  rw [returned.reads _ _ _ _ _ asked]
  obtain ⟨_, sampled⟩ := Option.isSome_iff_exists.mp (finite ref member)
  have known := sampled
  simp only [LiveState.sample, Option.filter_eq_some_iff] at known
  rw [sampled, known.1]

theorem mem_dueKeys (version : Nat) (found : rules[idx]? = some scheduled)
    (due : kind.isDue snapshot now scheduled = true) :
    (⟨idx, version, scheduled.rule, scheduled.isOnchange⟩ : ExecutionKey) ∈
      dueKeys kind now snapshot version rules := by
  refine List.mem_map.mpr ⟨(scheduled, idx), ?_, rfl⟩
  exact List.mem_filter.mpr ⟨List.mem_zipIdx_iff_getElem?.mpr found, due⟩

theorem isDue_of_mem_dueKeys (member : key ∈ dueKeys kind now snapshot version rules) :
    ∃ scheduled, rules[key.idx]? = some scheduled ∧ kind.isDue snapshot now scheduled = true := by
  obtain ⟨⟨scheduled, _⟩, selected, rfl⟩ := List.mem_map.mp member
  obtain ⟨listed, due⟩ := List.mem_filter.mp selected
  exact ⟨scheduled, List.mem_zipIdx_iff_getElem?.mp listed, due⟩

theorem lastValue_of_not_due {timeDeadbandMs : Option UInt64}
    (enabled : scheduled.rule.enabled = true)
    (trigger : scheduled.trigger = .onChange refs timeDeadbandMs none)
    (timeGate : timeGateOpen scheduled.onchangeState timeDeadbandMs now = true)
    (cooldown : scheduled.cooldownOk now = true)
    (notDue : ¬ PassKind.tick.isDue snapshot now scheduled = true) (member : ref ∈ refs)
    (sampled : snapshot ref.cacheKey = some value) (finite : Float64.isFinite value = true) :
    scheduled.onchangeState.lastValue ref.cacheKey = some value := by
  simp only [PassKind.isDue, PassKind.covers, enabled, cooldown, ScheduledRule.shouldExecute,
    trigger, shouldTriggerOnchange, timeGate, Bool.and_self, Bool.true_and, Bool.and_true,
    List.any_eq_true, not_exists, not_and] at notDue
  have unchanged := notDue ref member
  simp only [pointChanged, sampled, Option.filter_some, finite, if_true] at unchanged
  cases known : scheduled.onchangeState.lastValue ref.cacheKey with
  | none => simp [known] at unchanged
  | some =>
    simp only [known, isChange, ne_eq, decide_not, Bool.not_eq_true', decide_eq_false_iff_not,
      not_not] at unchanged
    rw [unchanged]

/-- A point, a live state in which all points have a value, and a rule that only reaches the end. -/
def watchedPoint : PointRef := ⟨1, .measurement, 7⟩

def settledLive : LiveState := fun _ _ _ => some (0, 0)

def plainFlow (finish : String) : RuleFlow where
  startNode := "start"
  nodes := fun id =>
    if id = "start" then some (.start [finish]) else if id = finish then some .end_ else none

def watchingRow (finish : String) : Rule × Option TriggerConfig :=
  (⟨1, "watching", true, 0, plainFlow finish⟩, some (.onChange [watchedPoint] none none))

def acceptAll : ∀ request : RuleRequest, request.Reply
  | .beginExecution => ⟨none⟩
  | .visit _ => ()
  | .getInstance _ _ _ _ => none
  | .evaluateFormula _ _ | .calculate _ _ _ | .periodDelta _ _ _ => .ok 0
  | .writeAction _ => .ok ()

/-- The steps of a pass that executes one rule. -/
def executingSteps : List SchedulerInput :=
  [.sample 0, .select, .serve 0 acceptAll, .serve 0 acceptAll, .serve 0 acceptAll, .record]

end AetherIot.Rules
