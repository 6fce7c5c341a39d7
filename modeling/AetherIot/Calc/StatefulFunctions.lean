import AetherIot.Foundation.Float64
import AetherIot.Foundation.GuardedRun

/-!
# Stateful functions of formulas

A call of a stateful function reads the state of its variable, computes a value and stores the next
state.  States are stored as JSON, which has no text for a number that is not finite: such a number
is stored as null, and a state with a null is refused when it is read.
-/

namespace AetherIot.Calc

open GuardedRun Float64

/-- The surroundings of a calculation: the arithmetic of its numbers, the starts of periods, and the
reason for which a null is refused. -/
structure CalcHost (F : Type) where
  add : F → F → F
  sub : F → F → F
  mul : F → F → F
  div : F → F → F
  lt : F → F → Bool
  le : F → F → Bool
  ofInt : Int → F
  nan : F
  isFinite : F → Bool
  finite_ofInt : ∀ value, isFinite (ofInt value) = true
  periodStart : Int → String → Int
  refusal : String

variable {F : Type}

structure IntegrateState (F : Type) where
  lastTs : F
  accumulated : F

structure MovingAvgState (F : Type) where
  values : List F
  position : Nat
  count : Nat

structure RateOfChangeState (F : Type) where
  lastTs : F
  lastValue : F

structure PeriodDeltaState (F : Type) where
  snapshot : F
  periodStartTs : Int

inductive CalcFunction where
  | integrate
  | movingAvg
  | rate
  | periodDelta
  deriving DecidableEq

namespace CalcFunction

abbrev State (F : Type) : CalcFunction → Type
  | integrate => IntegrateState F
  | movingAvg => MovingAvgState F
  | rate => RateOfChangeState F
  | periodDelta => PeriodDeltaState F

/-- The numbers of a state. -/
def numbers : (function : CalcFunction) → function.State F → List F
  | integrate, state => [state.lastTs, state.accumulated]
  | movingAvg, state => state.values
  | rate, state => [state.lastTs, state.lastValue]
  | periodDelta, state => [state.snapshot]

end CalcFunction

/-- The key of a state in one context. -/
structure StateKey where
  function : CalcFunction
  variable_ : String
  deriving DecidableEq

abbrev StateStore (F : Type) : Type := (key : StateKey) → Option (key.function.State F)

inductive CalcError where
  | state (detail : String)
  | function (detail : String)

variable (host : CalcHost F)

namespace MovingAvgState

def new (windowSize : Nat) : MovingAvgState F :=
  ⟨List.replicate (max windowSize 1) (host.ofInt 0), 0, 0⟩

def average (state : MovingAvgState F) : F :=
  if state.count = 0 ∨ state.values = [] then host.ofInt 0
  else
    let take := min state.count state.values.length
    host.div ((state.values.take take).foldl host.add (host.ofInt 0)) (host.ofInt take)

/-- Replace the oldest value. -/
def add (state : MovingAvgState F) (value : F) : MovingAvgState F × F :=
  let state := if state.values = [] then ⟨[host.ofInt 0], 0, 0⟩ else state
  let position := state.position % state.values.length
  let count := if state.count < state.values.length then state.count + 1 else state.count
  let next : MovingAvgState F :=
    ⟨state.values.set position value, (position + 1) % state.values.length, count⟩
  (next, next.average host)

end MovingAvgState

/-- The state that a call stores, if any, and its value. -/
def integrate (now : Int) (value unitFactor : F) :
    Option (IntegrateState F) → Option (IntegrateState F) × F
  | none => (some ⟨host.ofInt now, host.ofInt 0⟩, host.ofInt 0)
  | some state =>
    let dt := host.sub (host.ofInt now) state.lastTs
    if host.le dt (host.ofInt 0) then (none, state.accumulated)
    else
      let accumulated := host.add state.accumulated (host.mul (host.mul value dt) unitFactor)
      (some ⟨host.ofInt now, accumulated⟩, accumulated)

def movingAvg (value : F) (window : Nat) (stored : Option (MovingAvgState F)) :
    Option (MovingAvgState F) × F :=
  let state := (stored.filter (·.values.length = window)).getD (.new host window)
  let (next, average) := state.add host value
  (some next, average)

def rateOfChange (now : Int) (value : F) :
    Option (RateOfChangeState F) → Option (RateOfChangeState F) × F
  | none => (some ⟨host.ofInt now, value⟩, host.nan)
  | some state =>
    let dt := host.sub (host.ofInt now) state.lastTs
    (some ⟨host.ofInt now, value⟩,
      if host.lt (host.ofInt 0) dt then host.div (host.sub value state.lastValue) dt else host.nan)

def periodDelta (now : Int) (value : F) (period : String) :
    Option (PeriodDeltaState F) → Option (PeriodDeltaState F) × F
  | none => (some ⟨value, host.periodStart now period⟩, host.nan)
  | some state =>
    let start := host.periodStart now period
    let state := if state.periodStartTs < start then ⟨value, start⟩ else state
    let state := if host.lt value state.snapshot then { state with snapshot := value } else state
    (some state, host.sub value state.snapshot)

inductive StatefulCall (F : Type) where
  | integrate (variable_ : String) (value unitFactor : F)
  | movingAvg (variable_ : String) (value : F) (window : Nat)
  | rateOfChange (variable_ : String) (value : F)
  | periodDelta (variable_ : String) (value : F) (period : String)

namespace StatefulCall

def key : StatefulCall F → StateKey
  | integrate variable_ _ _ => ⟨.integrate, variable_⟩
  | movingAvg variable_ _ _ => ⟨.movingAvg, variable_⟩
  | rateOfChange variable_ _ => ⟨.rate, variable_⟩
  | periodDelta variable_ _ period => ⟨.periodDelta, variable_ ++ "_" ++ period⟩

def transition (now : Int) : (call : StatefulCall F) →
    Option (call.key.function.State F) → Option (call.key.function.State F) × F
  | integrate _ value unitFactor => Calc.integrate host now value unitFactor
  | movingAvg _ value window => Calc.movingAvg host value window
  | rateOfChange _ value => Calc.rateOfChange host now value
  | periodDelta _ value period => Calc.periodDelta host now value period

/-- A moving average over no value. -/
def IsEmptyWindow : StatefulCall F → Prop
  | movingAvg _ _ window => window = 0
  | _ => False

instance : (call : StatefulCall F) → Decidable call.IsEmptyWindow
  | movingAvg _ _ window => inferInstanceAs (Decidable (window = 0))
  | integrate .. | rateOfChange .. | periodDelta .. => inferInstanceAs (Decidable False)

end StatefulCall

open StatefulCall

section

variable (store : StateStore F) (key : StateKey)

/-- The numbers of the state of the key are finite. -/
def readable : Bool :=
  (store key).all fun state => (key.function.numbers state).all host.isFinite

/-- Read a state.  Null is not a number. -/
def load : Except CalcError (Option (key.function.State F)) :=
  if readable host store key then .ok (store key)
  else .error (.state ("Failed to deserialize state: " ++ host.refusal))

def execute (now : Int) (call : StatefulCall F) : StateStore F × Except CalcError F :=
  if call.IsEmptyWindow then
    (store, .error (.function "moving_avg: window must be >= 1 (got 0)"))
  else
    match load host store call.key with
    | .error failure => (store, .error failure)
    | .ok state =>
      let (written, value) := call.transition host now state
      (match written with
        | some next => Function.update store call.key (some next)
        | none => store, .ok value)

/-- The call is refused because of the state of its key. -/
def Refused (now : Int) (call : StatefulCall F) : Prop :=
  ∃ detail, (execute host store now call).2 = .error (.state detail)

/-- The numbers that the call stores are finite. -/
def KeepsFinite (now : Int) : StatefulCall F → Prop
  | .integrate variable_ value unitFactor =>
    ∀ state, store ⟨.integrate, variable_⟩ = some state →
      let dt := host.sub (host.ofInt now) state.lastTs
      host.le dt (host.ofInt 0) = false → host.isFinite
          (host.add state.accumulated (host.mul (host.mul value dt) unitFactor)) = true
  | .movingAvg _ value _ | .rateOfChange _ value => host.isFinite value = true
  | .periodDelta variable_ value period =>
    (∀ state, store ⟨.periodDelta, variable_ ++ "_" ++ period⟩ = some state →
      state.periodStartTs < host.periodStart now period ∨ host.lt value state.snapshot = true) →
      host.isFinite value = true

end

variable {host} {store : StateStore F} {now : Int} {call : StatefulCall F} {key : StateKey}

theorem refused_iff :
    Refused host store now call ↔ ¬ call.IsEmptyWindow ∧ readable host store call.key = false := by
  by_cases empty : call.IsEmptyWindow
  · simp [Refused, execute, empty]
  · cases read : readable host store call.key <;> simp [Refused, execute, load, empty, read]

/-- A moving average stores its value beside those that it has read. -/
theorem finite_add {state : MovingAvgState F} {value : F} (nonempty : state.values ≠ [])
    (finite : ∀ number ∈ state.values, host.isFinite number = true) :
    (∀ number ∈ (state.add host value).1.values, host.isFinite number = true) ↔
      host.isFinite value = true := by
  simp only [MovingAvgState.add, if_neg nonempty]
  have position : state.position % state.values.length < state.values.length :=
    Nat.mod_lt _ (List.length_pos_iff.mpr nonempty)
  constructor
  · exact fun stored => stored value (List.mem_set position value)
  · intro given number member
    obtain old | rfl := List.mem_or_eq_of_mem_set member
    · exact finite number old
    · exact given

theorem finite_start {window : Nat} (positive : 0 < window) {stored : Option (MovingAvgState F)}
    (finite : ∀ state, stored = some state → ∀ number ∈ state.values, host.isFinite number = true)
    {state : MovingAvgState F}
    (start : (stored.filter (·.values.length = window)).getD (.new host window) = state) :
    state.values ≠ [] ∧ ∀ number ∈ state.values, host.isFinite number = true := by
  rcases kept : stored.filter (·.values.length = window) with _ | found
  · rw [kept, Option.getD_none] at start
    subst start
    refine ⟨by simp [MovingAvgState.new], fun number member => ?_⟩
    rw [List.eq_of_mem_replicate member]
    exact host.finite_ofInt 0
  · rw [kept, Option.getD_some] at start
    subst start
    obtain ⟨present, length⟩ := Option.filter_eq_some_iff.mp kept
    have length : found.values.length = window := by simpa using length
    exact ⟨List.length_pos_iff.mp (length ▸ positive), finite found present⟩

/-- What a call stores is finite under the condition, if the state that it has read is. -/
theorem finite_transition (read : readable host store call.key = true)
    (window : ¬ call.IsEmptyWindow) :
    (∀ next, (call.transition host now (store call.key)).1 = some next →
      ∀ number ∈ call.key.function.numbers next, host.isFinite number = true) ↔
      KeepsFinite host store now call := by
  have clock := host.finite_ofInt now
  simp only [readable, Option.all_eq_true, List.all_eq_true] at read
  cases call with
  | integrate variable_ =>
    simp only [key, transition, KeepsFinite]
    cases present : store ⟨.integrate, variable_⟩ with
    | none => simp [integrate, CalcFunction.numbers, host.finite_ofInt]
    | some =>
      simp only [integrate]
      split <;> simp_all [CalcFunction.numbers]
  | movingAvg =>
    obtain ⟨nonempty, finite⟩ := finite_start (Nat.pos_of_ne_zero window) read rfl
    constructor
    · exact fun stored => (finite_add nonempty finite).mp (stored _ rfl)
    · intro given _ same
      cases same
      exact (finite_add nonempty finite).mpr given
  | rateOfChange variable_ =>
    simp only [key, transition, KeepsFinite]
    cases store ⟨.rate, variable_⟩ <;> simp [rateOfChange, CalcFunction.numbers, clock]
  | periodDelta variable_ _ period =>
    simp only [key, transition, KeepsFinite]
    cases present : store ⟨.periodDelta, variable_ ++ "_" ++ period⟩ with
    | none => simp [periodDelta, CalcFunction.numbers]
    | some state =>
      have finite : host.isFinite state.snapshot = true := read state present _ List.mem_cons_self
      simp only [periodDelta]
      split <;> split <;> simp_all [CalcFunction.numbers]

theorem readable_execute (read : readable host store call.key = true)
    (window : ¬ call.IsEmptyWindow) :
    readable host (execute host store now call).1 call.key = true ↔
      KeepsFinite host store now call := by
  rw [← finite_transition read window]
  simp only [execute, if_neg window, load, if_pos read]
  rcases stored : (call.transition host now (store call.key)).1 with _ | _
  · simpa using read
  · simp [readable]

/-- A call changes the state of its own key only. -/
theorem execute_of_ne (other : key ≠ call.key) : (execute host store now call).1 key = store key := by
  simp only [execute]
  split
  · rfl
  · split
    · rfl
    · split
      · exact Function.update_of_ne other _ _
      · rfl

/-- The store after a call at a time. -/
def perform (host : CalcHost F) (store : StateStore F) (call : Int × StatefulCall F) :
    StateStore F :=
  (execute host store call.1 call.2).1

theorem readable_perform {call : Int × StatefulCall F}
    (read : ∀ key, readable host store key = true) (finite : KeepsFinite host store call.1 call.2)
    (key : StateKey) : readable host (perform host store call) key = true := by
  by_cases own : key = call.2.key
  · subst own
    by_cases window : call.2.IsEmptyWindow
    · simpa [perform, execute, window] using read call.2.key
    · exact (readable_execute (read _) window).mpr finite
  · rw [readable, perform, execute_of_ne own]
    exact read key

/-- If all calls store finite numbers, then no call is refused because of a state.  The next calls
with the key of a call that has returned a value are accepted exactly if it has stored finite
numbers. -/
theorem calc_state_accepted_iff (host : CalcHost F) (calls : List (Int × StatefulCall F)) :
    (Guarded (perform host) (fun store call => KeepsFinite host store call.1 call.2)
      (fun _ => none) calls → ∀ now call,
        ¬ Refused host (run (perform host) (fun _ => none) calls) now call) ∧
    ∀ now call value,
      (execute host (run (perform host) (fun _ => none) calls) now call).2 = .ok value →
      ((∀ later next, next.key = call.key → ¬ Refused host
          (run (perform host) (fun _ => none) (calls ++ [(now, call)])) later next) ↔
        KeepsFinite host (run (perform host) (fun _ => none) calls) now call) := by
  constructor
  · intro guarded now call refused
    have preserved : ∀ (store : StateStore F) (call : Int × StatefulCall F),
        (∀ key, readable host store key = true) → KeepsFinite host store call.1 call.2 →
        ∀ key, readable host (perform host store call) key = true :=
      fun _ _ read finite => readable_perform read finite
    have read := invariant preserved (fun _ => rfl) guarded call.key
    simp [(refused_iff.mp refused).2] at read
  · intro now call _ evaluated
    rw [run_snoc]
    generalize run (perform host) (fun _ => none) calls = store at evaluated ⊢
    have window : ¬ call.IsEmptyWindow := fun empty => by simp [execute, empty] at evaluated
    have read : readable host store call.key = true := by
      by_contra unreadable
      simp [execute, window, load, unreadable] at evaluated
    rw [← readable_execute read window]
    constructor
    · intro accepted
      by_contra unreadable
      exact accepted now call rfl (refused_iff.mpr ⟨window, eq_false_of_ne_true unreadable⟩)
    · intro later _ _ same refused
      have unreadable := (refused_iff.mp refused).2
      rw [same] at unreadable
      simp [perform, later] at unreadable

/-- Doubles by their bits.  The first calls of functions need no arithmetic. -/
def firstCallHost : CalcHost UInt64 where
  add := fun _ _ => nan
  sub := fun _ _ => nan
  mul := fun _ _ => nan
  div := fun _ _ => nan
  lt := lt
  le := le
  ofInt := fun _ => 0
  nan := nan
  isFinite := isFinite
  finite_ofInt := fun _ => rfl
  periodStart := fun now _ => now
  refusal := "invalid type: null, expected f64"

/-- The first rate is not a number.  Its moving average is stored, and then refused for ever. -/
theorem calc_state_wedged :
    (execute firstCallHost (fun _ => none) 0 (.rateOfChange "power" 0)).2 = .ok nan ∧
    (execute firstCallHost (fun _ => none) 0 (.movingAvg "trend" nan 3)).2 = .ok nan ∧
    ∀ now, Refused firstCallHost
      (perform firstCallHost (fun _ => none) (0, .movingAvg "trend" nan 3)) now
      (.movingAvg "trend" 0 3) :=
  ⟨rfl, rfl, fun _ => ⟨_, rfl⟩⟩

end AetherIot.Calc
