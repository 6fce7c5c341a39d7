import Mathlib

/-!
# Programs that ask an environment

An interaction is a program that asks requests of its environment and continues with the replies.
Any number of calls may run over one shared state: each step serves the pending request of one call,
changes the shared state from outside, or loses all calls in a crash.  What a program asks after
which exchanges is a property of the program alone and holds of every call in every interleaving.
-/

/-- A program that returns, fails, or asks a request and continues with the reply. -/
inductive Interaction {ρ : Type} (Reply : ρ → Type) (ε α : Type) : Type
  | done (value : α)
  | fail (error : ε)
  | ask (request : ρ) (next : Reply request → Interaction Reply ε α)

abbrev Exchange {ρ : Type} (Reply : ρ → Type) : Type := Σ request, Reply request

namespace Interaction

variable {ρ : Type} {Reply : ρ → Type} {ε α β : Type}

/-- Continue with the value that a program returns. -/
def bind : Interaction Reply ε α → (α → Interaction Reply ε β) → Interaction Reply ε β
  | done value, next => next value
  | fail error, _ => fail error
  | ask request rest, next => ask request fun reply => (rest reply).bind next

instance : Monad (Interaction Reply ε) where
  pure := done
  bind := bind

def send (request : ρ) : Interaction Reply ε (Reply request) := ask request done

def ofExcept : Except ε α → Interaction Reply ε α
  | .ok value => done value
  | .error error => fail error

@[simp]
theorem done_bind (value : α) (next : α → Interaction Reply ε β) :
    (done value >>= next) = next value := rfl

theorem bind_bind {γ : Type} (program : Interaction Reply ε α) (next : α → Interaction Reply ε β)
    (later : β → Interaction Reply ε γ) :
    (program >>= next) >>= later = program >>= fun value => next value >>= later := by
  induction program with
  | done | fail => rfl
  | ask request _ ih => exact congrArg (ask request) (funext ih)

/-- Every request of the program is allowed. -/
def Uses (allowed : ρ → Prop) : Interaction Reply ε α → Prop
  | done _ => True
  | fail _ => True
  | ask request next => allowed request ∧ ∀ reply, (next reply).Uses allowed

/-- Every result of the program has the property. -/
def Returns (property : α → Prop) : Interaction Reply ε α → Prop
  | done value => property value
  | fail _ => True
  | ask _ next => ∀ reply, (next reply).Returns property

/-- Every request of the program is permitted after the exchanges that precede it. -/
def Always (permits : List (Exchange Reply) → ρ → Prop) :
    List (Exchange Reply) → Interaction Reply ε α → Prop
  | _, done _ => True
  | _, fail _ => True
  | history, ask request next => permits history request ∧
      ∀ reply, (next reply).Always permits (history ++ [⟨request, reply⟩])

variable {allowed : ρ → Prop} {permits : List (Exchange Reply) → ρ → Prop} {request : ρ}
  {next : α → Interaction Reply ε β} {history trace : List (Exchange Reply)}
  {program : Interaction Reply ε α} {result : Except ε α}

theorem always_send {next : Reply request → Interaction Reply ε β} :
    ((send request : Interaction Reply ε (Reply request)) >>= next).Always permits history ↔
      permits history request ∧
        ∀ reply, (next reply).Always permits (history ++ [⟨request, reply⟩]) := Iff.rfl

theorem returns_true (program : Interaction Reply ε α) : program.Returns fun _ => True := by
  induction program with
  | done | fail => trivial
  | ask _ _ ih => exact ih

theorem Returns.bind {property : α → Prop} {nextProperty : β → Prop}
    (returns : program.Returns property)
    (rest : ∀ value, property value → (next value).Returns nextProperty) :
    (program >>= next).Returns nextProperty := by
  induction program with
  | done value => exact rest value returns
  | fail => trivial
  | ask _ _ ih => exact fun reply => ih reply (returns reply)

/-- A continuation whose results have the property whatever it continues with. -/
theorem returns_bind {property : β → Prop} (rest : ∀ value, (next value).Returns property) :
    (program >>= next).Returns property :=
  (returns_true program).bind fun value _ => rest value

theorem uses_ofExcept (result : Except ε α) :
    (ofExcept result : Interaction Reply ε α).Uses allowed := by
  cases result with
  | ok | error => trivial

theorem Uses.bind (uses : program.Uses allowed) (rest : ∀ value, (next value).Uses allowed) :
    (program >>= next).Uses allowed := by
  induction program with
  | done value => exact rest value
  | fail => trivial
  | ask _ _ ih =>
    exact ⟨uses.1, fun reply => ih reply (uses.2 reply)⟩

theorem Uses.always (uses : program.Uses allowed)
    (harmless : ∀ history request, allowed request → permits history request)
    (history : List (Exchange Reply)) : program.Always permits history := by
  induction program generalizing history with
  | done | fail => trivial
  | ask request _ ih =>
    exact ⟨harmless history request uses.1, fun reply => ih reply (uses.2 reply) _⟩

theorem Always.bind (always : program.Always permits history)
    (rest : ∀ value later, (next value).Always permits later) :
    (program >>= next).Always permits history := by
  induction program generalizing history with
  | done value => exact rest value history
  | fail => trivial
  | ask _ _ ih =>
    exact ⟨always.1, fun reply => ih reply (always.2 reply)⟩

/-- A complete run of the program has these exchanges and this result. -/
def Runs : Interaction Reply ε α → List (Exchange Reply) → Except ε α → Prop
  | done value, trace, result => trace = [] ∧ result = .ok value
  | fail error, trace, result => trace = [] ∧ result = .error error
  | ask request next, trace, result => ∃ reply rest,
      trace = ⟨request, reply⟩ :: rest ∧ (next reply).Runs rest result

theorem runs_send_bind {next : Reply request → Interaction Reply ε β} {result : Except ε β} :
    ((send request : Interaction Reply ε (Reply request)) >>= next).Runs trace result ↔
      ∃ reply rest, trace = ⟨request, reply⟩ :: rest ∧ (next reply).Runs rest result := Iff.rfl

theorem runs_ofExcept {outcome : Except ε α} :
    (ofExcept outcome : Interaction Reply ε α).Runs trace result ↔ trace = [] ∧ result = outcome := by
  cases outcome with
  | ok | error => exact Iff.rfl

/-- In a run of a program and its continuation the program fails, or the continuation runs after it. -/
theorem runs_bind_split {result : Except ε β} (run : (program >>= next).Runs trace result) :
    ∃ first second, trace = first ++ second ∧
      ((∃ error, program.Runs first (.error error) ∧ second = [] ∧ result = .error error) ∨
        ∃ middle, program.Runs first (.ok middle) ∧ (next middle).Runs second result) := by
  induction program generalizing trace with
  | done middle => exact ⟨[], trace, rfl, .inr ⟨middle, ⟨rfl, rfl⟩, run⟩⟩
  | fail error =>
    obtain ⟨rfl, rfl⟩ := run
    exact ⟨[], [], rfl, .inl ⟨error, ⟨rfl, rfl⟩, rfl, rfl⟩⟩
  | ask request _ ih =>
    obtain ⟨reply, _, rfl, run⟩ := run
    obtain ⟨first, second, rfl, split⟩ := ih reply run
    refine ⟨⟨request, reply⟩ :: first, second, rfl, split.imp ?_ ?_⟩
    · rintro ⟨error, failed, ended⟩
      exact ⟨error, ⟨reply, first, rfl, failed⟩, ended⟩
    · rintro ⟨middle, returned, rest⟩
      exact ⟨middle, ⟨reply, first, rfl, returned⟩, rest⟩

/-- A run that returns is a run of the program followed by a run of its continuation. -/
theorem runs_bind {value : β} : (program >>= next).Runs trace (.ok value) ↔ ∃ first second middle,
      trace = first ++ second ∧ program.Runs first (.ok middle) ∧
        (next middle).Runs second (.ok value) := by
  constructor
  · intro run
    obtain ⟨first, second, rfl, ⟨_, _, _, failed⟩ | ⟨middle, firstRun, secondRun⟩⟩ :=
      runs_bind_split run
    · cases failed
    · exact ⟨first, second, middle, rfl, firstRun, secondRun⟩
  · rintro ⟨first, second, middle, rfl, firstRun, secondRun⟩
    induction program generalizing first with
    | done =>
      obtain ⟨rfl, same⟩ := firstRun
      cases same
      exact secondRun
    | fail =>
      obtain ⟨-, impossible⟩ := firstRun
      cases impossible
    | ask _ _ ih =>
      obtain ⟨reply, rest, rfl, firstRun⟩ := firstRun
      exact ⟨reply, rest ++ second, rfl, ih reply rest firstRun⟩

theorem Uses.runs (uses : program.Uses allowed) (run : program.Runs trace result) :
    ∀ exchange ∈ trace, allowed exchange.1 := by
  induction program generalizing trace with
  | done | fail =>
    obtain ⟨rfl, -⟩ := run
    simp
  | ask _ _ ih =>
    obtain ⟨reply, _, rfl, run⟩ := run
    intro exchange member
    obtain rfl | later := List.mem_cons.mp member
    · exact uses.1
    · exact ih reply (uses.2 reply) run exchange later

theorem Returns.runs {property : α → Prop} {value : α} (returns : program.Returns property)
    (run : program.Runs trace (.ok value)) : property value := by
  induction program generalizing trace with
  | done =>
    obtain ⟨-, same⟩ := run
    cases same
    exact returns
  | fail => cases run.2
  | ask _ _ ih =>
    obtain ⟨reply, _, -, run⟩ := run
    exact ih reply (returns reply) run

/-- What is left of the program after these exchanges. -/
inductive After (program : Interaction Reply ε α) :
    List (Exchange Reply) → Interaction Reply ε α → Prop
  | start : After program [] program
  | serve {trace : List (Exchange Reply)} {request : ρ}
      {next : Reply request → Interaction Reply ε α}
      (waiting : After program trace (ask request next)) (reply : Reply request) :
      After program (trace ++ [⟨request, reply⟩]) (next reply)

theorem After.runs {rest : Interaction Reply ε α} {later : List (Exchange Reply)}
    (after : After program trace rest) (run : rest.Runs later result) :
    program.Runs (trace ++ later) result := by
  induction after generalizing later with
  | start => exact run
  | serve _ reply ih =>
    rw [List.append_assoc]
    exact ih ⟨reply, later, rfl, run⟩

/-- The run in an environment that replies by all exchanges so far. -/
def serve (environment : List (Exchange Reply) → ∀ request, Reply request) :
    Interaction Reply ε α → List (Exchange Reply) → List (Exchange Reply) × Except ε α
  | done value, _ => ([], .ok value)
  | fail error, _ => ([], .error error)
  | ask request next, history =>
    let exchange := ⟨request, environment history request⟩
    let rest := (next exchange.2).serve environment (history ++ [exchange])
    (exchange :: rest.1, rest.2)

theorem runs_serve (environment : List (Exchange Reply) → ∀ request, Reply request)
    (program : Interaction Reply ε α) (history : List (Exchange Reply)) :
    program.Runs (program.serve environment history).1 (program.serve environment history).2 := by
  induction program generalizing history with
  | done | fail => exact ⟨rfl, rfl⟩
  | ask _ _ ih => exact ⟨_, _, rfl, ih _ _⟩

theorem mem_serve {reply : ∀ request, Reply request} {exchange : Exchange Reply}
    (member : exchange ∈ (program.serve (fun _ => reply) history).1) :
    exchange.2 = reply exchange.1 := by
  induction program generalizing history with
  | done | fail => cases member
  | ask _ _ ih =>
    rcases List.mem_cons.mp member with rfl | later
    · rfl
    · exact ih _ later

section Stateful

variable {σ ι : Type} (handle : ι → σ → ∀ request, Reply request × σ)

/-- A request that was served in a state with an input from outside. -/
structure Served (σ ι ρ : Type) where
  input : ι
  state : σ
  request : ρ

/-- A complete run in an environment that serves each request in its state, has these events and
leaves the environment in this state. -/
def RunsOn : Interaction Reply ε α → σ → List (Served σ ι ρ) → σ → Except ε α → Prop
  | done value, before, events, after, result =>
    events = [] ∧ after = before ∧ result = .ok value
  | fail error, before, events, after, result =>
    events = [] ∧ after = before ∧ result = .error error
  | ask request next, before, events, after, result => ∃ input rest,
      events = ⟨input, before, request⟩ :: rest ∧
        (next (handle input before request).1).RunsOn (handle input before request).2 rest after
          result

variable {handle} {before after : σ} {events : List (Served σ ι ρ)} {value : α} {good : α → Prop}
  {goodNext : β → Prop}

theorem runsOn_ofExcept {outcome result : Except ε α} :
    (ofExcept outcome : Interaction Reply ε α).RunsOn handle before events after result ↔
      events = [] ∧ after = before ∧ result = outcome := by
  cases outcome with
  | ok | error => exact Iff.rfl

theorem runsOn_bind {value : β} : (program >>= next).RunsOn handle before events after (.ok value) ↔
      ∃ first second state middle, events = first ++ second ∧
        program.RunsOn handle before first state (.ok middle) ∧
        (next middle).RunsOn handle state second after (.ok value) := by
  induction program generalizing before events with
  | done middle =>
    constructor
    · intro run
      exact ⟨[], events, before, middle, rfl, ⟨rfl, rfl, rfl⟩, run⟩
    · rintro ⟨first, second, state, _, rfl, ⟨rfl, rfl, same⟩, run⟩
      cases same
      exact run
  | fail =>
    constructor
    · rintro ⟨-, -, impossible⟩
      cases impossible
    · rintro ⟨first, second, state, _, -, ⟨-, -, impossible⟩, -⟩
      cases impossible
  | ask _ _ ih =>
    constructor
    · rintro ⟨input, _, rfl, run⟩
      obtain ⟨first, second, state, middle, rfl, firstRun, secondRun⟩ := (ih _).mp run
      exact ⟨_ :: first, second, state, middle, rfl, ⟨input, first, rfl, firstRun⟩, secondRun⟩
    · rintro ⟨-, second, state, middle, rfl, ⟨input, first, rfl, firstRun⟩, secondRun⟩
      exact ⟨input, first ++ second, rfl,
        (ih _).mpr ⟨first, second, state, middle, rfl, firstRun, secondRun⟩⟩

theorem Returns.runsOn {property : α → Prop} (returns : program.Returns property)
    (run : program.RunsOn handle before events after (.ok value)) : property value := by
  induction program generalizing before events with
  | done =>
    obtain ⟨-, -, same⟩ := run
    cases same
    exact returns
  | fail =>
    obtain ⟨-, -, impossible⟩ := run
    cases impossible
  | ask _ _ ih =>
    obtain ⟨_, _, -, run⟩ := run
    exact ih _ (returns _) run

variable (handle) (guard right : Served σ ι ρ → Prop) (invariant : σ → Prop)

/-- From a state with the invariant, and as long as the guard holds, every request is served right;
and the invariant holds at the end if the result is good. -/
def Keeps (program : Interaction Reply ε α) (good : α → Prop) : Prop :=
  ∀ before events after value, program.RunsOn handle before events after (.ok value) →
    (∀ event ∈ events, guard event) → invariant before →
      (∀ event ∈ events, right event) ∧ (good value → invariant after)

/-- The program asks nothing and its result is not good. -/
def Silent (program : Interaction Reply ε α) (good : α → Prop) : Prop :=
  ∀ before events after value, program.RunsOn handle before events after (.ok value) →
    events = [] ∧ ¬ good value

variable {handle guard right invariant}

theorem keeps_done (value : α) (good : α → Prop) :
    (done value : Interaction Reply ε α).Keeps handle guard right invariant good := by
  rintro _ _ _ _ ⟨rfl, rfl, -⟩ - holds
  exact ⟨by simp, fun _ => holds⟩

theorem keeps_ofExcept (outcome : Except ε α) (good : α → Prop) :
    (ofExcept outcome : Interaction Reply ε α).Keeps handle guard right invariant good := by
  intro _ _ _ _ run _ holds
  obtain ⟨rfl, rfl, -⟩ := runsOn_ofExcept.mp run
  exact ⟨by simp, fun _ => holds⟩

theorem silent_done (bad : ¬ good value) :
    (done value : Interaction Reply ε α).Silent handle good := by
  rintro _ _ _ _ ⟨rfl, rfl, same⟩
  cases same
  exact ⟨rfl, bad⟩

theorem silent_ofExcept (outcome : Except ε α) :
    (ofExcept outcome : Interaction Reply ε α).Silent handle fun _ => False := by
  intro _ _ _ _ run
  exact ⟨(runsOn_ofExcept.mp run).1, id⟩

theorem Silent.bind {good : β → Prop} (first : program.Silent handle fun _ => False)
    (rest : ∀ value, (next value).Silent handle good) :
    (program >>= next).Silent handle good := by
  intro _ _ _ _ run
  obtain ⟨_, _, _, middle, rfl, firstRun, nextRun⟩ := runsOn_bind.mp run
  obtain ⟨rfl, -⟩ := first _ _ _ _ firstRun
  exact rest middle _ _ _ _ nextRun

/-- Go on as long as the result is good, and ask nothing afterwards. -/
theorem Keeps.bind (first : program.Keeps handle guard right invariant good)
    (goOn : ∀ value, good value → (next value).Keeps handle guard right invariant goodNext)
    (stop : ∀ value, ¬ good value → (next value).Silent handle goodNext) :
    (program >>= next).Keeps handle guard right invariant goodNext := by
  intro _ _ _ _ run guarded holds
  obtain ⟨_, _, _, middle, rfl, firstRun, nextRun⟩ := runsOn_bind.mp run
  obtain ⟨frontRight, kept⟩ := first _ _ _ _ firstRun
    (fun event member => guarded event (List.mem_append_left _ member)) holds
  by_cases goodMiddle : good middle
  · obtain ⟨backRight, keptNext⟩ := goOn middle goodMiddle _ _ _ _ nextRun
      (fun event member => guarded event (List.mem_append_right _ member)) (kept goodMiddle)
    refine ⟨fun event member => ?_, keptNext⟩
    rcases List.mem_append.mp member with inFront | inBack
    · exact frontRight event inFront
    · exact backRight event inBack
  · obtain ⟨rfl, bad⟩ := stop middle goodMiddle _ _ _ _ nextRun
    rw [List.append_nil]
    exact ⟨frontRight, fun goodValue => absurd goodValue bad⟩

/-- A program whose every result is good. -/
theorem Keeps.bind_always (first : program.Keeps handle guard right invariant fun _ => True)
    (goOn : ∀ value, (next value).Keeps handle guard right invariant goodNext) :
    (program >>= next).Keeps handle guard right invariant goodNext :=
  first.bind (fun value _ => goOn value) fun _ bad => absurd trivial bad

end Stateful

end Interaction
