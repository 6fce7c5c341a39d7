import AetherIot.CloudLink.SessionRuntime

/-!
# Recovery of a CloudLink session

After its failures the runtime recovers a session, on a connection that stays up and with a cloud that
answers, exactly when it is not already waiting for a `Connected` event that the connection has given,
and, for a trusted connector, when the answer it waits for is still to come.
-/

namespace AetherIot.CloudLink

open GuardedRun

variable {mode : SessionAuthentication}

namespace Runtime

/-- Everything the task will read: what it has not read, and the answers the cloud owes. -/
def pending (runtime : Runtime) : List TransportEvent :=
  runtime.unread ++ runtime.owed.map .session

/-- A step while the connection stays up and nothing fails: the cloud answers, the task reads an
event soundly, or the timer of a signed session asks again when nothing is to come. -/
inductive GoodStep (mode : SessionAuthentication) (runtime : Runtime) : Runtime → Prop
  | answer (owes : runtime.owed ≠ []) : GoodStep mode runtime (runtime.step mode .answer)
  | read (arrived : runtime.unread ≠ []) : GoodStep mode runtime (runtime.step mode (.read true))
  | retry (signed : mode = .gatewaySigned) (asking : repeats runtime.phase ≠ none)
      (quiet : runtime.pending = []) : GoodStep mode runtime (runtime.step mode (.retry true))

/-- The task holds a session and has offered the retained records. -/
def Established (runtime : Runtime) : Prop :=
  runtime.phase = .established

end Runtime

/-- What is read after the next `Connected` event. -/
def afterConnected (events : List TransportEvent) : List TransportEvent :=
  (events.dropWhile (· ≠ .connected)).tail

/-- No event to come fails the session attempt: the failures are over. -/
def Orderly (mode : SessionAuthentication) : RuntimePhase → List TransportEvent → Prop
  | .waiting, events => challenged (afterConnected events)
  | .challenging, events => challenged events
  | .accepting, events => ∀ event ∈ events, (react mode .accepting event true).phase ≠ .waiting
  | .established, _ => True
where
  /-- Nothing fails the wait for a challenge, and a trusted connector is challenged once. -/
  challenged (events : List TransportEvent) : Prop :=
    (∀ event ∈ events, (react mode .challenging event true).phase ≠ .waiting) ∧
      (mode = .trustedConnector → events.count (.session .challenge) ≤ 1)

/-- The task does not wait for an event that does not come. -/
def Recovering (mode : SessionAuthentication) : RuntimePhase → List TransportEvent → Prop
  | .waiting, events =>
    .connected ∈ events ∧
      (mode = .gatewaySigned ∨ .session .challenge ∈ afterConnected events)
  | .challenging, events => mode = .gatewaySigned ∨ .session .challenge ∈ events
  | .accepting, events => mode = .gatewaySigned ∨ .session .accepted ∈ events
  | .established, _ => True

@[simp] theorem afterConnected_connected (events : List TransportEvent) :
    afterConnected (.connected :: events) = events := by
  simp [afterConnected]

variable {event : TransportEvent} {events : List TransportEvent}

theorem afterConnected_of_ne (other : event ≠ .connected) (events : List TransportEvent) :
    afterConnected (event :: events) = afterConnected events := by
  simp [afterConnected, other]

/-- The task goes on waiting at every event other than `Connected`. -/
theorem react_waiting_of_ne (other : event ≠ .connected) (sound : Bool) :
    react mode .waiting event sound = ⟨.waiting, none⟩ := by
  cases event with
  | connected => exact absurd rfl other
  | _ => rfl

/-- What is left to read after an event is read soundly. -/
def remaining (mode : SessionAuthentication) (phase : RuntimePhase) (event : TransportEvent)
    (events : List TransportEvent) : List TransportEvent :=
  events ++ (react mode phase event true).asks.toList.map .session

/-- An event that does not fail the wait for a challenge does not fail the wait for the acceptance,
unless a trusted connector is challenged again. -/
theorem accepting_of_challenging (keeps : (react mode .challenging event true).phase ≠ .waiting)
    (fresh : mode = .trustedConnector → event ≠ .session .challenge) :
    (react mode .accepting event true).phase ≠ .waiting := by
  cases event with
  | session message =>
    cases message with
    | challenge =>
      cases mode with
      | gatewaySigned => decide
      | trustedConnector => exact absurd rfl (fresh rfl)
    | accepted | unexpected => exact absurd rfl keeps
  | disconnected | unavailable => exact absurd rfl keeps
  | _ => exact RuntimePhase.noConfusion

theorem Orderly.challenge (orderly : Orderly mode .challenging (.session .challenge :: events)) :
    Orderly mode .accepting (events ++ [.session .accepted]) := by
  obtain ⟨keeps, once⟩ := orderly
  intro event member
  rcases List.mem_append.mp member with earlier | last
  · refine accepting_of_challenging (keeps event (List.mem_cons_of_mem _ earlier)) ?_
    rintro trusted rfl
    have counted := once trusted
    rw [List.count_cons_self] at counted
    exact absurd (List.count_pos_iff.mpr earlier) (by omega)
  · rw [List.mem_singleton.mp last]
    cases mode <;> decide

/-- An orderly wait for a challenge stays so for what is read later. -/
theorem Orderly.challenged_tail (orderly : Orderly.challenged mode (event :: events)) :
    Orderly.challenged mode events :=
  ⟨fun later member => orderly.1 later (List.mem_cons_of_mem _ member),
    fun trusted => le_trans List.count_le_count_cons (orderly.2 trusted)⟩

/-- The answer to a signed request can be read without harm. -/
theorem Orderly.challenged_snoc (orderly : Orderly.challenged .gatewaySigned events) :
    Orderly.challenged .gatewaySigned (events ++ [.session .challenge]) := by
  refine ⟨fun event member => ?_, fun trusted => by cases trusted⟩
  rcases List.mem_append.mp member with earlier | last
  · exact orderly.1 event earlier
  · rw [List.mem_singleton.mp last]
    decide

/-- Reading the event soundly keeps the session attempt orderly, and neither loses nor gains the event
that the task waits for. -/
def Advances (mode : SessionAuthentication) (phase : RuntimePhase) (event : TransportEvent)
    (events : List TransportEvent) : Prop :=
  Orderly mode (react mode phase event true).phase (remaining mode phase event events) ∧
    (Recovering mode (react mode phase event true).phase (remaining mode phase event events) ↔
      Recovering mode phase (event :: events))

theorem advances_waiting (orderly : Orderly mode .waiting (event :: events)) :
    Advances mode .waiting event events := by
  by_cases connected : event = .connected
  · subst connected
    rw [Orderly, afterConnected_connected] at orderly
    cases mode with
    | gatewaySigned =>
      exact ⟨Orderly.challenged_snoc orderly, by simp [react, remaining, Recovering]⟩
    | trustedConnector =>
      refine ⟨?_, by simp [react, remaining, Recovering]⟩
      simpa [react, remaining, Orderly] using orderly
  · rw [Orderly, afterConnected_of_ne connected] at orderly
    rw [Advances, remaining, react_waiting_of_ne connected]
    refine ⟨by simpa [Orderly] using orderly, ?_⟩
    simp [Recovering, afterConnected_of_ne connected, Ne.symm connected]

theorem advances_challenging (orderly : Orderly mode .challenging (event :: events)) :
    Advances mode .challenging event events := by
  have keeps := orderly.1 event List.mem_cons_self
  have later : Orderly mode .challenging (events ++ []) := by
    rw [List.append_nil]
    exact Orderly.challenged_tail orderly
  cases event with
  | session message =>
    cases message with
    | challenge => exact ⟨orderly.challenge, by simp [react, remaining, Recovering]⟩
    | accepted | unexpected => exact absurd rfl keeps
  | disconnected | unavailable => exact absurd rfl keeps
  | _ => exact ⟨later, by simp [react, remaining, Recovering]⟩

theorem advances_accepting (orderly : Orderly mode .accepting (event :: events)) :
    Advances mode .accepting event events := by
  have keeps := orderly event List.mem_cons_self
  have later : Orderly mode .accepting (events ++ []) := by
    rw [List.append_nil]
    exact fun event member => orderly event (List.mem_cons_of_mem _ member)
  cases event with
  | session message =>
    cases message with
    | challenge =>
      cases mode with
      | gatewaySigned =>
        refine ⟨?_, by simp [react, remaining, Recovering]⟩
        intro event member
        rcases List.mem_append.mp member with earlier | last
        · exact orderly event (List.mem_cons_of_mem _ earlier)
        · rw [List.mem_singleton.mp last]
          decide
      | trustedConnector => exact absurd rfl keeps
    | accepted => exact ⟨trivial, by simp [react, remaining, Recovering]⟩
    | unexpected => exact absurd rfl keeps
  | disconnected | unavailable => exact absurd rfl keeps
  | _ => exact ⟨later, by simp [react, remaining, Recovering]⟩

theorem Orderly.advances {phase : RuntimePhase} (orderly : Orderly mode phase (event :: events))
    (unfinished : phase ≠ .established) : Advances mode phase event events := by
  cases phase with
  | waiting => exact advances_waiting orderly
  | challenging => exact advances_challenging orderly
  | accepting => exact advances_accepting orderly
  | established => exact absurd rfl unfinished

namespace Runtime

variable {runtime next : Runtime}

theorem pending_answer : (runtime.step mode .answer).pending = runtime.pending := by
  cases owed : runtime.owed with
  | nil => simp [step, owed]
  | cons => simp [step, pending, owed]

theorem phase_answer : (runtime.step mode .answer).phase = runtime.phase := by
  cases owed : runtime.owed <;> simp [step, owed]

variable {unread : List TransportEvent}

section

variable (head : runtime.unread = event :: unread)

include head

theorem pending_of_unread : runtime.pending = event :: (unread ++ runtime.owed.map .session) := by
  simp [pending, head]

theorem pending_read : (runtime.step mode (.read true)).pending =
      remaining mode runtime.phase event (unread ++ runtime.owed.map .session) := by
  simp [pending, step, head, remaining]

theorem phase_read :
    (runtime.step mode (.read true)).phase = (react mode runtime.phase event true).phase := by
  simp [step, head]

end

theorem phase_retry : (runtime.step .gatewaySigned (.retry true)).phase = runtime.phase := by
  cases asked : repeats runtime.phase <;> simp [step, asked]

theorem pending_retry (quiet : runtime.pending = []) :
    (runtime.step .gatewaySigned (.retry true)).pending =
      (repeats runtime.phase).toList.map .session := by
  obtain ⟨unread, owed⟩ : runtime.unread = [] ∧ runtime.owed = [] := by
    simpa [pending] using quiet
  cases asked : repeats runtime.phase <;> simp [step, pending, asked, unread, owed]

/-- A good step keeps the session attempt orderly, and neither loses nor gains the event that the
task waits for. -/
theorem GoodStep.advances (good : GoodStep mode runtime next)
    (orderly : Orderly mode runtime.phase runtime.pending) (unfinished : ¬ runtime.Established) :
    Orderly mode next.phase next.pending ∧ (Recovering mode next.phase next.pending ↔
        Recovering mode runtime.phase runtime.pending) := by
  cases good with
  | answer =>
    rw [phase_answer, pending_answer]
    exact ⟨orderly, Iff.rfl⟩
  | read arrived =>
    obtain ⟨_, _, head⟩ := List.exists_cons_of_ne_nil arrived
    rw [pending_of_unread head] at orderly ⊢
    rw [phase_read head, pending_read head]
    exact orderly.advances unfinished
  | retry signed asking quiet =>
    subst signed
    rw [phase_retry, pending_retry quiet]
    cases phase : runtime.phase with
    | waiting => exact absurd (by rw [phase]; rfl) asking
    | challenging =>
      exact ⟨⟨by simp [repeats, react], fun trusted => by cases trusted⟩,
        by simp [Recovering]⟩
    | accepting =>
      exact ⟨by simp [Orderly, repeats, react], by simp [Recovering]⟩
    | established => exact absurd phase unfinished

/-- How much a pending event can still cause: a challenge is answered with a hello. -/
def weight : TransportEvent → Nat
  | .session .challenge => 3
  | _ => 1

/-- The answer that the task waits for is not to come and has to be asked for again. -/
def missing : RuntimePhase → List TransportEvent → Nat
  | .challenging, events => if .session .challenge ∈ events then 0 else 10
  | .accepting, events => if .session .accepted ∈ events then 0 else 10
  | _, _ => 0

/-- What is left to do until the session is established. -/
def effort (runtime : Runtime) : Nat :=
  (if runtime.phase = .waiting then 10 else 0) + missing runtime.phase runtime.pending +
    (runtime.pending.map weight).sum + runtime.owed.length

theorem weight_pos (event : TransportEvent) : 0 < weight event := by
  cases event with
  | session message => cases message <;> decide
  | _ => decide

/-- Reading an event soundly leaves less to do. -/
theorem effort_react {phase : RuntimePhase} {events : List TransportEvent}
    (orderly : Orderly mode phase (event :: events))
    (recovering : Recovering mode phase (event :: events)) (unfinished : phase ≠ .established) :
    (if (react mode phase event true).phase = .waiting then 10 else 0) +
        missing (react mode phase event true).phase (remaining mode phase event events) +
        ((remaining mode phase event events).map weight).sum +
        (react mode phase event true).asks.toList.length <
      (if phase = .waiting then 10 else 0) + missing phase (event :: events) +
        ((event :: events).map weight).sum := by
  have positive := weight_pos event
  cases phase with
  | waiting =>
    by_cases connected : event = .connected
    · subst connected
      cases mode with
      | gatewaySigned =>
        simp [react, remaining, missing, weight]
        omega
      | trustedConnector =>
        have answered : .session .challenge ∈ events := by
          simpa [Recovering] using recovering
        simp [react, remaining, missing, weight, answered]
        omega
    · simp [react_waiting_of_ne connected, remaining, missing]
      omega
  | challenging =>
    have keeps := orderly.1 event List.mem_cons_self
    cases event with
    | session message =>
      cases message with
      | challenge => simp [react, remaining, missing, weight]; omega
      | accepted | unexpected => exact absurd rfl keeps
    | disconnected | unavailable => exact absurd rfl keeps
    | _ => simp [react, remaining, missing, weight]
  | accepting =>
    have keeps := orderly event List.mem_cons_self
    cases event with
    | session message =>
      cases message with
      | challenge =>
        cases mode with
        | gatewaySigned => simp [react, remaining, missing, weight]; omega
        | trustedConnector => exact absurd rfl keeps
      | accepted => simp [react, remaining, missing, weight]
      | unexpected => exact absurd rfl keeps
    | disconnected | unavailable => exact absurd rfl keeps
    | _ => simp [react, remaining, missing, weight]
  | established => exact absurd rfl unfinished

/-- Every good step leaves less to do. -/
theorem GoodStep.effort_lt (good : GoodStep mode runtime next)
    (orderly : Orderly mode runtime.phase runtime.pending)
    (recovering : Recovering mode runtime.phase runtime.pending)
    (unfinished : ¬ runtime.Established) : next.effort < runtime.effort := by
  cases good with
  | answer owes =>
    obtain ⟨_, _, owed⟩ := List.exists_cons_of_ne_nil owes
    have shorter : (runtime.step mode .answer).owed.length < runtime.owed.length := by
      simp [step, owed]
    rw [effort, phase_answer, pending_answer, effort]
    omega
  | read arrived =>
    obtain ⟨event, _, head⟩ := List.exists_cons_of_ne_nil arrived
    have owed : (runtime.step mode (.read true)).owed.length =
        runtime.owed.length + (react mode runtime.phase event true).asks.toList.length := by
      simp [step, head]
    rw [pending_of_unread head] at orderly recovering
    have less := effort_react orderly recovering unfinished
    rw [effort, effort, phase_read head, pending_read head, owed, pending_of_unread head]
    omega
  | retry signed asking quiet =>
    subst signed
    obtain ⟨_, owed⟩ : runtime.unread = [] ∧ runtime.owed = [] := by
      simpa [pending] using quiet
    rw [effort, effort, phase_retry, pending_retry quiet, quiet]
    cases phase : runtime.phase with
    | waiting => exact absurd (by rw [phase]; rfl) asking
    | challenging | accepting => simp [step, phase, repeats, missing, weight, owed]
    | established => exact absurd phase unfinished

/-- While a session is recovering and not established, some good step is possible. -/
theorem exists_goodStep (recovering : Recovering mode runtime.phase runtime.pending)
    (unfinished : ¬ runtime.Established) : ∃ next, GoodStep mode runtime next := by
  by_cases arrived : runtime.unread = []
  · by_cases owes : runtime.owed = []
    · have quiet : runtime.pending = [] := by simp [pending, arrived, owes]
      rw [quiet] at recovering
      cases phase : runtime.phase with
      | waiting => simp [phase, Recovering] at recovering
      | challenging | accepting =>
        have signed : mode = .gatewaySigned := by simpa [phase, Recovering] using recovering
        exact ⟨_, .retry signed (by simp [phase, repeats]) quiet⟩
      | established => exact absurd phase unfinished
    · exact ⟨_, .answer owes⟩
  · exact ⟨_, .read arrived⟩

/-- From an orderly state a session is established on every good course exactly when the task does not
wait for an event that does not come. -/
theorem inevitable_iff (orderly : Orderly mode runtime.phase runtime.pending) :
    Inevitable (GoodStep mode) Established runtime ↔
      Recovering mode runtime.phase runtime.pending := by
  constructor
  · intro inevitable
    by_contra stranded
    have outside : ∀ state : Runtime, Orderly mode state.phase state.pending ∧
        ¬ Recovering mode state.phase state.pending → ¬ state.Established := by
      rintro state ⟨-, lost⟩ established
      exact lost (by rw [established]; trivial)
    refine Inevitable.not_of_kept outside ?_ ⟨orderly, stranded⟩ inevitable
    rintro state ⟨orderlyState, lost⟩ ⟨next, good⟩
    obtain ⟨orderlyNext, same⟩ := good.advances orderlyState (outside state ⟨orderlyState, lost⟩)
    exact ⟨next, good, orderlyNext, fun recovered => lost (same.mp recovered)⟩
  · intro recovering
    have possible : ∀ state : Runtime, Orderly mode state.phase state.pending ∧
        Recovering mode state.phase state.pending → ¬ state.Established →
        ∃ next, GoodStep mode state next :=
      fun state holds unfinished => exists_goodStep holds.2 unfinished
    refine Inevitable.of_measure effort possible ?_ ⟨orderly, recovering⟩
    rintro _ _ ⟨orderlyState, recoveringState⟩ unfinished good
    obtain ⟨orderlyNext, same⟩ := good.advances orderlyState unfinished
    exact ⟨⟨orderlyNext, same.mpr recoveringState⟩,
      good.effort_lt orderlyState recoveringState unfinished⟩

end Runtime

end AetherIot.CloudLink
