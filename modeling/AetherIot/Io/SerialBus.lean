import AetherIot.Foundation.Attempt
import AetherIot.Foundation.Interaction
import AetherIot.Io.Point

/-!
# Polling over a serial bus

A target is queried by writing a request and reading a frame from what arrives on the bus until the
deadline, with a number of retries.  Nothing ties what arrives to the request.
-/

namespace AetherIot.Io

/-- What a transaction meets on the bus: an error of the write, or the pieces that its reads return
and the error of the read after them. -/
structure Arrival where
  writeError : Option String
  reads : List (List UInt8)
  ending : String

def Arrival.bytes (arrival : Arrival) : List UInt8 := arrival.reads.flatten

abbrev BusProgram (ρ : Type) := Interaction (fun _ : ρ => Arrival) Empty

/-- A protocol: the request for a target, the frame that a transaction takes from what arrives, the
response in it, and the point for it. -/
structure SerialProtocol (τ ρ β : Type) where
  request : τ → ρ
  transact : ρ → Arrival → Except String (List UInt8)
  decode : List UInt8 → Except String β
  point : τ → β → Except String DataPoint
  pointId : τ → UInt32

namespace SerialProtocol

variable {τ ρ β : Type} (protocol : SerialProtocol τ ρ β)

def response (request : ρ) (arrival : Arrival) : Except String β :=
  (protocol.transact request arrival).bind protocol.decode

/-- Query a target until a response decodes. -/
def query (request : ρ) : Nat → Option String → BusProgram ρ (Except String β)
  | 0, lastError => .done (.error (lastError.getD "Protocol error: Unknown error"))
  | attempts + 1, _ => do
      let arrival ← Interaction.send request
      match protocol.response request arrival with
      | .ok response => .done (.ok response)
      | .error error => query request attempts (some error)

/-- What a poll has after one more target. -/
def collect (target : τ) (result : PollResult) (outcome : Except String β) : PollResult :=
  match outcome.bind (protocol.point target) with
  | .ok point => { result with data := result.data ++ [point] }
  | .error error =>
    { result with failures := result.failures ++ [⟨protocol.pointId target, error⟩] }

/-- Query the targets one after another. -/
def pollTargets (retryCount : Nat) : List τ → PollResult → BusProgram ρ PollResult
  | [], result => .done result
  | target :: targets, result => do
      let outcome ← protocol.query (protocol.request target) (retryCount + 1) none
      pollTargets retryCount targets (protocol.collect target result outcome)

structure Taken (targets : List τ) (trace : List (Exchange fun _ : ρ => Arrival)) (target : τ)
    (arrival : Arrival) (response : β) (point : DataPoint) : Prop where
  configured : target ∈ targets
  asked : ⟨protocol.request target, arrival⟩ ∈ trace
  decoded : protocol.response (protocol.request target) arrival = .ok response
  recorded : protocol.point target response = .ok point

structure TakenFromAnswer (Valid : List UInt8 → Prop) (Answers : ρ → β → Prop)
    (targets : List τ) (trace : List (Exchange fun _ : ρ => Arrival)) (target : τ)
    (frame : List UInt8) (response : β) (point : DataPoint) : Prop where
  configured : target ∈ targets
  received : ∃ arrival, ⟨protocol.request target, arrival⟩ ∈ trace ∧
    protocol.transact (protocol.request target) arrival = .ok frame
  valid : Valid frame
  decoded : protocol.decode frame = .ok response
  answers : Answers (protocol.request target) response
  recorded : protocol.point target response = .ok point

/-- Every frame among the bytes that arrive after a request answers it. -/
def OnlyAnswers (Answers : ρ → β → Prop) (request : ρ) (arrival : Arrival) : Prop :=
  ∀ frame, frame <:+: arrival.bytes → ∀ response, protocol.decode frame = .ok response →
    Answers request response

variable {protocol} {request : ρ} {trace : List (Exchange fun _ : ρ => Arrival)}
  {result : PollResult} {point : DataPoint} {retryCount : Nat} {targets : List τ}

theorem response_ok {arrival : Arrival} {response : β}
    (decoded : protocol.response request arrival = .ok response) :
    ∃ frame, protocol.transact request arrival = .ok frame ∧
      protocol.decode frame = .ok response := by
  exact Attempt.bind_eq_ok.mp decoded

theorem query_runs {attempts : Nat} {lastError : Option String} {response : β}
    (run : (protocol.query request attempts lastError).Runs trace (.ok (.ok response))) :
    ∃ arrival, ⟨request, arrival⟩ ∈ trace ∧ protocol.response request arrival = .ok response := by
  induction attempts generalizing lastError trace with
  | zero =>
    obtain ⟨-, impossible⟩ := run
    cases impossible
  | succ _ ih =>
    obtain ⟨arrival, _, rfl, continued⟩ := Interaction.runs_send_bind.mp run
    cases decoded : protocol.response request arrival with
    | ok =>
      simp only [decoded] at continued
      obtain ⟨-, same⟩ := continued
      cases same
      exact ⟨arrival, List.mem_cons_self, decoded⟩
    | error =>
      simp only [decoded] at continued
      obtain ⟨later, asked, answered⟩ := ih continued
      exact ⟨later, List.mem_cons_of_mem _ asked, answered⟩

theorem mem_collect {target : τ} {outcome : Except String β}
    (member : point ∈ (protocol.collect target result outcome).data) :
    point ∈ result.data ∨
      ∃ response, outcome = .ok response ∧ protocol.point target response = .ok point := by
  rw [collect] at member
  cases outcome with
  | error => exact .inl member
  | ok response =>
    cases recorded : protocol.point target response with
    | error =>
      simp only [Except.bind, recorded] at member
      exact .inl member
    | ok =>
      simp only [Except.bind, recorded] at member
      rcases List.mem_append.mp member with earlier | fresh
      · exact .inl earlier
      · obtain rfl := List.mem_singleton.mp fresh
        exact .inr ⟨response, rfl, recorded⟩

/-- Every point of a poll is new to it, or was there before. -/
theorem pollTargets_runs {before after : PollResult}
    (run : (protocol.pollTargets retryCount targets before).Runs trace (.ok after))
    (member : point ∈ after.data) :
    point ∈ before.data ∨
      ∃ target arrival response, protocol.Taken targets trace target arrival response point := by
  induction targets generalizing before trace with
  | nil =>
    obtain ⟨-, same⟩ := run
    cases same
    exact .inl member
  | cons target targets ih =>
    obtain ⟨first, rest, _, rfl, queried, continued⟩ := Interaction.runs_bind.mp run
    have later : ∀ {found arrival response},
        protocol.Taken targets rest found arrival response point →
        protocol.Taken (target :: targets) (first ++ rest) found arrival response point :=
      fun taken => ⟨List.mem_cons_of_mem _ taken.configured,
        List.mem_append_right _ taken.asked, taken.decoded, taken.recorded⟩
    rcases ih continued with earlier | ⟨found, arrival, response, taken⟩
    · rcases mem_collect earlier with earlier | ⟨response, rfl, recorded⟩
      · exact .inl earlier
      · obtain ⟨arrival, asked, decoded⟩ := query_runs queried
        exact .inr ⟨target, arrival, response, List.mem_cons_self,
          List.mem_append_left _ asked, decoded, recorded⟩
    · exact .inr ⟨found, arrival, response, later taken⟩

theorem pollTargets_takenFromAnswer {Valid : List UInt8 → Prop} {Answers : ρ → β → Prop}
    (framed : ∀ {request arrival frame},
      protocol.transact request arrival = .ok frame → frame <:+: arrival.bytes)
    (checked : ∀ {frame response}, protocol.decode frame = .ok response → Valid frame)
    (run : (protocol.pollTargets retryCount targets ⟨[], []⟩).Runs trace (.ok result))
    (only : ∀ request arrival, ⟨request, arrival⟩ ∈ trace →
      protocol.OnlyAnswers Answers request arrival) (member : point ∈ result.data) :
    ∃ target frame response,
      protocol.TakenFromAnswer Valid Answers targets trace target frame response point := by
  rcases pollTargets_runs run member with impossible | ⟨target, arrival, response, taken⟩
  · cases impossible
  · obtain ⟨frame, received, decoded⟩ := response_ok taken.decoded
    exact ⟨target, frame, response, taken.configured, ⟨arrival, taken.asked, received⟩,
      checked decoded, decoded, only _ _ taken.asked frame (framed received) response decoded,
      taken.recorded⟩

end SerialProtocol

end AetherIot.Io
