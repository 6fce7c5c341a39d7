import AetherIot.Io.Aether485
import AetherIot.Io.Dl645

/-!
# Answers of serial meters

Responses on a shared bus may be lost, late, repeated or of another device.  The adapters record the
first frame with a right checksum that a transaction takes, so a late response is recorded for the
next point.  While only answers to its own request arrive during a transaction, every recorded value
is taken from such an answer.
-/

namespace AetherIot.Io

namespace Dl645

/-- Every recorded value is taken from the answer of the meter to the request for its point. -/
def PollMatched (meterAddress : String) (transport : Option String)
    (trace : List (Exchange fun _ : ReadRequest => Arrival)) (result : PollResult) : Prop :=
  ∀ point ∈ result.data, ∃ meterAddr closed, MeterAddress.parse meterAddress = .ok meterAddr ∧
    transport = some closed ∧ ∃ standard frame response,
      (meterProtocol meterAddr closed).TakenFromAnswer ChecksumValid Answers standardPoints trace
        standard frame response point

/-- Every response among the bytes that arrive after a request has its address and identifier. -/
def OnlyAnswers (request : ReadRequest) (arrival : Arrival) : Prop :=
  ∀ frame, frame <:+: arrival.bytes → ∀ response, decodeResponse frame = .ok response →
    Answers request response

theorem pollOnce_matched {meterAddress : String} {transport : Option String} {retryCount : Nat}
    {result : PollResult} {trace : List (Exchange fun _ : ReadRequest => Arrival)}
    (run : (pollOnce meterAddress transport retryCount).Runs trace (.ok result))
    (only : ∀ request arrival, ⟨request, arrival⟩ ∈ trace → OnlyAnswers request arrival) :
    PollMatched meterAddress transport trace result := by
  intro _ member
  cases transport with
  | none =>
    obtain ⟨-, same⟩ := run
    cases same
    cases member
  | some closed =>
    rw [pollOnce] at run
    cases parsed : MeterAddress.parse meterAddress with
    | error =>
      simp only [parsed] at run
      obtain ⟨-, same⟩ := run
      cases same
      cases member
    | ok meterAddr =>
      simp only [parsed] at run
      exact ⟨meterAddr, closed, rfl, rfl, SerialProtocol.pollTargets_takenFromAnswer
        transactStream_part checksumValid_of_decodeResponse run only member⟩

end Dl645

namespace Aether485

/-- Every recorded value is taken from the answer of the device to the query for its point. -/
def PollMatched (targets : List PollTarget) (trace : List (Exchange fun _ : Query => Arrival))
    (result : PollResult) : Prop :=
  ∀ point ∈ result.data, ∃ target frame response, deviceProtocol.TakenFromAnswer ChecksumValid
    Answers targets trace target frame response point

/-- Every response among the bytes that arrive after a query has its device and command. -/
def OnlyAnswers (query : Query) (arrival : Arrival) : Prop :=
  ∀ frame, frame <:+: arrival.bytes → ∀ response, parseResponse frame = .ok response →
    Answers query response

theorem pollOnce_matched {connected : Bool} {targets : List PollTarget} {retryCount : Nat}
    {result : PollResult} {trace : List (Exchange fun _ : Query => Arrival)}
    (run : (pollOnce connected targets retryCount).Runs trace (.ok result))
    (only : ∀ query arrival, ⟨query, arrival⟩ ∈ trace → OnlyAnswers query arrival) :
    PollMatched targets trace result := by
  intro _ member
  rw [pollOnce] at run
  split at run
  · exact SerialProtocol.pollTargets_takenFromAnswer transact_part
      checksumValid_of_parseResponse run only member
  · obtain ⟨-, same⟩ := run
    cases same
    cases member

end Aether485

open Aether485

/-- A poll of a serial channel with what it met on the bus and what it recorded. -/
inductive SerialPoll where
  | meter (meterAddress : String) (transport : Option String) (retryCount : Nat)
      (trace : List (Exchange fun _ : Dl645.ReadRequest => Arrival)) (result : PollResult)
      (run : (Dl645.pollOnce meterAddress transport retryCount).Runs trace (.ok result))
  | devices (connected : Bool) (targets : List Aether485.PollTarget) (retryCount : Nat)
      (trace : List (Exchange fun _ : Aether485.Query => Arrival)) (result : PollResult)
      (run : (Aether485.pollOnce connected targets retryCount).Runs trace (.ok result))

namespace SerialPoll

def result : SerialPoll → PollResult
  | meter _ _ _ _ result _ => result
  | devices _ _ _ _ result _ => result

/-- During every transaction only answers to its request arrive. -/
def OnlyAnswers : SerialPoll → Prop
  | meter _ _ _ trace _ _ =>
    ∀ request arrival, ⟨request, arrival⟩ ∈ trace → Dl645.OnlyAnswers request arrival
  | devices _ _ _ trace _ _ =>
    ∀ query arrival, ⟨query, arrival⟩ ∈ trace → Aether485.OnlyAnswers query arrival

/-- Every recorded value is taken from the answer to the request for its point. -/
def Matched : SerialPoll → Prop
  | meter meterAddress transport _ trace result _ =>
    Dl645.PollMatched meterAddress transport trace result
  | devices _ targets _ trace result _ => Aether485.PollMatched targets trace result

end SerialPoll

/-- In every run of polls during whose transactions only answers to their requests arrive, every
recorded value is taken from the answer to the request for its point. -/
theorem serial_values_from_own_answers (polls : List SerialPoll)
    (only : ∀ poll ∈ polls, poll.OnlyAnswers) : ∀ poll ∈ polls, poll.Matched := by
  intro poll member
  have arrived := only poll member
  cases poll with
  | meter _ _ _ _ _ run => exact Dl645.pollOnce_matched run arrived
  | devices _ _ _ _ _ run => exact Aether485.pollOnce_matched run arrived

/-- Nothing arrives before the deadline. -/
def silence : Arrival := ⟨none, [], "Read timeout"⟩

/-- One piece arrives. -/
def arrivalOf (bytes : List UInt8) : Arrival := ⟨none, [bytes], "Read timeout"⟩

/-- What is decoded from any part of a piece can be decided on the list of its parts. -/
theorem forall_decoded {α : Type} {decode : List UInt8 → Except String α} {good : α → Prop}
    [DecidablePred good] {bytes : List UInt8}
    (all : ∀ part ∈ bytes.tails.flatMap List.inits, (decode part).toOption.all (decide <| good ·)) :
    ∀ part, part <:+: (arrivalOf bytes).bytes → ∀ value, decode part = .ok value → good value := by
  intro part within value decoded
  rw [show (arrivalOf bytes).bytes = bytes by simp [arrivalOf, Arrival.bytes]] at within
  obtain ⟨tail, initial, suffix⟩ := List.infix_iff_prefix_suffix.mp within
  have decided := all part (List.mem_flatMap.mpr
    ⟨tail, (List.mem_tails _ _).mpr suffix, (List.mem_inits _ _).mpr initial⟩)
  rw [decoded] at decided
  exact of_decide_eq_true decided

namespace Dl645

def sampleMeter : MeterAddress := ⟨[0x12, 0x34, 0x56, 0x78, 0x90, 0x12], rfl⟩

/-- The total positive active energy of the meter. -/
def positiveEnergyFrame : List UInt8 :=
  [0x68, 0x12, 0x90, 0x78, 0x56, 0x34, 0x12, 0x68, 0x91, 0x08, 0x33, 0x33, 0x34, 0x33, 0x45, 0x67,
    0x89, 0xAB, 0xCC, 0x16]

/-- The energy arrives during the transaction for a data item. -/
def energyDuring (diCode : UInt32) (request : ReadRequest) : Arrival :=
  if request = ⟨sampleMeter, .fromU32 diCode⟩ then arrivalOf positiveEnergyFrame else silence

def energyRun (diCode : UInt32) :
    List (Exchange fun _ : ReadRequest => Arrival) × Except Empty PollResult :=
  (pollOnce "123456789012" (some "Serial port closed") 0).serve (fun _ => energyDuring diCode) []

theorem energyDuring_onlyAnswers (request : ReadRequest) :
    OnlyAnswers request (energyDuring 0x00010000 request) := by
  rw [OnlyAnswers, energyDuring]
  split
  · rename_i item
    rw [item]
    exact forall_decoded (by decide +kernel)
  · intro _ within _ decoded
    obtain rfl := List.infix_nil.mp within
    cases decoded

theorem energyDuring_not_answer {closed : String} {request : ReadRequest} {frame : List UInt8}
    {response : Dl645Response}
    (received : transactStream closed (energyDuring 0x00020000 request) = .ok frame)
    (decoded : decodeResponse frame = .ok response) : ¬ Answers request response := by
  rw [energyDuring] at received
  split at received
  · rename_i item
    have same : frame = positiveEnergyFrame := by
      cases received
      rfl
    rw [same] at decoded
    cases decoded
    rw [item]
    decide +kernel
  · cases received

end Dl645

namespace Aether485

/-- The power of the first device. -/
def firstPowerFrame : List UInt8 := [0x5A, 0xA5, 4, 1, 1, 0x12, 0x34, 0x88, 0x8B]

def twoTargets : List PollTarget := [⟨1, .telemetry, 1, 1⟩, ⟨2, .telemetry, 2, 1⟩]

def powerDuring (deviceId : UInt8) (query : Query) : Arrival :=
  if query = ⟨deviceId, 1⟩ then arrivalOf firstPowerFrame else silence

def powerRun (deviceId : UInt8) :
    List (Exchange fun _ : Query => Arrival) × Except Empty PollResult :=
  (pollOnce true twoTargets 0).serve (fun _ => powerDuring deviceId) []

/-- The point that is recorded for the response of the first device. -/
def powerPoint (pointId : UInt32) : DataPoint :=
  ⟨pointId, .telemetry, .float (Float.ofNat (0x1234 : UInt16).toNat)⟩

set_option maxRecDepth 8000 in
theorem powerRun_result : (powerRun 1).2 = .ok ⟨[powerPoint 1], [⟨2, "Read timeout"⟩]⟩ ∧
      (powerRun 2).2 = .ok ⟨[powerPoint 2], [⟨1, "Read timeout"⟩]⟩ :=
  ⟨rfl, rfl⟩

theorem powerDuring_onlyAnswers (query : Query) : OnlyAnswers query (powerDuring 1 query) := by
  rw [OnlyAnswers, powerDuring]
  split
  · rename_i item
    rw [item]
    exact forall_decoded (by decide +kernel)
  · intro _ within _ decoded
    obtain rfl := List.infix_nil.mp within
    cases decoded

theorem powerDuring_not_answer {query : Query} {frame : List UInt8} {response : DeviceResponse}
    (received : transact (buildRequest query) (powerDuring 2 query) = .ok frame)
    (decoded : parseResponse frame = .ok response) : ¬ Answers query response := by
  rw [powerDuring] at received
  split at received
  · rename_i item
    rw [item] at received ⊢
    have taken : transact (buildRequest ⟨2, 1⟩) (arrivalOf firstPowerFrame) =
        .ok firstPowerFrame := by decide +kernel
    have power : parseResponse firstPowerFrame = .ok ⟨1, some 1, 0x1234⟩ := by decide +kernel
    rw [taken] at received
    cases received
    rw [power] at decoded
    cases decoded
    decide +kernel
  · cases received

end Aether485

/-- The poll of a meter whose energy arrives during the transaction for a data item. -/
def energyPoll (diCode : UInt32) (result : PollResult)
    (ends : (Dl645.energyRun diCode).2 = .ok result) : SerialPoll :=
  .meter "123456789012" (some "Serial port closed") 0 (Dl645.energyRun diCode).1 result
    (ends ▸ Interaction.runs_serve _ _ _)

/-- The poll of two devices with the power of the first one during the query of a device. -/
def powerPoll (deviceId : UInt8) (result : PollResult)
    (ends : (powerRun deviceId).2 = .ok result) : SerialPoll :=
  .devices true twoTargets 0 (powerRun deviceId).1 result
    (ends ▸ Interaction.runs_serve _ _ _)

variable {result : PollResult}

theorem energyPoll_onlyAnswers (ends : (Dl645.energyRun 0x00010000).2 = .ok result) :
    (energyPoll 0x00010000 result ends).OnlyAnswers := by
  intro request arrival asked
  have same : arrival = Dl645.energyDuring 0x00010000 request := Interaction.mem_serve asked
  rw [same]
  exact Dl645.energyDuring_onlyAnswers request

theorem powerPoll_onlyAnswers (ends : (powerRun 1).2 = .ok result) :
    (powerPoll 1 result ends).OnlyAnswers := by
  intro query arrival asked
  have same : arrival = powerDuring 1 query := Interaction.mem_serve asked
  rw [same]
  exact powerDuring_onlyAnswers query

/-- The energy of the meter and the power of the first device arrive in time. -/
theorem serial_values_from_own_answers_in_time : ∃ energy power : SerialPoll,
    energy.result.data.map DataPoint.id = [1] ∧ power.result.data.map DataPoint.id = [1] ∧
      energy.Matched ∧ power.Matched := by
  let energy := energyPoll 0x00010000 _ rfl
  let power := powerPoll 1 _ powerRun_result.1
  have matched := serial_values_from_own_answers [energy, power] (by
    intro _ member
    rcases List.mem_cons.mp member with rfl | member
    · exact energyPoll_onlyAnswers _
    · obtain rfl := List.mem_singleton.mp member
      exact powerPoll_onlyAnswers _)
  exact ⟨energy, power, rfl, rfl, matched energy List.mem_cons_self,
    matched power (List.mem_cons_of_mem _ List.mem_cons_self)⟩

/-- The positive energy that arrives late is recorded as the reverse energy of the meter, and the
power of the first device as the power of the second. -/
theorem late_response_recorded_for_next_point : ∃ energy power : SerialPoll,
    energy.result.data.map DataPoint.id = [2] ∧ power.result.data.map DataPoint.id = [2] ∧
      ¬ energy.Matched ∧ ¬ power.Matched := by
  refine ⟨energyPoll 0x00020000 _ rfl, powerPoll 2 _ powerRun_result.2, rfl, rfl,
    fun matched => ?_, fun matched => ?_⟩
  · obtain ⟨_, _, -, -, _, _, _, taken⟩ :=
      matched _ List.mem_cons_self
    obtain ⟨arrival, asked, received⟩ := taken.received
    have same : arrival = Dl645.energyDuring 0x00020000 _ := Interaction.mem_serve asked
    rw [same] at received
    exact Dl645.energyDuring_not_answer received taken.decoded taken.answers
  · obtain ⟨_, _, _, taken⟩ := matched _ List.mem_cons_self
    obtain ⟨arrival, asked, received⟩ := taken.received
    have same : arrival = powerDuring 2 _ := Interaction.mem_serve asked
    rw [same] at received
    exact powerDuring_not_answer received taken.decoded taken.answers

end AetherIot.Io
