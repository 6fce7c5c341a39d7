import AetherIot.CloudLink.MqttManager

/-!
# Progress of the CloudLink MQTT path

The manager waits for room in the request queue that it alone empties, and in the channels that the
runtime empties only between its sends; the runtime waits for room in the outbound channel that the
manager empties.  While every send and every branch of the manager starts with room for all it puts
into a channel, the two tasks never wait for each other, and an offer of all retained records
completes.
-/

namespace AetherIot.CloudLink

open GuardedRun MqttPath

variable (capacity : Nat)

/-- The manager waits for room. -/
def MqttPath.ManagerBlocked (path : MqttPath) : Prop :=
  ∃ action manager, path.manager = action :: manager ∧ path.proceed capacity action manager = none

/-- The runtime waits: for an event, for room in the outbound channel, or for a result. -/
def MqttPath.PublisherBlocked (path : MqttPath) : Prop :=
  (∃ control, path.publisher = .reading control ∧ path.events = [] ∧
      (control = true → path.offers = 0)) ∨
    (∃ command remaining awaitsResult control,
      path.publisher = .sending (command :: remaining) awaitsResult control ∧
        capacity ≤ path.outbound.length) ∨
    ∃ control, path.publisher = .awaiting control

/-- Both tasks wait, and neither can end the wait of the other. -/
def MqttPath.BothBlocked (path : MqttPath) : Prop :=
  path.ManagerBlocked capacity ∧ path.PublisherBlocked capacity

/-- The runtime waits for a result or is about to. -/
def Publisher.Awaits : Publisher → Prop
  | .reading _ => False
  | .sending _ awaitsResult _ => awaitsResult = true
  | .awaiting _ => True

instance (publisher : Publisher) : Decidable publisher.Awaits :=
  match publisher with
  | .reading _ => isFalse id
  | .sending _ awaitsResult _ => inferInstanceAs (Decidable (awaitsResult = true))
  | .awaiting _ => isTrue trivial

/-- The commands that the runtime still has to send. -/
def Publisher.remaining : Publisher → Nat
  | .sending remaining _ _ => remaining.length
  | _ => 0

namespace ManagerAction

def isRequest : ManagerAction → Bool
  | .request _ => true
  | _ => false

def isNotice : ManagerAction → Bool
  | .notice _ => true
  | _ => false

def isOffer : ManagerAction → Bool
  | .offer => true
  | _ => false

end ManagerAction

open ManagerAction

/-- Everything the two tasks are about to put into a channel has room there: the requests and offers
of the manager, the commands of the runtime, and the events of the manager while the runtime waits for
a result. -/
structure MqttPath.Fits (path : MqttPath) : Prop where
  requests : path.requests.length + path.manager.countP isRequest ≤ capacity
  offers : path.offers + path.manager.countP isOffer ≤ capacity
  outbound : path.outbound.length + path.publisher.remaining ≤ capacity
  events : path.publisher.Awaits → path.events.length + path.manager.countP isNotice ≤ capacity

/-- A branch of the manager starts with room for its requests and its offer, and for its event while
the runtime waits for a result; a send starts with room for all its commands, and a command with a
result when the manager has room for its events. -/
def HasRoom (path : MqttPath) : PathInput → Prop
  | .take => path.manager = [] → path.requests.length < capacity
  | .poll result =>
    path.manager = [] →
      (result = .connAck → path.requests.length + MqttPath.subscribeTopics ≤ capacity) ∧
      (result = .lost → path.requests.length < capacity) ∧
      (∀ validTransport, result = .publish .offer validTransport → path.offers < capacity) ∧
      (path.publisher.Awaits → path.events.length < capacity)
  | .send deliveries => path.outbound.length + deliveries.length ≤ capacity
  | .enableIntegrationControl | .integrationControlReceipt =>
    path.outbound.length < capacity ∧ path.events.length + path.manager.countP isNotice ≤ capacity
  | _ => True

instance (capacity : Nat) (path : MqttPath) (input : PathInput) :
    Decidable (HasRoom capacity path input) :=
  match input with
  | .take => inferInstanceAs (Decidable (_ → _))
  | .poll _ => inferInstanceAs (Decidable (_ → _ ∧ _ ∧ _ ∧ _))
  | .send _ => inferInstanceAs (Decidable (_ ≤ _))
  | .enableIntegrationControl => inferInstanceAs (Decidable (_ ∧ _))
  | .integrationControlReceipt => inferInstanceAs (Decidable (_ ∧ _))
  | .proceed => isTrue trivial
  | .turn => isTrue trivial
  | .readEvent => isTrue trivial
  | .readOffer => isTrue trivial
  | .listen _ => isTrue trivial

section Steps

variable {capacity : Nat} {path : MqttPath}

/-- The two tasks do not both wait when everything they put into a channel has room. -/
theorem MqttPath.Fits.not_bothBlocked (fits : path.Fits capacity) (positive : 0 < capacity) :
    ¬ path.BothBlocked capacity := by
  rintro ⟨⟨action, _, branch, blocked⟩, waits⟩
  have requests := fits.requests
  have offers := fits.offers
  have events := fits.events
  rw [branch] at requests offers events
  cases action with
  | request =>
    rw [List.countP_cons_of_pos rfl] at requests
    simp [proceed] at blocked
    omega
  | offer =>
    rw [List.countP_cons_of_pos rfl] at offers
    simp [proceed] at blocked
    omega
  | notice =>
    rw [List.countP_cons_of_pos rfl] at events
    have full : capacity ≤ path.events.length := by simpa [proceed] using blocked
    rcases waits with ⟨_, _, empty, -⟩ |
      ⟨_, _, _, _, sending, _⟩ | ⟨_, awaiting⟩
    · rw [empty, List.length_nil] at full
      omega
    · have outbound := fits.outbound
      rw [sending, Publisher.remaining, List.length_cons] at outbound
      omega
    · have := events (by rw [awaiting]; trivial)
      omega
  | activate | reply | reconnect => simp [proceed] at blocked

variable {command : ManagerCommand} {action : ManagerAction} {manager : List ManagerAction}
  {next : MqttPath} {remaining : List ManagerCommand} {awaitsResult control : Bool}
  {input : PathInput}

/-- A request that is sent leaves the queue. -/
theorem poll_outgoing (packet : Nat) : ∃ waitingPacketId inflight, path.poll (.outgoing packet) =
      { path with requests := path.requests.tail, waitingPacketId, inflight } := by
  rw [poll]
  split
  · rename_i identity waitingPacketId sent _
    exact ⟨waitingPacketId, (packet, identity) :: path.inflight, by rw [sent]; rfl⟩
  · rename_i sent _
    exact ⟨path.waitingPacketId.tail, path.inflight, by rw [sent]; rfl⟩
  · exact ⟨path.waitingPacketId, path.inflight, rfl⟩

/-- The runtime waits for nothing more after it has a result. -/
theorem Publisher.remaining_resume (publisher : Publisher) :
    publisher.resume.remaining = publisher.remaining := by
  cases publisher <;> rfl

theorem Publisher.awaits_of_resume {publisher : Publisher} (awaits : publisher.resume.Awaits) :
    publisher.Awaits := by
  cases publisher with
  | reading | sending => exact awaits
  | awaiting => trivial

theorem Publisher.remaining_next (remaining : List ManagerCommand) (awaitsResult control : Bool) :
    (Publisher.next remaining awaitsResult control).remaining = remaining.length := by
  cases remaining with
  | nil => cases awaitsResult <;> rfl
  | cons => rfl

theorem Publisher.awaits_next (awaits : (Publisher.next remaining awaitsResult control).Awaits) :
    awaitsResult = true := by
  cases awaitsResult with
  | true => rfl
  | false =>
    cases remaining with
    | nil => exact awaits.elim
    | cons => exact awaits

theorem publisher_poll (result : PollResult) : (path.poll result).publisher = path.publisher := by
  cases result with
  | outgoing packet =>
    obtain ⟨_, _, same⟩ := @poll_outgoing path packet
    rw [same]
  | pubAck =>
    rw [poll]
    split <;> rfl
  | publish topic =>
    cases topic with
    | offer =>
      rw [poll]
      split <;> rfl
    | route | other => rfl
  | _ => rfl

theorem publisher_proceed (performed : path.proceed capacity action manager = some next)
    (sending : path.publisher = .sending remaining awaitsResult control) :
    next.publisher = .sending remaining awaitsResult control := by
  cases action with
  | request | notice | offer =>
    obtain ⟨-, ⟨⟩⟩ := Option.ite_none_right_eq_some.mp performed
    exact sending
  | reply =>
    cases performed
    change path.publisher.resume = _
    rw [sending]
    rfl
  | activate | reconnect =>
    cases performed
    exact sending

/-- Only its own turns change what the runtime sends. -/
theorem step_publisher_of_sending
    (sending : path.publisher = .sending remaining awaitsResult control) (other : input ≠ .turn) :
    (path.step capacity input).publisher = .sending remaining awaitsResult control := by
  cases input with
  | take =>
    rw [step]
    split
    · rename_i command _ _ _
      cases command with
      | baseline => exact sending
      | enableIntegrationControl | integrationControlReceipt =>
        rw [take]
        split <;> exact sending
    · exact sending
  | poll =>
    rw [step]
    split
    · rw [publisher_poll]
      exact sending
    · exact sending
  | proceed =>
    rw [step]
    split
    · exact sending
    · rename_i action manager _
      cases performed : path.proceed capacity action manager with
      | none => exact sending
      | some => exact publisher_proceed performed sending
  | send | enableIntegrationControl | integrationControlReceipt =>
    rwa [step, start, sending]
  | turn => exact absurd rfl other
  | readEvent | readOffer | listen => rwa [step, sending]

section

variable (fits : path.Fits capacity)

include fits

theorem fits_take {outbound : List ManagerCommand}
    (head : path.outbound = command :: outbound) (room : path.requests.length < capacity) :
    (path.take command outbound).Fits capacity := by
  have shorter : outbound.length + path.publisher.remaining ≤ capacity := by
    have bound := fits.outbound
    rw [head, List.length_cons] at bound
    omega
  have offers : path.offers ≤ capacity := le_trans (Nat.le_add_right _ _) fits.offers
  have events : path.publisher.Awaits → path.events.length ≤ capacity :=
    fun awaits => le_trans (Nat.le_add_right _ _) (fits.events awaits)
  have whole : path.requests.length ≤ capacity := le_of_lt room
  cases command with
  | baseline => exact ⟨room, offers, shorter, events⟩
  | enableIntegrationControl =>
    rw [take]
    split
    · exact ⟨whole, offers, shorter, events⟩
    · exact ⟨room, offers, shorter, events⟩
  | integrationControlReceipt =>
    rw [take]
    split
    · exact ⟨room, offers, shorter, events⟩
    · exact ⟨whole, offers, shorter, events⟩

theorem fits_poll {result : PollResult} (selects : path.manager = [])
    (room : HasRoom capacity path (.poll result)) : (path.poll result).Fits capacity := by
  obtain ⟨connects, disconnects, offered, quiet⟩ := room selects
  obtain ⟨requests, offers, outbound, events⟩ := fits
  rw [selects] at requests offers events
  cases result with
  | connAck => exact ⟨connects rfl, offers, outbound, quiet⟩
  | outgoing packet =>
    obtain ⟨_, _, same⟩ := @poll_outgoing path packet
    have shorter : path.requests.tail.length ≤ capacity := by
      rw [List.length_tail]
      exact le_trans (Nat.sub_le _ _) requests
    rw [same]
    exact ⟨by rwa [selects], by rwa [selects], outbound, by rwa [selects]⟩
  | pubAck =>
    rw [poll]
    split
    · exact ⟨requests, offers, outbound, quiet⟩
    · exact ⟨by rwa [selects], by rwa [selects], outbound, by rwa [selects]⟩
  | publish topic =>
    cases topic with
    | offer =>
      rw [poll]
      split
      · exact ⟨requests, offered _ rfl, outbound, events⟩
      · exact ⟨requests, offers, outbound, quiet⟩
    | route | other => exact ⟨requests, offers, outbound, quiet⟩
  | lost => exact ⟨disconnects rfl, offers, outbound, quiet⟩
  | other => exact ⟨by rwa [poll, selects], by rwa [poll, selects], outbound,
      by rwa [poll, selects]⟩

theorem fits_proceed (branch : path.manager = action :: manager)
    (performed : path.proceed capacity action manager = some next) : next.Fits capacity := by
  obtain ⟨requests, offers, outbound, events⟩ := fits
  rw [branch, List.countP_cons] at requests offers events
  cases action with
  | request request =>
    obtain ⟨-, ⟨⟩⟩ := Option.ite_none_right_eq_some.mp performed
    refine ⟨?_, offers, outbound, events⟩
    change (path.requests ++ [request]).length + manager.countP _ ≤ capacity
    rw [List.length_append, List.length_singleton]
    simp only [isRequest, if_true] at requests
    omega
  | notice notice =>
    obtain ⟨-, ⟨⟩⟩ := Option.ite_none_right_eq_some.mp performed
    refine ⟨requests, offers, outbound, fun awaits => ?_⟩
    have bound := events awaits
    change (path.events ++ [notice]).length + manager.countP _ ≤ capacity
    rw [List.length_append, List.length_singleton]
    simp only [isNotice, if_true] at bound
    omega
  | offer =>
    obtain ⟨-, ⟨⟩⟩ := Option.ite_none_right_eq_some.mp performed
    refine ⟨requests, ?_, outbound, events⟩
    simp only [isOffer, if_true] at offers
    change path.offers + 1 + manager.countP _ ≤ capacity
    omega
  | activate =>
    cases performed
    exact ⟨requests, offers, outbound, events⟩
  | reply =>
    cases performed
    refine ⟨requests, offers, ?_, fun awaits => events (Publisher.awaits_of_resume awaits)⟩
    rw [Publisher.remaining_resume]
    exact outbound
  | reconnect =>
    cases performed
    refine ⟨?_, offers, outbound, events⟩
    exact le_trans (Nat.add_le_add_right (Nat.zero_le _) _) requests

theorem fits_start {commands : List ManagerCommand}
    (room : path.outbound.length + commands.length ≤ capacity) (quiet : awaitsResult = true →
      path.events.length + path.manager.countP isNotice ≤ capacity) :
    (path.start commands awaitsResult).Fits capacity := by
  rw [start]
  split
  · refine ⟨fits.requests, fits.offers, ?_, fun awaits => quiet (Publisher.awaits_next awaits)⟩
    rw [Publisher.remaining_next]
    exact room
  · exact fits

theorem fits_turn : (path.step capacity .turn).Fits capacity := by
  rw [step]
  split
  · rename_i sending
    split
    · refine ⟨fits.requests, fits.offers, ?_, fun awaits => fits.events ?_⟩
      · have bound := fits.outbound
        rw [sending, Publisher.remaining, List.length_cons] at bound
        rw [Publisher.remaining_next, List.length_append, List.length_singleton]
        omega
      · rw [sending]
        exact Publisher.awaits_next awaits
    · exact fits
  · exact fits

/-- Every step that finds room keeps room for all that the two tasks are about to put into a
channel. -/
theorem MqttPath.Fits.step (room : HasRoom capacity path input) :
    (path.step capacity input).Fits capacity := by
  cases input with
  | take =>
    rw [step]
    split
    · rename_i outbound selects head
      exact fits_take fits head (room selects)
    · exact fits
  | poll =>
    rw [step]
    split
    · rename_i selects
      exact fits_poll fits selects room
    · exact fits
  | proceed =>
    rw [step]
    split
    · exact fits
    · rename_i action manager branch
      cases performed : path.proceed capacity action manager with
      | none => exact fits
      | some => exact fits_proceed fits branch performed
  | send =>
    refine fits_start fits ?_ (fun awaits => by cases awaits)
    rw [List.length_map]
    exact room
  | enableIntegrationControl | integrationControlReceipt =>
    exact fits_start fits room.1 fun _ => room.2
  | turn => exact fits_turn fits
  | readEvent =>
    rw [step]
    split
    · rename_i reading
      exact ⟨fits.requests, fits.offers, fits.outbound, fun awaits => by
        rw [reading] at awaits; exact awaits.elim⟩
    · exact fits
  | readOffer =>
    rw [step]
    split
    · refine ⟨fits.requests, ?_, fits.outbound, fits.events⟩
      exact le_trans (Nat.add_le_add_right (Nat.sub_le _ _) _) fits.offers
    · exact fits
  | listen =>
    rw [step]
    split
    · rename_i reading
      have outbound := fits.outbound
      rw [reading] at outbound
      exact ⟨fits.requests, fits.offers, outbound, fun awaits => awaits.elim⟩
    · exact fits

/-- With room for its commands the runtime sends the next one. -/
theorem step_turn_of_sending
    (sending : path.publisher = .sending (command :: remaining) awaitsResult control) :
    (path.step capacity .turn).publisher = Publisher.next remaining awaitsResult control := by
  have bound := fits.outbound
  rw [sending, Publisher.remaining, List.length_cons] at bound
  rw [step, sending]
  simp only [if_pos (show path.outbound.length < capacity by omega)]

end

end Steps

variable {capacity : Nat} {path : MqttPath} {remaining : List ManagerCommand}
  {awaitsResult control : Bool}

/-- The runtime ends its sends after as many turns as it has commands. -/
theorem sends_complete {inputs : List PathInput} (fits : path.Fits capacity)
    (room : Guarded (step capacity) (HasRoom capacity) path inputs)
    (sending : path.publisher = .sending remaining awaitsResult control) (unsent : remaining ≠ [])
    (turns : remaining.length ≤ inputs.count .turn) :
    ∃ middle, middle <+: inputs ∧ (run (step capacity) path middle).publisher =
        Publisher.next [] awaitsResult control := by
  induction inputs generalizing path remaining with
  | nil => exact absurd (List.length_eq_zero_iff.mp (Nat.le_zero.mp turns)) unsent
  | cons input inputs ih =>
    have fitsNext := fits.step room.1
    by_cases own : input = .turn
    · subst own
      rw [List.count_cons_self] at turns
      obtain ⟨_, rest, rfl⟩ := List.exists_cons_of_ne_nil unsent
      have sent := step_turn_of_sending fits sending
      cases rest with
      | nil => exact ⟨[.turn], ⟨inputs, rfl⟩, sent⟩
      | cons =>
        rw [List.length_cons] at turns
        obtain ⟨middle, ⟨later, rfl⟩, ended⟩ :=
          ih fitsNext room.2 sent (List.cons_ne_nil _ _) (by omega)
        exact ⟨.turn :: middle, ⟨later, rfl⟩, ended⟩
    · rw [List.count_cons_of_ne own] at turns
      obtain ⟨middle, ⟨later, rfl⟩, ended⟩ :=
        ih fitsNext room.2 (step_publisher_of_sending sending own) unsent turns
      exact ⟨input :: middle, ⟨later, rfl⟩, ended⟩

/-- In every run in which every branch of the manager and every send of the runtime starts with room
for all it puts into a channel, the two tasks are never both blocked, and an offer of all retained
records completes after as many turns of the runtime as there are records left. -/
theorem mqtt_path_progresses (capacity : Nat) (positive : 0 < capacity)
    (front back : List PathInput)
    (room : Guarded (step capacity) (HasRoom capacity) .initial (front ++ back)) :
    ¬ (run (step capacity) .initial front).BothBlocked capacity ∧
      ∀ remaining control, remaining ≠ [] →
        (run (step capacity) .initial front).publisher = .sending remaining false control →
        remaining.length ≤ back.count .turn →
        ∃ middle, middle <+: back ∧
          (run (step capacity) .initial (front ++ middle)).publisher =
            .reading control := by
  obtain ⟨before, later⟩ := guarded_append.mp room
  have preserved : ∀ path input, MqttPath.Fits capacity path → HasRoom capacity path input →
      (path.step capacity input).Fits capacity := fun _ _ fits found => fits.step found
  have start : initial.Fits capacity :=
    ⟨Nat.zero_le _, Nat.zero_le _, Nat.zero_le _, fun awaits => awaits.elim⟩
  have fits := invariant preserved start before
  refine ⟨fits.not_bothBlocked positive, ?_⟩
  intro _ _ unsent sending turns
  obtain ⟨middle, part, ended⟩ := sends_complete fits later sending unsent turns
  refine ⟨middle, part, ?_⟩
  rw [run_append]
  exact ended

/-- The connection is made, the manager subscribes and the runtime reads `Connected`. -/
def connection : List PathInput :=
  .poll .connAck :: List.replicate 4 .proceed ++ List.replicate 3 (.poll (.outgoing 0)) ++
    [.readEvent]

/-- The runtime starts to offer some retained records. -/
def offerRecords (count : Nat) : PathInput :=
  .send ((List.range count).map some)

/-- Four records are offered through channels of capacity four. -/
theorem mqtt_path_progresses_four_records : ∃ middle, middle <+: List.replicate 4 .turn ∧
      (run (step 4) .initial (connection ++ [offerRecords 4] ++ middle)).publisher =
        .reading false :=
  (mqtt_path_progresses 4 (by decide) (connection ++ [offerRecords 4]) (List.replicate 4 .turn)
    (by decide +kernel)).2 [.baseline (some 0), .baseline (some 1), .baseline (some 2),
      .baseline (some 3)] false (by decide) (by decide +kernel) (by decide)

/-- A blocked manager and a runtime with a command to send stay as they are. -/
theorem step_of_bothBlocked (blocked : path.BothBlocked capacity)
    (sending : path.publisher = .sending remaining awaitsResult control) (input : PathInput) :
    path.step capacity input = path := by
  obtain ⟨⟨_, _, branch, waits⟩, publisher⟩ := blocked
  obtain ⟨⟨command, rest, rfl⟩, full⟩ :
      (∃ command rest, remaining = command :: rest) ∧ capacity ≤ path.outbound.length := by
    simpa [MqttPath.PublisherBlocked, sending] using publisher
  cases input with
  | take | poll => simp [step, branch]
  | proceed => simp [step, branch, waits]
  | send | enableIntegrationControl | integrationControlReceipt =>
    simp [step, start, sending]
  | turn => simp [step, sending, Nat.not_lt.mpr full]
  | readEvent | readOffer | listen => simp [step, sending]

/-- A record is sent, published, and acknowledged by the broker. -/
def acknowledgedRecord (packet : Nat) : List PathInput :=
  [.turn, .take, .proceed, .poll (.outgoing packet), .poll (.pubAck packet), .proceed]

/-- The broker acknowledges five of ten records before the manager takes another command. -/
def backlog : List PathInput :=
  connection ++ [offerRecords 10] ++ (List.range 5).flatMap acknowledgedRecord ++
    List.replicate 4 .turn

/-- The manager waits for the runtime to read an event, and the runtime waits for the manager to take a
command: the tenth record is never offered, and no disconnection is reported. -/
theorem backlog_blocks_both_tasks : (run (step 4) .initial backlog).publisher =
        .sending [.baseline (some 9)] false false ∧
      .disconnected ∉ (run (step 4) .initial backlog).events ∧
      ∀ later, run (step 4) .initial (backlog ++ later) =
        run (step 4) .initial backlog := by
  have sending : (run (step 4) .initial backlog).publisher =
      .sending [.baseline (some 9)] false false := by
    decide +kernel
  have blocked : (run (step 4) .initial backlog).BothBlocked 4 := by
    refine ⟨⟨.notice (.transportPublished 4), [], by decide +kernel, by decide +kernel⟩,
      .inr (.inl ⟨.baseline (some 9), [], false, false, sending, by decide +kernel⟩)⟩
  refine ⟨sending, by decide +kernel, ?_⟩
  intro later
  rw [run_append]
  induction later with
  | nil => rw [run_nil]
  | cons _ _ ih =>
    rw [run_cons, step_of_bothBlocked blocked sending]
    exact ih

end AetherIot.CloudLink
