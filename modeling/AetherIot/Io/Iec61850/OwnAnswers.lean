import AetherIot.Io.Iec61850.Connecting
import AetherIot.Io.Iec61850.Transport

/-!
# Requests get their own answers

Responses are matched to requests only by their order on the connection.  As long as the channel has
consumed one response for each request and stands at a frame boundary, the next response is that of
the next request.  A failed request of a poll or a write ends the connection; a failed one while
connecting does not, and a report read that is cut short does not either.
-/

namespace AetherIot.Io.Iec61850

open Interaction

inductive Phase where
  | connecting
  | operating
  deriving DecidableEq

/-- A request to the framing layer, as it was served. -/
abbrev LinkEvent := Interaction.Served Link Await LinkRequest

/-- The invoke identifier of a confirmed response. -/
def responseId (pdu : List UInt8) : Option UInt8 := do
  let (_, content) ← parseTlv pdu 0xA1
  let (_, identifier) ← parseTlv content 0x02
  return identifier.head?.getD 0

/-- One response was consumed for each request, and the next byte begins a frame. -/
def Link.InStep (link : Link) : Prop := Reached link.stream link.position link.sent

/-- The response that the server sends to the next request, by order, carries its identifier. -/
def Link.AnswersWith (link : Link) (invokeId : UInt8) : Prop :=
  ∀ boundary pdu length, Reached link.stream boundary link.sent →
    recvMmsRaw (link.stream.drop boundary) = .unit pdu length → isReport pdu = false →
    ∀ identifier, responseId pdu = some identifier → identifier = invokeId

/-- The server answers in order, requests while connecting are answered in time, and reports are not
cut short. -/
def Undisturbed (phase : Phase) (event : LinkEvent) : Prop :=
  match event.request with
  | .connect => True
  | .takePendingReports => True
  | .drainSocket => WholeReports (event.state.available event.input)
  | .transact invokeId _ => event.state.AnswersWith invokeId ∧
      (phase = .connecting →
        event.input.sendError = none ∧ Leads (event.state.available event.input))

def Link.Aligned (link : Link) : Prop := ∃ responses, Reached link.stream link.position responses

/-- The unit is that of a whole frame, and a value or success taken from it is that of the request. -/
structure Link.Owns (link : Link) (invokeId : UInt8) (pdu : List UInt8) : Prop where
  whole : ∃ boundary responses payload length, Reached link.stream boundary responses ∧
    recvTpkt (link.stream.drop boundary) = .complete payload length ∧
    unwrapDataPdu payload = some pdu
  read : ∀ identifier value, parseReadResponse pdu = .ok (identifier, value) → identifier = invokeId
  write : ∀ identifier, parseWriteResponse pdu = .ok identifier → identifier = invokeId

/-- The framing layer is used at a frame boundary only, and a response is the request's own. -/
def Right (event : LinkEvent) : Prop :=
  match event.request with
  | .connect => True
  | .takePendingReports => True
  | .drainSocket => event.state.Aligned
  | .transact invokeId service => event.state.Aligned ∧
      ∀ pdu, (Link.handle event.input event.state (.transact invokeId service)).1 = .ok pdu →
        event.state.Owns invokeId pdu

theorem expectTlv_eq_ok {buffer : List UInt8} {tag : UInt8} {message : String}
    {element : List UInt8 × List UInt8} (found : expectTlv buffer tag message = .ok element) :
    parseTlv buffer tag = some element := by
  rw [expectTlv] at found
  cases parsed : parseTlv buffer tag with
  | none => simp [parsed] at found
  | some =>
    simp only [parsed] at found
    cases found
    rfl

variable {pdu : List UInt8} {identifier invokeId : UInt8} {link : Link} {wait : Await}
  {service : Service} {station : Station} {events : List LinkEvent} {channel : Channel}

theorem responseId_of_parseReadResponse {value : MmsValue}
    (parsed : parseReadResponse pdu = .ok (identifier, value)) :
    responseId pdu = some identifier := by
  obtain ⟨⟨_, _⟩, outer, parsed⟩ := Attempt.bind_eq_ok.mp parsed
  obtain ⟨⟨_, _⟩, inner, parsed⟩ := Attempt.bind_eq_ok.mp parsed
  obtain ⟨_, -, parsed⟩ := Attempt.bind_eq_ok.mp parsed
  obtain ⟨_, -, parsed⟩ := Attempt.bind_eq_ok.mp parsed
  obtain ⟨_, -, parsed⟩ := Attempt.bind_eq_ok.mp parsed
  cases parsed
  simp [responseId, expectTlv_eq_ok outer, expectTlv_eq_ok inner]

theorem responseId_of_parseWriteResponse (parsed : parseWriteResponse pdu = .ok identifier) :
    responseId pdu = some identifier := by
  obtain ⟨⟨_, _⟩, outer, parsed⟩ := Attempt.bind_eq_ok.mp parsed
  obtain ⟨⟨_, bytes⟩, inner, parsed⟩ := Attempt.bind_eq_ok.mp parsed
  obtain ⟨⟨_, response⟩, -, parsed⟩ := Attempt.bind_eq_ok.mp parsed
  have identified : bytes.head?.getD 0 = identifier := by
    revert parsed
    dsimp only
    cases response.head? with
    | none => exact fun impossible => by cases impossible
    | some =>
      dsimp only
      split
      · intro same
        cases same
        rfl
      · split
        · exact fun impossible => by cases impossible
        · exact fun impossible => by cases impossible
  simp [responseId, expectTlv_eq_ok outer, expectTlv_eq_ok inner, identified]

/-- A response that arrives in time is the request's own, and the link stays in step. -/
theorem owns_of_receipt (inStep : link.InStep) (answers : link.AnswersWith invokeId)
    (returned : (link.receipt wait).outcome = .ok pdu) :
    link.Owns invokeId pdu ∧
      Reached link.stream (link.position + (link.receipt wait).consumed) (link.sent + 1) := by
  obtain ⟨boundary, length, reached, received, kind, consumed⟩ := recvMms_ok inStep returned
  obtain ⟨payload, framed, unwrapped⟩ := unit_iff_complete.mp received
  have own := answers boundary pdu length reached received kind
  refine ⟨⟨⟨boundary, link.sent, payload, length, reached, framed, unwrapped⟩, ?_, ?_⟩, ?_⟩
  · exact fun identifier value parsed => own identifier (responseId_of_parseReadResponse parsed)
  · exact fun identifier parsed => own identifier (responseId_of_parseWriteResponse parsed)
  · have next := reached.response received kind
    rw [← consumed] at next
    exact next

/-- The program uses the framing layer right, and leaves it in step if its result is good. -/
abbrev StaysInStep {α : Type} (phase : Phase) (program : Program α) (good : α → Prop) : Prop :=
  program.Keeps Link.handle (Undisturbed phase) Right Link.InStep good

theorem handle_transact_of_sent (sent : wait.sendError = none) :
    Link.handle wait link (.transact invokeId service) = ((link.receipt wait).outcome, { link with
      position := link.position + (link.receipt wait).consumed
      pendingReports := link.pendingReports ++ (link.receipt wait).reports
      sent := link.sent + 1 }) := by
  simp only [Link.handle, sent]

theorem handle_transact_ok (inStep : link.InStep) (answers : link.AnswersWith invokeId)
    (returned : (Link.handle wait link (.transact invokeId service)).1 = .ok pdu) :
    link.Owns invokeId pdu ∧ (Link.handle wait link (.transact invokeId service)).2.InStep := by
  cases sent : wait.sendError with
  | some =>
    simp only [Link.handle, sent] at returned
    cases returned
  | none =>
    rw [handle_transact_of_sent sent] at returned ⊢
    exact owns_of_receipt inStep answers returned

theorem staysInStep_doRequestRaw (phase : Phase) (invokeId : UInt8) (service : Service) :
    StaysInStep phase (doRequestRaw invokeId service) fun reply => ∃ pdu, reply = .ok pdu := by
  rintro _ _ _ _ ⟨_, _, rfl, rfl, rfl, same⟩ guarded inStep
  have answers := (guarded _ (List.mem_singleton_self _)).1
  cases same
  refine ⟨fun event member => ?_, fun ⟨pdu, returned⟩ =>
    (handle_transact_ok inStep answers returned).2⟩
  rw [List.mem_singleton.mp member]
  exact ⟨⟨_, inStep⟩, fun pdu returned => (handle_transact_ok inStep answers returned).1⟩

/-- While connecting every request is answered. -/
theorem staysInStep_doRequestRaw_connecting (invokeId : UInt8) (service : Service) :
    StaysInStep .connecting (doRequestRaw invokeId service) fun _ => True := by
  intro before events after reply run guarded inStep
  obtain ⟨right, kept⟩ := staysInStep_doRequestRaw .connecting invokeId service before events after
    reply run guarded inStep
  refine ⟨right, fun _ => kept ?_⟩
  obtain ⟨_, _, rfl, rfl, rfl, same⟩ := run
  obtain ⟨sent, leads⟩ := (guarded _ (List.mem_singleton_self _)).2 rfl
  cases same
  rw [handle_transact_of_sent sent]
  exact recvMms_of_leads leads _ (Nat.lt_succ_self _)

theorem staysInStep_decode_connecting {α : Type}
    (decode : Except GatewayError (List UInt8) → Except Fault α) (invokeId : UInt8)
    (service : Service) :
    StaysInStep .connecting (doRequestRaw invokeId service >>= fun reply =>
      ofExcept (decode reply)) fun _ => True :=
  (staysInStep_doRequestRaw_connecting invokeId service).bind_always fun _ =>
    keeps_ofExcept _ _

theorem staysInStep_drainSocket (phase : Phase) : StaysInStep phase drainSocket fun _ => True := by
  rintro before _ _ _ ⟨input, _, rfl, rfl, rfl, -⟩ guarded inStep
  have whole : WholeReports (before.available input) := guarded _ (List.mem_singleton_self _)
  refine ⟨fun event member => ?_, fun _ => reached_drainUnits inStep whole (Nat.lt_succ_self _)⟩
  rw [List.mem_singleton.mp member]
  exact ⟨_, inStep⟩

theorem staysInStep_takePendingReports (phase : Phase) :
    StaysInStep phase takePendingReports fun _ => True := by
  rintro _ _ _ _ ⟨_, _, rfl, rfl, rfl, -⟩ _ inStep
  refine ⟨fun event member => ?_, fun _ => inStep⟩
  rw [List.mem_singleton.mp member]
  trivial

namespace Channel

theorem staysInStep_collectReports {phase : Phase} {source : Program (List (List UInt8))}
    (kept : StaysInStep phase source fun _ => True) (channel : Channel) :
    StaysInStep phase (channel.collectReports source) fun _ => True := by
  rw [collectReports]
  split
  · exact kept
  · exact keeps_done _ _

def Alive {α : Type} (result : Channel × α) : Prop := result.1.connected = true

theorem not_alive_goDisconnected {α : Type} (channel : Channel) (value : α) :
    ¬ Alive (channel.goDisconnected, value) := by
  intro alive
  cases alive

def Up (channel : Channel) : Prop := channel.state = .connected → channel.connected = true

theorem up_goDisconnected (channel : Channel) : channel.goDisconnected.Up := by
  intro connected
  cases connected

/-- A program that disconnects and ends as soon as a request fails. -/
inductive Operating {α : Type} : Program (Channel × α) → Prop
  | done {channel : Channel} {value : α} (up : channel.Up) : Operating (.done (channel, value))
  | fault {fault : Fault} : Operating (.fail fault)
  | request {invokeId : UInt8} {service : Service}
      {next : Except GatewayError (List UInt8) → Program (Channel × α)}
      (rest : ∀ pdu, Operating (next (.ok pdu)))
      (ends : ∀ error, ∃ channel value, next (.error error) = .done (goDisconnected channel, value)) :
      Operating (doRequestRaw invokeId service >>= next)

section

variable {α : Type} {program : Program (Channel × α)}

theorem Operating.staysInStep (operating : Operating program) :
    StaysInStep .operating program Alive := by
  induction operating with
  | done => exact keeps_done _ _
  | fault => exact keeps_ofExcept (.error _) _
  | request _ ends ih =>
    refine (staysInStep_doRequestRaw .operating _ _).bind ?_ fun reply failed => ?_
    · rintro _ ⟨pdu, rfl⟩
      exact ih pdu
    · cases reply with
      | ok pdu => exact absurd ⟨pdu, rfl⟩ failed
      | error error =>
        obtain ⟨_, _, same⟩ := ends error
        rw [same]
        exact silent_done (not_alive_goDisconnected _ _)

theorem Operating.returns (operating : Operating program) :
    program.Returns fun result => result.1.Up := by
  induction operating with
  | done up => exact up
  | fault => trivial
  | request _ ends ih =>
    refine returns_bind fun reply => ?_
    cases reply with
    | ok pdu => exact ih pdu
    | error error =>
      obtain ⟨closed, _, same⟩ := ends error
      rw [same]
      exact closed.up_goDisconnected

theorem operating_decode {β : Type} {invokeId : UInt8} {service : Service}
    {decode : Except GatewayError (List UInt8) → Except Fault (Except GatewayError β)}
    {next : Except GatewayError β → Program (Channel × α)}
    (passes : ∀ error, decode (.error error) = .ok (.error error))
    (rest : ∀ value, Operating (next (.ok value)))
    (ends : ∀ error, ∃ channel value, next (.error error) = .done (goDisconnected channel, value)) :
    Operating ((doRequestRaw invokeId service >>= fun reply => ofExcept (decode reply)) >>= next) := by
  rw [bind_bind]
  refine .request (fun pdu => ?_) fun error => ?_
  · cases decode (.ok pdu) with
    | error => exact .fault
    | ok outcome =>
      cases outcome with
      | ok value => exact rest value
      | error error =>
        obtain ⟨closed, value, same⟩ := ends error
        change Operating (next (.error error))
        rw [same]
        exact .done closed.up_goDisconnected
  · rw [passes]
    exact ends error

end

section

variable {channel : Channel} (up : channel.Up)

include up

theorem operating_pollPoints (now : Int) (entries : List PointEntry) (collected : Collected) :
    Operating (pollPoints now entries channel collected) := by
  induction entries generalizing channel collected with
  | nil => exact .done up
  | cons _ _ ih =>
    rw [pollPoints]
    split
    · exact ih up collected
    · refine operating_decode (fun _ => rfl) (fun value => ?_) fun _ => ⟨_, _, rfl⟩
      cases value <;> exact @ih channel.nextInvokeId.2 up _

theorem operating_select {α : Type} {next : Channel × Selection → Program (Channel × α)}
    (entry : WriteEntry) (value : Bool)
    (rest : ∀ selected selection, selected.Up → Operating (next (selected, selection)))
    (ends : ∀ selected, ∃ channel value,
      next (selected, .broken) = .done (goDisconnected channel, value)) :
    Operating (channel.select entry value >>= next) := by
  rw [select]
  split
  · rw [bind_bind]
    refine .request (fun pdu => ?_) fun _ => ends _
    cases selectionOutcome (.ok pdu) with
    | error => exact .fault
    | ok selection => exact rest _ selection up
  · split
    · rw [bind_bind]
      exact operating_decode (fun _ => rfl) (fun _ => rest _ _ up) fun _ => ends _
    · exact rest _ _ up

theorem operating_operateAll (commands : List (UInt32 × Float)) (count : Nat) :
    Operating (operateAll commands channel count) := by
  induction commands generalizing channel count with
  | nil => exact .done up
  | cons _ _ ih =>
    rw [operateAll]
    split
    · exact ih up count
    · refine operating_select up _ _ (fun selected selection selectedUp => ?_) fun _ => ⟨_, _, rfl⟩
      cases selection with
      | broken => exact .done selected.up_goDisconnected
      | refused => exact ih selectedUp count
      | selected =>
        exact operating_decode (fun _ => rfl) (fun _ => @ih selected.nextInvokeId.2 selectedUp _)
          fun _ => ⟨_, _, rfl⟩

theorem operating_adjustAll (adjustments : List (UInt32 × Float)) (count : Nat) :
    Operating (adjustAll adjustments channel count) := by
  induction adjustments generalizing channel count with
  | nil => exact .done up
  | cons _ _ ih =>
    rw [adjustAll]
    split
    · exact ih up count
    · exact operating_decode (fun _ => rfl) (fun _ => @ih channel.nextInvokeId.2 up _)
        fun _ => ⟨_, _, rfl⟩

end

theorem staysInStep_pollOnce {channel : Channel} (connected : channel.state = .connected)
    (up : channel.Up) (now : Int) : StaysInStep .operating (channel.pollOnce now) Alive := by
  rw [pollOnce, if_neg (not_not_intro connected)]
  refine (staysInStep_collectReports (staysInStep_drainSocket _) channel).bind_always
    fun drained => ?_
  refine (operating_pollPoints up now channel.points _).staysInStep.bind ?_ ?_
  · rintro ⟨polled, _⟩ -
    refine (staysInStep_collectReports (staysInStep_takePendingReports _) polled).bind_always
      fun pending => ?_
    exact (keeps_ofExcept _ _).bind_always fun reported => keeps_done _ _
  · rintro ⟨polled, _⟩ down
    have closed : ¬ (polled.reportConfigs ≠ [] ∧ polled.connected = true) := fun both => down both.2
    dsimp only
    rw [collectReports, if_neg closed]
    exact (silent_ofExcept _).bind fun reported => silent_done down

theorem Connecting.staysInStep {kept : Channel → Prop} {program : Program Channel}
    (connecting : Connecting kept program) : StaysInStep .connecting program fun _ => True := by
  induction connecting with
  | done => exact keeps_done _ _
  | request _ _ ih => exact (staysInStep_decode_connecting _ _ _).bind_always ih

end Channel

open Channel

/-- The channel and its connection. -/
structure Station where
  channel : Channel
  link : Link

/-- An event with the phase in which it happened. -/
structure PhasedEvent where
  phase : Phase
  event : LinkEvent

/-- One operation of the channel, with what it asked of the framing layer. -/
inductive Operates : Station → List PhasedEvent → Station → Prop
  | connect {station : Station} {events : List LinkEvent} {channel : Channel} {link : Link}
      {outcome : Except GatewayError Unit}
      (run : station.channel.connect.RunsOn Link.handle station.link events link
        (.ok (channel, outcome))) :
      Operates station (events.map fun event => ⟨.connecting, event⟩) ⟨channel, link⟩
  | poll {station : Station} {events : List LinkEvent} {channel : Channel} {link : Link} {now : Int}
      {result : StampedPoll}
      (run : (station.channel.pollOnce now).RunsOn Link.handle station.link events link
        (.ok (channel, result))) :
      Operates station (events.map fun event => ⟨.operating, event⟩) ⟨channel, link⟩
  | control {station : Station} {events : List LinkEvent} {channel : Channel} {link : Link}
      {commands : List (UInt32 × Float)} {count : Nat}
      (run : (station.channel.writeControl commands).RunsOn Link.handle station.link events link
        (.ok (channel, count))) :
      Operates station (events.map fun event => ⟨.operating, event⟩) ⟨channel, link⟩
  | adjust {station : Station} {events : List LinkEvent} {channel : Channel} {link : Link}
      {adjustments : List (UInt32 × Float)} {count : Nat}
      (run : (station.channel.writeAdjustment adjustments).RunsOn Link.handle station.link events
        link (.ok (channel, count))) :
      Operates station (events.map fun event => ⟨.operating, event⟩) ⟨channel, link⟩
  | disconnect {station : Station} :
      Operates station [] ⟨station.channel.disconnect, station.link⟩

/-- The events and the outcome of any sequence of operations of a new channel. -/
inductive Session : List PhasedEvent → Station → Prop
  | start (reports : List ReportConfig) (settings : List PointSetting) (link : Link) :
      Session [] ⟨new reports settings, link⟩
  | operate {events later : List PhasedEvent} {before after : Station}
      (session : Session events before) (operates : Operates before later after) :
      Session (events ++ later) after

def Station.Ready (station : Station) : Prop :=
  station.channel.state = .connected → station.channel.connected = true ∧ station.link.InStep

namespace Channel

theorem returns_pollOnce (up : channel.Up) (now : Int) :
    (channel.pollOnce now).Returns fun result => result.1.Up := by
  rw [pollOnce]
  split
  · exact up
  · refine returns_bind fun drained => ?_
    refine (operating_pollPoints up now _ _).returns.bind ?_
    rintro ⟨_, _⟩ polledUp
    refine returns_bind fun pending => ?_
    exact returns_bind fun reported => polledUp

theorem settled_up : Settled Up where
  next _ up := up
  model channel probe model up := by
    rw [recordModel]
    split <;> exact up

end Channel

theorem ready_of_staysInStep {α : Type} {program : Program (Channel × α)} {value : α}
    (kept : StaysInStep .operating program Channel.Alive)
    (returns : program.Returns fun result => result.1.Up)
    (run : program.RunsOn Link.handle station.link events link (.ok (channel, value)))
    (inStep : station.link.InStep) (guarded : ∀ event ∈ events, Undisturbed .operating event) :
    (∀ event ∈ events, Right event) ∧ Station.Ready ⟨channel, link⟩ := by
  obtain ⟨right, still⟩ := kept _ _ _ _ run guarded inStep
  have up := returns.runsOn run
  exact ⟨right, fun connected => ⟨up connected, still (up connected)⟩⟩

/-- A program that returns at once leaves everything as it was. -/
theorem ready_of_done {α : Type} {value result : α} (ready : station.Ready)
    (run : (done (station.channel, value) : Program (Channel × α)).RunsOn Link.handle
      station.link events link (.ok (channel, result))) :
    (∀ event ∈ events, Right event) ∧ Station.Ready ⟨channel, link⟩ := by
  obtain ⟨rfl, rfl, same⟩ := run
  cases same
  exact ⟨by simp, ready⟩

theorem ready_connect {outcome : Except GatewayError Unit}
    (run : station.channel.connect.RunsOn Link.handle station.link events link
      (.ok (channel, outcome))) (guarded : ∀ event ∈ events, Undisturbed .connecting event) :
    (∀ event ∈ events, Right event) ∧ Station.Ready ⟨channel, link⟩ := by
  rw [connect_eq] at run
  obtain ⟨input, rest, rfl, opening⟩ := run
  have connectRight : ∀ laterRight : ∀ event ∈ rest, Right event,
      ∀ event ∈ ⟨input, station.link, LinkRequest.connect⟩ :: rest, Right event := by
    intro laterRight event member
    rcases List.mem_cons.mp member with rfl | later
    · trivial
    · exact laterRight event later
  cases opened : input.opened with
  | error =>
    simp only [Link.handle, opened] at opening
    obtain ⟨rfl, rfl, same⟩ := opening
    cases same
    exact ⟨connectRight (by simp), fun connected => by cases connected⟩
  | ok =>
    simp only [Link.handle, opened] at opening
    change Interaction.RunsOn Link.handle
      (station.channel.attach >>= fun channel => pure (channel, Except.ok ())) _ _ _ _ at opening
    obtain ⟨_, _, _, _, rfl, attached, rfl, rfl, same⟩ := runsOn_bind.mp opening
    cases same
    have connecting := station.channel.connecting_attach settled_up fun _ => rfl
    obtain ⟨attachRight, inStep⟩ := connecting.staysInStep _ _ _ _ attached
      (fun event member => guarded event (List.mem_cons_of_mem _ (List.mem_append_left _ member)))
      .start
    refine ⟨connectRight ?_,
      fun connected => ⟨connecting.returns.runsOn attached connected, inStep trivial⟩⟩
    rw [List.append_nil]
    exact attachRight

theorem ready_operates {before after : Station} {events : List PhasedEvent} (ready : before.Ready)
    (operates : Operates before events after)
    (guarded : ∀ phased ∈ events, Undisturbed phased.phase phased.event) :
    (∀ phased ∈ events, Right phased.event) ∧ after.Ready := by
  cases operates with
  | connect run =>
    rw [List.forall_mem_map] at guarded ⊢
    exact ready_connect run guarded
  | poll run =>
    rw [List.forall_mem_map] at guarded ⊢
    by_cases connected : before.channel.state = .connected
    · obtain ⟨alive, inStep⟩ := ready connected
      exact ready_of_staysInStep (staysInStep_pollOnce connected (fun _ => alive) _)
        (Channel.returns_pollOnce (fun _ => alive) _) run inStep guarded
    · rw [Channel.pollOnce, if_pos connected] at run
      exact ready_of_done ready run
  | control run =>
    rw [List.forall_mem_map] at guarded ⊢
    by_cases connected : before.channel.state = .connected
    · obtain ⟨alive, inStep⟩ := ready connected
      rw [writeControl, if_neg (not_not_intro connected)] at run
      exact ready_of_staysInStep (operating_operateAll (fun _ => alive) _ _).staysInStep
        (operating_operateAll (fun _ => alive) _ _).returns run inStep guarded
    · rw [writeControl, if_pos connected] at run
      exact ready_of_done ready run
  | adjust run =>
    rw [List.forall_mem_map] at guarded ⊢
    by_cases connected : before.channel.state = .connected
    · obtain ⟨alive, inStep⟩ := ready connected
      rw [writeAdjustment, if_neg (not_not_intro connected)] at run
      exact ready_of_staysInStep (operating_adjustAll (fun _ => alive) _ _).staysInStep
        (operating_adjustAll (fun _ => alive) _ _).returns run inStep guarded
    · rw [writeAdjustment, if_pos connected] at run
      exact ready_of_done ready run
  | disconnect =>
    refine ⟨by simp, fun connected => ?_⟩
    cases connected

theorem Session.ready {events : List PhasedEvent} (session : Session events station)
    (guarded : ∀ phased ∈ events, Undisturbed phased.phase phased.event) :
    (∀ phased ∈ events, Right phased.event) ∧ station.Ready := by
  induction session with
  | start =>
    refine ⟨by simp, fun connected => ?_⟩
    cases connected
  | operate _ operates ih =>
    obtain ⟨earlierRight, ready⟩ := ih fun phased member =>
      guarded phased (List.mem_append_left _ member)
    obtain ⟨laterRight, stillReady⟩ := ready_operates ready operates fun phased member =>
      guarded phased (List.mem_append_right _ member)
    refine ⟨fun phased member => ?_, stillReady⟩
    rcases List.mem_append.mp member with early | late
    · exact earlierRight phased early
    · exact laterRight phased late

/-- A frame with the response 1 to the read with identifier 1. -/
def firstFrame : List UInt8 :=
  [0x03, 0x00, 0x00, 0x20, 0x02, 0xF0, 0x80, 0x01, 0x00, 0x01, 0x00, 0x61, 0x13, 0x30, 0x11,
    0x02, 0x01, 0x03, 0xA0, 0x0C, 0xA1, 0x0A, 0x02, 0x01, 0x01, 0xA4, 0x05, 0xA1, 0x03,
    0x85, 0x01, 0x01]

def firstResponse : List UInt8 := firstFrame.drop 20

def meterSetting : PointSetting :=
  ⟨2, .telemetry, some ⟨"LD", "MMXU1$MX$A$f", 1⟩, ⟨1, 0, false⟩, true⟩

def switchSetting : PointSetting :=
  ⟨7, .control, some ⟨"LD", "GGIO1$CO$SPCSO1$Oper$ctlVal", 1⟩, ⟨1, 0, false⟩, true⟩

/-- The bytes within reach of a wait. -/
def arriving (reach : Nat) : Await := ⟨.ok firstFrame, none, reach, .readTimeout⟩

def unconnected : Link := ⟨[], 0, [], 0⟩

/-- The boundaries of a stream of one frame. -/
theorem reached_firstFrame {position responses : Nat}
    (reached : Reached firstFrame position responses) :
    (position = 0 ∧ responses = 0) ∨ (position = 32 ∧ responses = 1) := by
  have first : recvMmsRaw (firstFrame.drop 0) = .unit firstResponse 32 := by decide
  have last : recvTpkt (firstFrame.drop 32) = .starved := by decide
  have lastUnit : recvMmsRaw (firstFrame.drop 32) = .starved := by decide
  induction reached with
  | start => exact .inl ⟨rfl, rfl⟩
  | report _ received kind ih =>
    rcases ih with ⟨rfl, rfl⟩ | ⟨rfl, rfl⟩
    · rw [first] at received
      cases received
      cases kind
    · rw [lastUnit] at received
      cases received
  | response _ received _ ih =>
    rcases ih with ⟨rfl, rfl⟩ | ⟨rfl, rfl⟩
    · rw [first] at received
      cases received
      exact .inr ⟨rfl, rfl⟩
    · rw [lastUnit] at received
      cases received
  | garbage _ received kind ih =>
    rcases ih with ⟨rfl, rfl⟩ | ⟨rfl, rfl⟩
    · have unwrapped := unit_iff_complete.mp first
      obtain ⟨_, framed, unit⟩ := unwrapped
      rw [framed] at received
      cases received
      rw [unit] at kind
      cases kind
    · rw [last] at received
      cases received

end AetherIot.Io.Iec61850
