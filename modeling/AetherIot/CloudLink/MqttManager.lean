import AetherIot.Foundation.GuardedRun

/-!
# The CloudLink MQTT manager

The manager task owns the MQTT client.  It takes commands from the outbound channel, and it polls the
event loop and reports to the event and offer channels.  The runtime task sends commands and reads the
two channels.  The three channels and the request queue of the client have the same capacity, and only
a poll takes a request from the queue.
-/

namespace AetherIot.CloudLink

/-- What the runtime asks of the manager.  A baseline message has the identity of a record on a durable
route and none on the session route. -/
inductive ManagerCommand where
  | baseline (delivery : Option Nat)
  | enableIntegrationControl
  | integrationControlReceipt
  deriving DecidableEq

/-- A request in the queue of the MQTT client. -/
inductive ClientRequest where
  | publish
  | subscribe
  | disconnect
  deriving DecidableEq

/-- What the manager reports on the event channel. -/
inductive Notice where
  | connected
  | disconnected
  | transportPublished (identity : Nat)
  | inbound
  | invalidInbound
  deriving DecidableEq

/-- The steps of a select branch of the manager, in their order. -/
inductive ManagerAction where
  | request (request : ClientRequest)
  | notice (notice : Notice)
  | offer
  | activate
  | reply
  | reconnect
  deriving DecidableEq

/-- What the runtime task does: it reads, it sends commands one after another without reading, or it
waits for the result of its last command.  Only its control loop reads offers. -/
inductive Publisher where
  | reading (control : Bool)
  | sending (remaining : List ManagerCommand) (awaitsResult control : Bool)
  | awaiting (control : Bool)
  deriving DecidableEq

/-- A publication of the broker: on the offer topic, on a route of the gateway, or elsewhere. -/
inductive PublicationTopic where
  | offer
  | route
  | other
  deriving DecidableEq

/-- What a poll of the event loop returns. -/
inductive PollResult where
  | connAck
  /-- The oldest request is sent; a publication has a packet identifier. -/
  | outgoing (packet : Nat)
  | pubAck (packet : Nat)
  | publish (topic : PublicationTopic) (validTransport : Bool)
  /-- The broker disconnects, or the poll fails. -/
  | lost
  | other
  deriving DecidableEq

/-- The manager and the runtime with their channels.  The manager selects when it has no steps
left. -/
structure MqttPath where
  outbound : List ManagerCommand
  requests : List ClientRequest
  events : List Notice
  offers : Nat
  waitingPacketId : List (Option Nat)
  inflight : List (Nat × Nat)
  controlActive : Bool
  manager : List ManagerAction
  publisher : Publisher
  deriving DecidableEq

inductive PathInput where
  /-- The manager takes the next command. -/
  | take
  | poll (result : PollResult)
  /-- The manager continues its branch. -/
  | proceed
  /-- The runtime starts to send baseline messages: a session payload, or all retained records. -/
  | send (deliveries : List (Option Nat))
  | enableIntegrationControl
  | integrationControlReceipt
  /-- The runtime continues its sends. -/
  | turn
  | readEvent
  | readOffer
  /-- The runtime enters or leaves its control loop. -/
  | listen (control : Bool)
  deriving DecidableEq

/-- The runtime has the result of its command. -/
def Publisher.resume : Publisher → Publisher
  | .awaiting control => .reading control
  | publisher => publisher

/-- What the runtime does after a command is in the channel. -/
def Publisher.next (remaining : List ManagerCommand) (awaitsResult control : Bool) : Publisher :=
  match remaining with
  | [] => if awaitsResult then .awaiting control else .reading control
  | remaining => .sending remaining awaitsResult control

namespace MqttPath

def initial : MqttPath :=
  ⟨[], [], [], 0, [], [], false, [], .reading false⟩

/-- The downlink topics of the session, acknowledgement and replay routes. -/
def subscribeTopics : Nat := 3

/-- The branch of the manager for a command. -/
def take (path : MqttPath) (command : ManagerCommand) (outbound : List ManagerCommand) : MqttPath :=
  match command with
  | .baseline delivery =>
    { path with
      outbound
      waitingPacketId := path.waitingPacketId ++ [delivery]
      manager := [.request .publish] }
  | .enableIntegrationControl =>
    if path.controlActive then { path with outbound, manager := [.reply] }
    else { path with outbound, manager := [.request .subscribe, .activate, .reply] }
  | .integrationControlReceipt =>
    if path.controlActive then
      { path with
        outbound
        waitingPacketId := path.waitingPacketId ++ [none]
        manager := [.request .publish, .reply] }
    else { path with outbound, manager := [.reply] }

/-- The branch of the manager for a result of the poll. -/
def poll (path : MqttPath) : PollResult → MqttPath
  | .connAck =>
    { path with
      manager := List.replicate subscribeTopics (.request .subscribe) ++ [.notice .connected] }
  | .outgoing packet =>
    match path.requests, path.waitingPacketId with
    | .publish :: requests, some identity :: waitingPacketId =>
      { path with
        requests, waitingPacketId, inflight := (packet, identity) :: path.inflight }
    | .publish :: requests, waitingPacketId =>
      { path with requests, waitingPacketId := waitingPacketId.tail }
    | requests, _ => { path with requests := requests.tail }
  | .pubAck packet =>
    match path.inflight.lookup packet with
    | some identity =>
      { path with
        inflight := path.inflight.filter (·.1 ≠ packet)
        manager := [.notice (.transportPublished identity)] }
    | none => path
  | .publish .offer _ =>
    if path.controlActive then { path with manager := [.offer] }
    else { path with manager := [.notice .invalidInbound] }
  | .publish .route validTransport =>
    { path with
      manager := [.notice (if validTransport then .inbound else .invalidInbound)] }
  | .publish .other _ => { path with manager := [.notice .invalidInbound] }
  | .lost =>
    { path with manager := [.request .disconnect, .notice .disconnected, .reconnect] }
  | .other => path

/-- The manager performs a step of its branch, unless it has to wait for room. -/
def proceed (capacity : Nat) (path : MqttPath) (action : ManagerAction)
    (manager : List ManagerAction) : Option MqttPath :=
  match action with
  | .request request =>
    if path.requests.length < capacity then
      some { path with requests := path.requests ++ [request], manager }
    else none
  | .notice notice =>
    if path.events.length < capacity then
      some { path with events := path.events ++ [notice], manager }
    else none
  | .offer =>
    if path.offers < capacity then some { path with offers := path.offers + 1, manager }
    else none
  | .activate => some { path with controlActive := true, manager }
  | .reply => some { path with publisher := path.publisher.resume, manager }
  | .reconnect =>
    some { path with
      requests := []
      waitingPacketId := []
      inflight := []
      controlActive := false
      manager }

/-- The runtime starts to send commands. -/
def start (path : MqttPath) (commands : List ManagerCommand) (awaitsResult : Bool) : MqttPath :=
  match path.publisher with
  | .reading control => { path with publisher := Publisher.next commands awaitsResult control }
  | _ => path

def step (capacity : Nat) (path : MqttPath) : PathInput → MqttPath
  | .take =>
    match path.manager, path.outbound with
    | [], command :: outbound => path.take command outbound
    | _, _ => path
  | .poll result => if path.manager = [] then path.poll result else path
  | .proceed =>
    match path.manager with
    | [] => path
    | action :: manager => (path.proceed capacity action manager).getD path
  | .send deliveries => path.start (deliveries.map .baseline) false
  | .enableIntegrationControl => path.start [.enableIntegrationControl] true
  | .integrationControlReceipt => path.start [.integrationControlReceipt] true
  | .turn =>
    match path.publisher with
    | .sending (command :: remaining) awaitsResult control =>
      if path.outbound.length < capacity then
        { path with
          outbound := path.outbound ++ [command]
          publisher := Publisher.next remaining awaitsResult control }
      else path
    | _ => path
  | .readEvent =>
    match path.publisher with
    | .reading _ => { path with events := path.events.tail }
    | _ => path
  | .readOffer =>
    match path.publisher with
    | .reading true => { path with offers := path.offers - 1 }
    | _ => path
  | .listen control =>
    match path.publisher with
    | .reading _ => { path with publisher := .reading control }
    | _ => path

end MqttPath

end AetherIot.CloudLink
