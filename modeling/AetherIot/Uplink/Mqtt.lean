import AetherIot.Foundation.GuardedRun

/-!
# The MQTT task and the outbox forwarder

Two tasks share one MQTT client.  The MQTT task polls the event loop, which alone takes requests from
the bounded queue of the client; on a new connection and before it leaves a connection it also puts
requests into that queue.  The forwarder puts the messages of the durable outbox into the queue and
removes each one as soon as it is queued.  Replies to commands are put into the queue by other tasks.
-/

namespace AetherIot.Uplink

/-- A request to the event loop. -/
inductive Request where
  | publication (id : Nat)
  | reply
  | status (text : String)
  | subscribe (topic : String)
  | disconnect
  deriving DecidableEq

/-- The capacity of the queue of a client. -/
def requestCapacity : Nat := 64

/-- An event loop with the queue of its client and its publications without an acknowledgement.
Requests are taken only after the connection was acknowledged. -/
structure EventLoop where
  generation : Nat
  queue : List Request
  bounded : queue.length ≤ requestCapacity
  unacknowledged : List Nat
  online : Bool

namespace EventLoop

def new (generation : Nat) : EventLoop := ⟨generation, [], by decide, [], false⟩

/-- Put a request into the queue, if there is room. -/
def enqueue (loop : EventLoop) (request : Request) : Option EventLoop :=
  if room : loop.queue.length < requestCapacity then
    some { loop with
      queue := loop.queue ++ [request]
      bounded := by
        rw [List.length_append]
        exact room }
  else none

/-- Take a request from the queue and send it. -/
def send (loop : EventLoop) : EventLoop :=
  match queued : loop.queue with
  | [] => loop
  | request :: rest =>
    { loop with
      queue := rest
      bounded := by
        have bounded := loop.bounded
        rw [queued, List.length_cons] at bounded
        omega
      unacknowledged :=
        match request with
        | .publication id => loop.unacknowledged ++ [id]
        | _ => loop.unacknowledged }

end EventLoop

/-- What follows the requests of a handler. -/
inductive Afterwards where
  | resume
  | leave
  | stop
  deriving DecidableEq

/-- The MQTT task between connections, in the poll of its event loop, in a handler with the requests
that it still has to queue, or after its end. -/
inductive MqttTask where
  | between
  | polling
  | handling (remaining : List Request) (afterwards : Afterwards)
  | stopped
  deriving DecidableEq

/-- The forwarder with the entries of its pass: before it clones the client, with the generation of
the client it publishes an entry on, or after the publication was queued. -/
inductive Forwarder where
  | idle
  | starting (remaining : List Nat)
  | publishing (generation id : Nat) (remaining : List Nat)
  | acknowledging (generation id : Nat) (remaining : List Nat)
  deriving DecidableEq

/-- Turn to the next entry of the pass. -/
def Forwarder.advance : List Nat → Forwarder
  | [] => .idle
  | remaining => .starting remaining

structure AppState where
  outbox : List Nat
  nextId : Nat
  task : MqttTask
  eventLoop : Option EventLoop
  nextGeneration : Nat
  /-- The generation of the client that other tasks use. -/
  client : Option Nat
  connected : Bool
  forwarder : Forwarder
  /-- The messages that a client accepted so far, with the generation of the client. -/
  accepted : List (Nat × Nat)
  /-- The messages that were removed from the outbox so far. -/
  removed : List Nat
  /-- The messages that the broker acknowledged so far. -/
  acknowledged : List Nat

/-- What ends a wait of the MQTT task in its poll. -/
inductive PollEvent where
  | connAck
  | send
  | pubAck (id : Nat)
  | brokerDisconnect
  | pollError
  | reconnectSignal
  | shutdown
  deriving DecidableEq

inductive UplinkEvent where
  | enqueue
  | tick
  | cloneClient
  | queuePublication
  | acknowledgeEntry (stored : Bool)
  | reply
  | connect
  | poll (event : PollEvent)
  | handle
  | requestDisconnect
  deriving DecidableEq

namespace AppState

def initial : AppState := ⟨[], 0, .between, none, 0, none, false, .idle, [], [], []⟩

/-- The topics of commands. -/
def subscriptions : List Request :=
  [.subscribe "read", .subscribe "write", .subscribe "call-data", .subscribe "call-alarm",
    .subscribe "inst-sync"]

def onConnected : List Request := subscriptions ++ [.status "online"]

/-- The entries that one pass takes. -/
def drainLimit : Nat := 128

variable (state : AppState)

/-- The event loop is dropped with its queue and its publications without an acknowledgement. -/
def drop (task : MqttTask) : AppState :=
  { state with task, eventLoop := none, connected := false }

/-- The forwarder publishes on the client it has cloned. -/
def queuePublication : AppState :=
  match state.forwarder with
  | .publishing generation id remaining =>
    match state.eventLoop with
    | some loop =>
      if loop.generation = generation then
        match loop.enqueue (.publication id) with
        | some next =>
          { state with
            eventLoop := some next
            forwarder := .acknowledging generation id remaining
            accepted := state.accepted ++ [(generation, id)] }
        | none => state
      else { state with forwarder := .idle }
    | none => { state with forwarder := .idle }
  | _ => state

/-- The outbox stores the removal of the entry, or fails. -/
def acknowledgeEntry (stored : Bool) : AppState :=
  match state.forwarder with
  | .acknowledging _ id remaining =>
    if stored then
      { state with
        outbox := state.outbox.filter (· ≠ id)
        removed := state.removed ++ [id]
        forwarder := .advance remaining }
    else { state with forwarder := .idle }
  | _ => state

/-- The next step of a handler waits for room in the queue. -/
def handle : AppState :=
  match state.task with
  | .handling (request :: remaining) afterwards =>
    match state.eventLoop.bind fun loop => loop.enqueue request with
    | some next =>
      { state with eventLoop := some next, task := .handling remaining afterwards }
    | none => state
  | .handling [] .resume => { state with task := .polling }
  | .handling [] .leave => state.drop .between
  | .handling [] .stop => state.drop .stopped
  | _ => state

def poll (loop : EventLoop) : PollEvent → AppState
  | .connAck =>
    if loop.online then state
    else
      { state with
        eventLoop := some { loop with online := true }
        connected := true
        task := .handling onConnected .resume }
  | .send => if loop.online then { state with eventLoop := some loop.send } else state
  | .pubAck id =>
    if id ∈ loop.unacknowledged then
      { state with
        eventLoop := some { loop with unacknowledged := loop.unacknowledged.erase id }
        acknowledged := state.acknowledged ++ [id] }
    else state
  | .brokerDisconnect => state.drop .between
  | .pollError => state.drop .between
  | .reconnectSignal => { state with task := .handling [.status "offline"] .leave }
  | .shutdown => { state with task := .handling [.status "offline", .disconnect] .stop }

def step (event : UplinkEvent) : AppState :=
  match event with
  | .enqueue =>
    { state with outbox := state.outbox ++ [state.nextId], nextId := state.nextId + 1 }
  | .tick =>
    match state.forwarder with
    | .idle =>
      if state.connected then
        { state with forwarder := .advance (state.outbox.take drainLimit) }
      else state
    | _ => state
  | .cloneClient =>
    match state.forwarder, state.client with
    | .starting (id :: remaining), some generation =>
      { state with forwarder := .publishing generation id remaining }
    | .starting _, _ => { state with forwarder := .idle }
    | _, _ => state
  | .queuePublication => state.queuePublication
  | .acknowledgeEntry stored => state.acknowledgeEntry stored
  | .reply =>
    match state.eventLoop with
    | some loop =>
      if state.client = some loop.generation then
        match loop.enqueue .reply with
        | some next => { state with eventLoop := some next }
        | none => state
      else state
    | none => state
  | .connect =>
    match state.task with
    | .between =>
      { state with
        task := .polling
        eventLoop := some (.new state.nextGeneration)
        client := some state.nextGeneration
        nextGeneration := state.nextGeneration + 1 }
    | _ => state
  | .handle => state.handle
  | .requestDisconnect => { state with client := none, connected := false }
  | .poll event =>
    match state.task, state.eventLoop with
    | .polling, some loop => state.poll loop event
    | _, _ => state

end AppState

end AetherIot.Uplink
