import AetherIot.Foundation.GuardedRun
import AetherIot.Foundation.Inevitable

/-!
# The CloudLink runtime task

The task waits for a `Connected` event of the transport and then establishes a session: it waits for a
challenge and for the acceptance of its hello, and offers the retained records.  Every failure and
every end of a session leads back to the wait for a `Connected` event, of which there is one for each
broker connection.
-/

namespace AetherIot.CloudLink

open GuardedRun

/-- How a session is authenticated: with a signed hello for a requested challenge, or by the broker
of a trusted connector. -/
inductive SessionAuthentication where
  | gatewaySigned
  | trustedConnector
  deriving DecidableEq

/-- A message on the session route. -/
inductive SessionMessage where
  | challenge
  | accepted
  | unexpected
  deriving DecidableEq

/-- What the transport returns: its events, or an error. -/
inductive TransportEvent where
  | connected
  | disconnected
  | transportPublished
  | session (message : SessionMessage)
  | downlink
  | unavailable
  deriving DecidableEq

/-- Where the task waits for the next event. -/
inductive RuntimePhase where
  | waiting
  | challenging
  | accepting
  | established
  deriving DecidableEq

/-- What a read leads to: the next phase, and whether the cloud is asked for an answer. -/
structure Reaction where
  phase : RuntimePhase
  asks : Option SessionMessage
  deriving DecidableEq

/-- The task reads an event.  The event is handled soundly when every check, ledger and spool
operation and send that follows it succeeds, up to the offer of the retained records. -/
def react (mode : SessionAuthentication) (phase : RuntimePhase) (event : TransportEvent)
    (sound : Bool) : Reaction :=
  match phase, event with
  | .waiting, .connected =>
    if sound then
      ⟨.challenging, if mode = .gatewaySigned then some .challenge else none⟩
    else ⟨.waiting, none⟩
  | .waiting, _ => ⟨.waiting, none⟩
  | .challenging, .session .challenge =>
    if sound then ⟨.accepting, some .accepted⟩ else ⟨.waiting, none⟩
  | .challenging, .session _ => ⟨.waiting, none⟩
  | .accepting, .session .accepted =>
    if sound then ⟨.established, none⟩ else ⟨.waiting, none⟩
  | .accepting, .session .challenge =>
    if sound ∧ mode = .gatewaySigned then ⟨.accepting, some .accepted⟩ else ⟨.waiting, none⟩
  | .accepting, .session .unexpected => ⟨.waiting, none⟩
  | .established, .connected => ⟨.waiting, none⟩
  | _, .disconnected => ⟨.waiting, none⟩
  | _, .unavailable => ⟨.waiting, none⟩
  | phase, _ => ⟨phase, none⟩

/-- The task with the events it has not read, the answers the cloud owes, and the broker
connection. -/
structure Runtime where
  phase : RuntimePhase
  unread : List TransportEvent
  owed : List SessionMessage
  connected : Bool
  deriving DecidableEq

/-- An event that is not one of the broker connection. -/
inductive Arrival where
  | transportPublished
  | session (message : SessionMessage)
  | downlink
  | unavailable
  deriving DecidableEq

def Arrival.event : Arrival → TransportEvent
  | .transportPublished => .transportPublished
  | .session message => .session message
  | .downlink => .downlink
  | .unavailable => .unavailable

inductive RuntimeInput where
  /-- The broker connection is made. -/
  | connect
  /-- A new connection replaces the old one without a `Disconnected` event. -/
  | replace
  | disconnect
  /-- Anything else that the transport emits. -/
  | emit (arrival : Arrival)
  /-- The cloud answers the oldest request that it has not answered. -/
  | answer
  /-- A request or its answer is lost. -/
  | lose
  | read (sound : Bool)
  /-- The retry timer of a signed session sends the request or the hello again. -/
  | retry (sent : Bool)
  /-- The deadline of a signed session expires. -/
  | expire
  /-- The stream of control offers ends. -/
  | controlUnavailable
  deriving DecidableEq

namespace Runtime

def initial : Runtime := ⟨.waiting, [], [], false⟩

/-- The answers that a new connection makes the cloud owe: it challenges a trusted connector. -/
def owedOnConnect : SessionAuthentication → List SessionMessage
  | .gatewaySigned => []
  | .trustedConnector => [.challenge]

/-- What the task asks for again. -/
def repeats : RuntimePhase → Option SessionMessage
  | .challenging => some .challenge
  | .accepting => some .accepted
  | _ => none

/-- A new broker connection is announced. -/
def announce (mode : SessionAuthentication) (runtime : Runtime) : Runtime :=
  { runtime with
    connected := true
    unread := runtime.unread ++ [.connected]
    owed := runtime.owed ++ owedOnConnect mode }

def step (mode : SessionAuthentication) (runtime : Runtime) : RuntimeInput → Runtime
  | .connect => if runtime.connected then runtime else runtime.announce mode
  | .replace => if runtime.connected then runtime.announce mode else runtime
  | .disconnect =>
    if runtime.connected then
      { runtime with connected := false, unread := runtime.unread ++ [.disconnected] }
    else runtime
  | .emit arrival => { runtime with unread := runtime.unread ++ [arrival.event] }
  | .answer =>
    match runtime.owed with
    | [] => runtime
    | message :: owed =>
      { runtime with owed, unread := runtime.unread ++ [.session message] }
  | .lose => { runtime with owed := runtime.owed.tail }
  | .read sound =>
    match runtime.unread with
    | [] => runtime
    | event :: unread =>
      let reaction := react mode runtime.phase event sound
      { runtime with
        phase := reaction.phase
        unread
        owed := runtime.owed ++ reaction.asks.toList }
  | .retry sent =>
    if mode = .gatewaySigned ∧ repeats runtime.phase ≠ none then
      if sent then { runtime with owed := runtime.owed ++ (repeats runtime.phase).toList }
      else { runtime with phase := .waiting }
    else runtime
  | .expire =>
    if mode = .gatewaySigned ∧ repeats runtime.phase ≠ none then
      { runtime with phase := .waiting }
    else runtime
  | .controlUnavailable =>
    if runtime.phase = .established then { runtime with phase := .waiting } else runtime

end Runtime

end AetherIot.CloudLink
