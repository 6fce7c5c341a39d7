import AetherIot.Foundation.GuardedRun

/-!
# Reconnection of a channel

A channel task polls its protocol on every tick.  On a tick without a connection it attempts to
reconnect, after a backoff that a command can interrupt.  A helper counts the attempts and the rounds
of recovery.
-/

namespace AetherIot.Io

inductive ReconnectState where
  | connected
  | disconnected
  | reconnecting
  | failed
  deriving DecidableEq

/-- An instant or a duration in nanoseconds. -/
abbrev Nanos : Type := Nat

structure AutoRecoveryPolicy where
  cooldown : Nanos
  maxRecoveryRounds : UInt32
  deriving DecidableEq

/-- `backoff` is the delay for a number of attempts before jitter is added: the initial delay times a
power of the multiplier, at most the maximum delay.  There is none where the product is not a
duration. -/
structure ReconnectPolicy where
  maxAttempts : UInt32
  jitter : Bool
  backoff : UInt32 → Option Nanos

structure ReconnectHelper where
  policy : ReconnectPolicy
  currentAttempt : UInt32
  connectionState : ReconnectState
  totalAttempts : UInt64
  autoRecovery : Option AutoRecoveryPolicy
  failedAt : Option Nanos
  recoveryRounds : UInt32

namespace ReconnectHelper

def new (policy : ReconnectPolicy) : ReconnectHelper where
  policy := policy
  currentAttempt := 0
  connectionState := .disconnected
  totalAttempts := 0
  autoRecovery := none
  failedAt := none
  recoveryRounds := 0

variable (helper : ReconnectHelper)

def withAutoRecovery (policy : AutoRecoveryPolicy) : ReconnectHelper :=
  if policy.maxRecoveryRounds > 0 then { helper with autoRecovery := some policy } else helper

def reset : ReconnectHelper :=
  { helper with
    currentAttempt := 0
    connectionState :=
      if helper.connectionState ≠ .connected then .disconnected else helper.connectionState }

/-- Whether recovery was performed. -/
def checkAutoRecovery (now : Nanos) : Bool × ReconnectHelper :=
  match helper.autoRecovery with
  | none => (false, helper)
  | some policy =>
    if helper.connectionState ≠ .failed then (false, helper)
    else
      let failedAt := helper.failedAt.getD now
      let helper := { helper with failedAt := some failedAt }
      if helper.recoveryRounds ≥ policy.maxRecoveryRounds then (false, helper)
      else if now - failedAt < policy.cooldown then (false, helper)
      else (true, { helper with
        recoveryRounds := helper.recoveryRounds + 1
        failedAt := none }.reset)

def markConnected : ReconnectHelper :=
  { helper with
    connectionState := .connected
    currentAttempt := 0
    failedAt := none
    recoveryRounds := 0 }

def markDisconnected : ReconnectHelper :=
  { helper with connectionState := .disconnected }

/-- The maximum of attempts is reached. -/
def exhausted : Bool :=
  helper.policy.maxAttempts > 0 && helper.currentAttempt ≥ helper.policy.maxAttempts

def enterFailed (now : Nanos) : ReconnectHelper :=
  { helper with connectionState := .failed, failedAt := some (helper.failedAt.getD now) }

/-- Whether the attempt is allowed. -/
def recordAttempt (now : Nanos) : Bool × ReconnectHelper :=
  if helper.exhausted then (false, helper.enterFailed now)
  else (true, { helper with
    currentAttempt := helper.currentAttempt + 1
    totalAttempts := helper.totalAttempts + 1
    connectionState := .reconnecting })

def recordFailure (now : Nanos) : ReconnectHelper :=
  if helper.exhausted then helper.enterFailed now
  else { helper with connectionState := .disconnected }

/-- The delay in whole milliseconds is jittered by up to a quarter.  The generator panics on an empty
range. -/
def calculateNextDelay : Option Nanos := do
  let delay ← helper.policy.backoff helper.currentAttempt
  if helper.policy.jitter then
    if delay / 1000000 = 0 then none else some delay
  else some delay

end ReconnectHelper

/-- The outcome of a connection that is being made.  After a failure or a timeout the protocol may
still report a connection. -/
inductive ConnectOutcome where
  | succeeded
  | failed (connected : Bool)
  deriving DecidableEq

inductive ProtocolCommand where
  | shutdown
  | connect (outcome : ConnectOutcome)
  | disconnect
  | getConnectionState
  | getDiagnostics
  | setLogLevel (level : String)
  deriving DecidableEq

/-- What happens to the connection: an automatic attempt is made, a connection comes up, or a new
round of attempts begins. -/
inductive LinkEvent where
  | attempt
  | connection
  | recovery
  deriving DecidableEq

/-- `log` is the history of the connection. -/
structure ChannelTask where
  helper : ReconnectHelper
  connected : Bool
  running : Bool
  log : List LinkEvent

namespace ChannelTask

/-- A task that starts with the connection up or down. -/
def start (policy : ReconnectPolicy) (autoRecovery : Option AutoRecoveryPolicy) (connected : Bool) :
    ChannelTask where
  helper := match autoRecovery with
    | some recovery => (ReconnectHelper.new policy).withAutoRecovery recovery
    | none => .new policy
  connected := connected
  running := true
  log := []

variable (task : ChannelTask)

def addEvent (event : LinkEvent) : ChannelTask :=
  { task with log := task.log ++ [event] }

/-- The connection is up or down; that it comes up is logged. -/
def setLink (connected : Bool) : ChannelTask :=
  let task := if connected then task.addEvent .connection else task
  { task with connected }

/-- The protocol makes a connection. -/
def settle : ConnectOutcome → ChannelTask
  | .succeeded => task.setLink true
  | .failed connected => task.setLink connected

/-- A command in the main loop leaves the helper alone. -/
def handleProtocolCommand : ProtocolCommand → ChannelTask
  | .shutdown => { task with running := false }
  | .connect outcome => task.settle outcome
  | .disconnect => task.setLink false
  | .getConnectionState | .getDiagnostics | .setLogLevel _ => task

/-- A command during a backoff.  The tick is over after it. -/
def handleBackoffCommand : ProtocolCommand → ChannelTask
  | .shutdown => { task with running := false }
  | .connect .succeeded =>
    let task := task.settle .succeeded
    { task with helper := task.helper.markConnected }
  | .connect outcome => task.settle outcome
  | .disconnect => task.setLink false
  | .getConnectionState | .getDiagnostics | .setLogLevel _ => task

/-- A tick.  `interruption` is a command that arrives during a backoff, `outcome` is how an attempt
ends at `finish`, and `stays` is whether a connection survives a poll. -/
structure Tick where
  now : Nanos
  interruption : Option ProtocolCommand
  outcome : ConnectOutcome
  finish : Nanos
  stays : Bool
  deriving DecidableEq

/-- The attempt itself. -/
def attemptReconnect (tick : Tick) : ChannelTask :=
  let attempted := (task.addEvent .attempt).settle tick.outcome
  match tick.outcome with
  | .succeeded => { attempted with helper := attempted.helper.markConnected }
  | .failed _ => { attempted with helper := attempted.helper.recordFailure tick.finish }

/-- The backoff before all attempts but the first, and the attempt unless a command interrupts. -/
def backoffAndAttempt (tick : Tick) : ChannelTask :=
  if task.helper.totalAttempts > 1 then
    match task.helper.calculateNextDelay with
    | none => { task with running := false }
    | some _ =>
      match tick.interruption with
      | some command => task.handleBackoffCommand command
      | none => task.attemptReconnect tick
  else task.attemptReconnect tick

/-- Count the attempt, and make it if it is allowed. -/
def recordAndAttempt (tick : Tick) : ChannelTask :=
  let recorded := task.helper.recordAttempt tick.now
  let task := { task with helper := recorded.2 }
  if recorded.1 then task.backoffAndAttempt tick else task

def handleDisconnected (tick : Tick) : ChannelTask :=
  match task.helper.connectionState with
  | .failed =>
    let checked := task.helper.checkAutoRecovery tick.now
    let task := { task with helper := checked.2 }
    if checked.1 then task.addEvent .recovery else task
  | .reconnecting => task
  | .connected => { task with helper := task.helper.markDisconnected }.recordAndAttempt tick
  | .disconnected => task.recordAndAttempt tick

def handlePollTick (tick : Tick) : ChannelTask :=
  if task.connected then
    let helper := if task.helper.connectionState ≠ .connected then task.helper.markConnected
      else task.helper
    { task with helper, connected := tick.stays }
  else task.handleDisconnected tick

inductive Input where
  | tick (tick : Tick)
  | command (command : ProtocolCommand)
  | link (connected : Bool)

/-- One step of a running task.  The link may also change by itself. -/
def step (input : Input) : ChannelTask :=
  if task.running then
    match input with
    | .tick tick => task.handlePollTick tick
    | .command command => task.handleProtocolCommand command
    | .link connected => task.setLink connected
  else task

end ChannelTask

end AetherIot.Io
