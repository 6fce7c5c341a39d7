import AetherIot.Io.Iec104
import AetherIot.Io.Reconnect

/-!
# The task of an IEC 104 channel

The channel stores a connection state of its own, which only connecting and disconnecting change.
The task polls the channel on every tick on which that state is connected, and reconnects it on every
other one.
-/

namespace AetherIot.Io.Iec104

/-- An event of the client. -/
inductive Event where
  | connected
  | disconnected
  | dataTransferStarted
  | dataTransferStopped
  | dataUpdate (updates : List Update)
  | asduReceived
  | commandConfirm (ioa : UInt32) (success : Bool)
  | interrogationComplete (commonAddress : UInt16)
  | error (message : String)

/-- `transport` tells whether the client has a connection to the server. -/
structure Channel where
  config : Config
  state : ConnectionState
  transport : Bool

/-- The answers of the client to the calls that make a connection, and to the call that closes it
after a failed start. -/
structure ConnectAnswers where
  connect : Except String Unit
  startDataTransfer : Except String Unit
  generalInterrogation : Except String Unit
  disconnect : Except String Unit

namespace Channel

variable (channel : Channel)

def isConnected : Bool := channel.state = .connected

def connect : Except String Unit → Channel × Except String Unit
  | .ok () => ({ channel with state := .connected, transport := true }, .ok ())
  | .error error => ({ channel with state := .error }, .error error)

def disconnect : Except String Unit → Channel × Except String Unit
  | .ok () => ({ channel with state := .disconnected, transport := false }, .ok ())
  | .error error => (channel, .error error)

/-- Start the transfer of data, and then ask for all of it. -/
def start (answers : ConnectAnswers) : Except String Unit := do
  answers.startDataTransfer
  answers.generalInterrogation

def connectAndStartEvents (answers : ConnectAnswers) : Channel × Except String Unit :=
  match channel.connect answers.connect with
  | (channel, .error error) => (channel, .error error)
  | (channel, .ok ()) =>
    match start answers with
    | .ok () => (channel, .ok ())
    | .error error => ((channel.disconnect answers.disconnect).1, .error error)

/-- A poll that fails, and every event but an update of data, is a success without data. -/
def pollOnce (now : Int) : Except String (Option Event) → List StampedPoint
  | .ok (some (.dataUpdate updates)) => channel.config.convertDataPoints now updates
  | _ => []

end Channel

/-- `published` are the states that were reported to the health plane, and `connects` counts the
connections that were begun. -/
structure Task where
  channel : Channel
  helper : ReconnectHelper
  running : Bool
  prevOnline : Option Bool
  published : List Bool
  connects : Nat

inductive Command where
  | shutdown
  | connect (answers : ConnectAnswers)
  | disconnect (answer : Except String Unit)
  | getConnectionState
  | getDiagnostics
  | setLogLevel (level : String)

/-- Where the time for an attempt runs out. -/
inductive Stage where
  | connecting
  | starting

/-- A tick: its times, the command that arrives during a backoff, the answers to an attempt, where its
time runs out, and the answer to a poll. -/
structure Tick where
  now : Nanos
  finish : Nanos
  clock : Int
  interruption : Option Command
  answers : ConnectAnswers
  timeout : Option Stage
  poll : Except String (Option Event)

namespace Task

variable (task : Task)

def checkOnlineChange : Task :=
  let online := task.channel.isConnected
  if task.prevOnline ≠ some online then
    { task with prevOnline := some online, published := task.published ++ [online] }
  else task

def start (config : Config) (policy : ReconnectPolicy)
    (autoRecovery : Option AutoRecoveryPolicy) (state : ConnectionState) : Task :=
  { channel := ⟨config, state, state = .connected⟩
    helper := match autoRecovery with
      | some recovery => (ReconnectHelper.new policy).withAutoRecovery recovery
      | none => .new policy
    running := true
    prevOnline := none
    published := []
    connects := 0 : Task }.checkOnlineChange

/-- The task ends, and the channel is reported offline. -/
def finish : Task :=
  { task with running := false, published := task.published ++ [false] }

/-- The channel connects; the result tells whether it succeeded. -/
def connect (answers : ConnectAnswers) : Task × Except String Unit :=
  let connected := task.channel.connectAndStartEvents answers
  ({ task with channel := connected.1, connects := task.connects + 1 }, connected.2)

/-- The same with a limit of time. -/
def connectWithin (answers : ConnectAnswers) : Option Stage → Task × Except String Unit
  | none => task.connect answers
  | some .connecting =>
    ({ task with
        channel := { task.channel with state := .connecting }
        connects := task.connects + 1 }, .error "timed out")
  | some .starting =>
    ({ task with
        channel := (task.channel.connect answers.connect).1
        connects := task.connects + 1 }, .error "timed out")

def handleProtocolCommand : Command → Task
  | .shutdown => task.finish
  | .connect answers => (task.connect answers).1
  | .disconnect answer => { task with channel := (task.channel.disconnect answer).1 }
  | .getConnectionState | .getDiagnostics | .setLogLevel _ => task

/-- A command during a backoff ends the tick. -/
def handleBackoffCommand : Command → Task
  | .shutdown => task.checkOnlineChange.finish
  | .connect answers =>
    let connected := task.connect answers
    match connected.2 with
    | .ok () =>
      { connected.1 with helper := connected.1.helper.markConnected }.checkOnlineChange
    | .error _ => connected.1.checkOnlineChange
  | .disconnect answer =>
    { task with channel := (task.channel.disconnect answer).1 }.checkOnlineChange
  | .getConnectionState | .getDiagnostics | .setLogLevel _ => task.checkOnlineChange

def attempt (tick : Tick) : Task :=
  let connected := task.connectWithin tick.answers tick.timeout
  let helper := match connected.2 with
    | .ok () => connected.1.helper.markConnected
    | .error _ => connected.1.helper.recordFailure tick.finish
  { connected.1 with helper }.checkOnlineChange

/-- The backoff before all attempts but the first.  The task ends where there is no delay. -/
def backoff (tick : Tick) : Task :=
  if task.helper.totalAttempts > 1 then
    match task.helper.calculateNextDelay with
    | none => { task with running := false }
    | some _ =>
      match tick.interruption with
      | some command => task.handleBackoffCommand command
      | none => task.attempt tick
  else task.attempt tick

def recordAttempt (task : Task) (tick : Tick) : Task :=
  let recorded := task.helper.recordAttempt tick.now
  let task := { task with helper := recorded.2 }
  if recorded.1 then task.backoff tick else task.checkOnlineChange

def handleDisconnected (tick : Tick) : Task :=
  match task.helper.connectionState with
  | .failed =>
    { task with helper := (task.helper.checkAutoRecovery tick.now).2 }.checkOnlineChange
  | .reconnecting => task
  | .connected => { task with helper := task.helper.markDisconnected }.recordAttempt tick
  | .disconnected => task.recordAttempt tick

/-- A poll leaves the channel as it is, and no number of polls without data is too large. -/
def handlePollTick (tick : Tick) : Task :=
  if task.channel.isConnected then
    let helper := if task.helper.connectionState ≠ .connected then task.helper.markConnected
      else task.helper
    { task with helper }.checkOnlineChange
  else task.handleDisconnected tick

inductive Input where
  | tick (tick : Tick)
  | command (command : Command)
  | control (commands : List (UInt32 × Bool))
  | adjustment (commands : List (UInt32 × Float))
  | loss

/-- One step of a running task.  Commands for points change nothing here. -/
def step (input : Input) : Task :=
  if task.running then
    match input with
    | .tick tick => task.handlePollTick tick
    | .command command => task.handleProtocolCommand command
    | .control _ | .adjustment _ => task
    | .loss => { task with channel.transport := false }
  else task

/-- The answer of the client that a step polls. -/
def polled : Input → Option (Int × Except String (Option Event))
  | .tick tick =>
    if task.running ∧ task.channel.isConnected then some (tick.clock, tick.poll) else none
  | _ => none

/-- What a step hands to the store: the batch of a poll, unless it is empty. -/
def handed (input : Input) : List (List StampedPoint) :=
  match task.polled input with
  | none => []
  | some (clock, answer) =>
    let batch := task.channel.pollOnce clock answer
    if batch ≠ [] then [batch] else []

end Task

end AetherIot.Io.Iec104
