import AetherIot.Foundation.GuardedRun
import AetherIot.Foundation.SerialNumber
import AetherIot.Io.Point
import AetherIot.Model.Validation

/-!
# The command listener

Device commands arrive as frames over any number of connections.  The listener remembers for every
point the last producer and its last sequence, drops stale and duplicate frames of that producer, and
forwards the others to the queue of their channel.
-/

namespace AetherIot.Io

open SerialNumber Model

inductive PointKind where
  | telemetry
  | status
  | command
  | action
  deriving DecidableEq

structure DeviceCommandFrame where
  channelId : UInt32
  pointId : UInt32
  pointType : UInt8
  valueBits : UInt64
  timestampMs : UInt64
  expiresAtMs : UInt64
  producerId : UInt64
  sequence : UInt64
  deriving DecidableEq

/-- A point, as duplicate detection sees it. -/
structure SequenceKey where
  channelId : UInt32
  pointKindCode : UInt8
  pointId : UInt32
  deriving DecidableEq

namespace DeviceCommandFrame

def pointKind (frame : DeviceCommandFrame) : Option PointKind :=
  if frame.pointType = 2 then some .command
  else if frame.pointType = 3 then some .action
  else none

def key (frame : DeviceCommandFrame) : SequenceKey :=
  ⟨frame.channelId, frame.pointType, frame.pointId⟩

end DeviceCommandFrame

structure CommandFields where
  commandId : String
  pointId : UInt32
  value : UInt64
  timestamp : Int
  expiresAtMs : Int
  deriving DecidableEq

inductive ChannelCommand where
  | control (fields : CommandFields)
  | adjustment (fields : CommandFields)
  deriving DecidableEq

/-- Sixteen hexadecimal digits. -/
def paddedHex (word : UInt64) : String :=
  String.ofList ((List.range 16).reverse.map fun digit =>
    Nat.digitChar (word.toNat / 16 ^ digit % 16))

def buildCommand (pointType : PointType) (pointId : UInt32) (value : UInt64)
    (timestamp expiresAtMs : Int) (producerId sequence : UInt64) : ChannelCommand :=
  let commandId := s!"uds-{paddedHex producerId}-{sequence}"
  let fields : CommandFields := ⟨commandId, pointId, value, timestamp, expiresAtMs⟩
  match pointType with
  | .control => .control fields
  | _ => .adjustment fields

/-- A command that entered the queue of its channel. -/
structure Dispatch where
  key : SequenceKey
  producerId : UInt64
  sequence : UInt64
  command : ChannelCommand
  deriving DecidableEq

/-- `dispatched` lists what was sent; it is not stored. -/
structure CommandListener where
  commandSenders : UInt32 → Bool
  lastSequences : SequenceKey → Option (UInt64 × UInt64)
  droppedCount : UInt64
  dispatched : List Dispatch

def CommandListener.new : CommandListener := ⟨fun _ => false, fun _ => none, 0, []⟩

/-- What becomes of a command that is sent to a registered channel within 50 milliseconds. -/
inductive SendOutcome where
  | sent
  | closed
  | timedOut
  deriving DecidableEq

namespace CommandListener

variable (listener : CommandListener)

def registerChannel (channelId : UInt32) : CommandListener :=
  { listener with commandSenders := Function.update listener.commandSenders channelId true }

def unregisterChannel (channelId : UInt32) : CommandListener :=
  { listener with commandSenders := Function.update listener.commandSenders channelId false }

section

variable (frame : DeviceCommandFrame)

/-- Record the sequence of a frame, unless it is stale or a duplicate.  Another producer always
resets the record. -/
def recordSequence : Option CommandListener :=
  let recorded :=
    { listener with
      lastSequences := Function.update listener.lastSequences frame.key
        (some (frame.producerId, frame.sequence)) }
  match listener.lastSequences frame.key with
  | some (lastProducer, lastSequence) =>
    if lastProducer = frame.producerId ∧ Stale frame.sequence lastSequence then none
    else if lastProducer = frame.producerId ∧ frame.sequence = lastSequence then none
    else some recorded
  | none => some recorded

/-- Hand a command to the queue of its channel. -/
def send (dispatch : Dispatch) (outcome : SendOutcome) : CommandListener :=
  if listener.commandSenders dispatch.key.channelId then
    match outcome with
    | .sent => { listener with dispatched := listener.dispatched ++ [dispatch] }
    | .closed => listener
    | .timedOut => { listener with droppedCount := listener.droppedCount + 1 }
  else listener

def maxSigned : UInt64 := 0x7FFFFFFFFFFFFFFF

/-- The command of a frame whose sequence is recorded. -/
def deliver (pointType : PointType) (outcome : SendOutcome) : CommandListener :=
  match validateValue frame.valueBits .default with
  | .error _ => listener
  | .ok value =>
    let command := buildCommand pointType frame.pointId value frame.timestampMs.toInt64.toInt
      (min frame.expiresAtMs maxSigned).toInt64.toInt frame.producerId frame.sequence
    listener.send ⟨frame.key, frame.producerId, frame.sequence, command⟩ outcome

/-- A frame of a commanded point.  The clock is `none` when it stands before its epoch. -/
def handleCommand (pointType : PointType) (clock : Option UInt64)
    (outcome : SendOutcome) : CommandListener :=
  match clock with
  | none => listener
  | some nowMs =>
    if frame.expiresAtMs ≤ frame.timestampMs ∨ nowMs ≥ frame.expiresAtMs then listener
    else match listener.recordSequence frame with
      | none => listener
      | some recorded => recorded.deliver frame pointType outcome

def handleNotification (clock : Option UInt64) (outcome : SendOutcome) : CommandListener :=
  match frame.pointKind with
  | some .command => listener.handleCommand frame .control clock outcome
  | some .action => listener.handleCommand frame .adjustment clock outcome
  | none => listener
  | some .telemetry | some .status => listener

end

end CommandListener

end AetherIot.Io
