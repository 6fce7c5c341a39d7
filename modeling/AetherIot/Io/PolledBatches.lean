import AetherIot.Io.Gpio
import AetherIot.Io.Iec104Task
import AetherIot.Io.VirtualChannel

/-!
# Batches that can be stored

One command-owned, duplicate or non-numeric point makes the store reject the batch that it is in.
Which runs of a GPIO, virtual or IEC 104 channel hand over only batches that can be stored depends on
the outputs, the commands and the updates.
-/

namespace AetherIot.Io

open VirtualChannel GuardedRun

namespace Iec104

/-- The type and the number under which an object is published. -/
def Config.target (config : Config) (ioa : UInt32) : PointType × UInt32 :=
  ((config.ioaMapping ioa).getD (ioa, .telemetry)).swap

/-- A value that is a number: a double point is off or on, and floating-point numbers are finite. -/
def DataValue.Determinate : DataValue → Prop
  | .double value => value = .off ∨ value = .on
  | .normalized value | .float value => value.toFloat.isFinite = true
  | .single _ | .scaled _ | .counter _ | .bitstring _ | .stepPosition _ | .binaryCounter _ => True

/-- The objects of an update are published as different telemetry and signal points, and their values
are determinate. -/
structure Config.Recordable (config : Config) (updates : List Update) : Prop where
  acquired : ∀ update ∈ updates, (config.target update.ioa).1.isAcquired = true
  distinct : (updates.map fun update => config.target update.ioa).Nodup
  determinate : ∀ update ∈ updates, update.value.Determinate

theorem numeric_convertIec104Value {value : DataValue} :
    (convertIec104Value value).Numeric ↔ value.Determinate := by
  cases value with
  | double value => cases value <;> simp [convertIec104Value, Value.Numeric, DataValue.Determinate]
  | normalized | float | single | scaled | counter | bitstring | stepPosition | binaryCounter =>
    exact Iff.rfl

theorem key_convertDataPoint (config : Config) (now : Int) (update : Update) :
    (config.convertDataPoint now update).key = config.target update.ioa := rfl

theorem isAcquired_iff {pointType : PointType} :
    pointType.isAcquired = true ↔ pointType = .telemetry ∨ pointType = .signal := by
  cases pointType <;> simp [PointType.isAcquired]

theorem storable_convertDataPoints_iff {config : Config} {now : Int} {updates : List Update} :
    Storable (config.convertDataPoints now updates) ↔ config.Recordable updates := by
  have keys : (config.convertDataPoints now updates).map StampedPoint.key =
      updates.map fun update => config.target update.ioa := by
    rw [Config.convertDataPoints, List.map_map]
    exact List.map_congr_left fun update _ => key_convertDataPoint config now update
  constructor
  · intro storable
    refine ⟨fun update member => ?_, keys ▸ storable.distinct, fun update member => ?_⟩
    · exact isAcquired_iff.mpr (storable.acquired _ (List.mem_map_of_mem member))
    · exact numeric_convertIec104Value.mp (storable.numeric _ (List.mem_map_of_mem member))
  · intro recordable
    refine ⟨fun point member => ?_, keys ▸ recordable.distinct, fun point member => ?_⟩
    · obtain ⟨update, updated, rfl⟩ := List.mem_map.mp member
      exact isAcquired_iff.mp (recordable.acquired update updated)
    · obtain ⟨update, updated, rfl⟩ := List.mem_map.mp member
      exact numeric_convertIec104Value.mpr (recordable.determinate update updated)

namespace Task

/-- The updates that a step polls are recordable. -/
def PollsRecordable (task : Task) (input : Input) : Prop :=
  ∀ clock updates, task.polled input = some (clock, .ok (some (.dataUpdate updates))) →
    task.channel.config.Recordable updates

variable {task : Task}

theorem forall_handed_iff {input : Input} :
    (∀ batch ∈ task.handed input, Storable batch) ↔ task.PollsRecordable input := by
  rw [handed, PollsRecordable]
  rcases task.polled input with _ | ⟨clock, answer⟩
  · simp
  · have offered : (∀ batch ∈ (if task.channel.pollOnce clock answer ≠ [] then
        [task.channel.pollOnce clock answer] else []), Storable batch) ↔
        Storable (task.channel.pollOnce clock answer) := by
      by_cases empty : task.channel.pollOnce clock answer = []
      · simp [empty, Storable.nil]
      · simp [empty]
    refine offered.trans ?_
    rcases answer with error | (_ | event)
    · simp [Channel.pollOnce, Storable.nil]
    · simp [Channel.pollOnce, Storable.nil]
    · cases event with
      | dataUpdate => simp [Channel.pollOnce, storable_convertDataPoints_iff]
      | connected | disconnected | dataTransferStarted | dataTransferStopped | asduReceived
      | commandConfirm | interrogationComplete | error => simp [Channel.pollOnce, Storable.nil]

theorem forall_storable_iff {inputs : List Input} :
    (∀ batch ∈ emitted step handed task inputs, Storable batch) ↔
      GuardedRun.Guarded step PollsRecordable task inputs := by
  rw [forall_mem_emitted]
  exact ⟨GuardedRun.Guarded.mono fun _ _ => forall_handed_iff.mp,
    GuardedRun.Guarded.mono fun _ _ => forall_handed_iff.mpr⟩

end Task

end Iec104

/-- A GPIO channel hands over only batches that can be stored exactly when it has no output and its
inputs have different numbers.  A virtual channel does so where every written batch can be stored and
no command is written, and only there if all its events are received.  An IEC 104 channel does so
exactly when every update that it polls is of different telemetry and signal points and determinate.
The store accepts such a batch. -/
theorem polled_batches_storable_iff (gpio : Gpio.Config) (virtual : List VirtualChannel.Input)
    (iec104 : Iec104.Config) (policy : ReconnectPolicy) (autoRecovery : Option AutoRecoveryPolicy)
    (state : ConnectionState) (inputs : List Iec104.Task.Input) :
    ((∀ inputs, ∀ batch ∈ emitted Gpio.Channel.step Gpio.Channel.handed
      (Gpio.Channel.new gpio) inputs, Storable batch) ↔ Gpio.Channel.InputsOnly gpio) ∧
    ((∀ input ∈ virtual, input.Feeds) → ∀ batch ∈ emitted step handed new virtual, Storable batch) ∧
    ((∀ input ∈ virtual, input.Received) → ((∀ batch ∈ emitted step handed new
        virtual, Storable batch) ↔ ∀ input ∈ virtual, input.Feeds)) ∧
    ((∀ batch ∈ emitted Iec104.Task.step Iec104.Task.handed
      (Iec104.Task.start iec104 policy autoRecovery state) inputs, Storable batch) ↔
      GuardedRun.Guarded Iec104.Task.step Iec104.Task.PollsRecordable
        (Iec104.Task.start iec104 policy autoRecovery state) inputs) ∧
    ∀ (channelId : UInt32) (batch : List StampedPoint), Storable batch →
      (∀ point ∈ batch, ∀ value, point.value.asF64 = some value → value.isFinite = true) →
      (∀ point ∈ batch, 0 ≤ point.storedTime) → Accepted channelId batch := by
  refine ⟨Gpio.Channel.forall_storable_iff gpio, ?_, ?_, ?_, fun channelId batch storable => ?_⟩
  · exact forall_storable_of_feeds
  · exact forall_storable_iff
  · exact Iec104.Task.forall_storable_iff
  · exact storable.accepted

/-- A door contact and a lock. -/
def doorPins : Gpio.Config := ⟨[⟨1, some 17, false⟩], [⟨2, some 27, false⟩]⟩

def storedOrder : VirtualChannel.Order := ⟨id, fun _ => .refl _⟩

/-- A temperature of twenty degrees. -/
def temperature : StampedPoint :=
  { id := 1
    pointType := .telemetry
    value := .integer 20
    quality := .good
    timestamp := 0
    sourceTimestamp := none }

/-- Two signals of a substation. -/
def substation : Iec104.Config := ⟨[⟨1, .signal, 100, ⟨1.0, 0.0, false⟩⟩,
  ⟨2, .signal, 101, ⟨1.0, 0.0, false⟩⟩]⟩

def agreed : Iec104.ConnectAnswers := ⟨.ok (), .ok (), .ok (), .ok ()⟩

def pollTick (answer : Except String (Option Iec104.Event)) : Iec104.Tick :=
  ⟨0, 0, 0, none, agreed, none, answer⟩

def substationTask : Iec104.Task :=
  .start substation ⟨0, false, fun _ => some 1⟩ none .connected

def doublePoint (ioa : UInt32) (value : Iec104.DoublePointValue) : Iec104.Update :=
  ⟨ioa, .double value, ⟨true, false⟩, none⟩

theorem polled_batches_storable_inputs :
    (∀ inputs, ∀ batch ∈ emitted Gpio.Channel.step Gpio.Channel.handed
      (Gpio.Channel.new ⟨[⟨1, some 17, false⟩], []⟩) inputs, Storable batch) ∧
    (∀ batch ∈ emitted step handed new
      [.write [temperature] true, .tick storedOrder], Storable batch) ∧
    ∀ batch ∈ emitted Iec104.Task.step Iec104.Task.handed substationTask
      [.tick (pollTick (.ok (some (.dataUpdate [doublePoint 100 .on, doublePoint 101 .off]))))],
      Storable batch := by
  have inputsOnly : Gpio.Channel.InputsOnly ⟨[⟨1, some 17, false⟩], []⟩ := ⟨by decide, by decide⟩
  have feeds : ∀ input ∈ [VirtualChannel.Input.write [temperature] true, .tick storedOrder],
      input.Feeds := by
    simp only [List.forall_mem_cons, List.not_mem_nil, false_imp_iff, implies_true, and_true]
    refine ⟨⟨?_, by decide, ?_⟩, trivial⟩
    · exact List.forall_mem_singleton.mpr (.inl rfl)
    · exact List.forall_mem_singleton.mpr trivial
  obtain ⟨gpio, virtual, -, iec104, -⟩ := polled_batches_storable_iff
    ⟨[⟨1, some 17, false⟩], []⟩ [.write [temperature] true, .tick storedOrder] substation
    ⟨0, false, fun _ => some 1⟩ none .connected
    [.tick (pollTick (.ok (some (.dataUpdate [doublePoint 100 .on, doublePoint 101 .off]))))]
  refine ⟨gpio.mpr inputsOnly, virtual feeds, iec104.mpr ⟨fun clock updates polled => ?_, trivial⟩⟩
  cases polled
  refine ⟨by decide, by decide, ?_⟩
  simp [doublePoint, Iec104.DataValue.Determinate]

theorem not_accepted_of_mem {channelId : UInt32} {batch : List StampedPoint} {point : StampedPoint}
    (member : point ∈ batch) (bad : ¬ point.Convertible) : ¬ Accepted channelId batch :=
  fun accepted => bad ((accepted_iff.mp accepted).1 point member)

/-- The state of the lock rejects the batch of the door contact, a command rejects the temperatures
of all later polls, and an indeterminate signal rejects the other one. -/
theorem fresh_inputs_rejected : (∃ batch ∈ emitted Gpio.Channel.step Gpio.Channel.handed
      (Gpio.Channel.new doorPins) [.tick Gpio.Channel.steadyDriver 0], ¬ Accepted 1 batch) ∧
    (∃ batch ∈ emitted step handed new
      [.write [temperature] true, .control 0 [(2, true)] false, .tick storedOrder],
        ¬ Accepted 1 batch) ∧
    ∃ batch ∈ emitted Iec104.Task.step Iec104.Task.handed substationTask
      [.tick (pollTick (.ok (some (.dataUpdate [doublePoint 100 .on,
        doublePoint 101 .indeterminate]))))], ¬ Accepted 1 batch := by
  refine ⟨⟨_, List.mem_cons_self, ?_⟩, ⟨_, List.mem_cons_of_mem _ List.mem_cons_self, ?_⟩,
    ⟨_, List.mem_cons_self, ?_⟩⟩
  · refine not_accepted_of_mem (List.mem_cons_of_mem _ List.mem_cons_self) fun convertible => ?_
    rcases convertible.acquired with telemetry | signal
    · cases telemetry
    · cases signal
  · refine not_accepted_of_mem (List.mem_cons_of_mem _ List.mem_cons_self) fun convertible => ?_
    rcases convertible.acquired with telemetry | signal
    · cases telemetry
    · cases signal
  · refine not_accepted_of_mem (List.mem_cons_of_mem _ List.mem_cons_self) fun convertible => ?_
    obtain ⟨_, numeric, -⟩ := convertible.numeric
    cases numeric

end AetherIot.Io
