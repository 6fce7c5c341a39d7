import AetherIot.Foundation.KeyedList
import AetherIot.Io.ShmStore

/-!
# GPIO channels

Digital inputs are the signals of a channel and digital outputs its controls.  A poll returns the
inputs that could be read, followed by the last written states of all outputs.
-/

namespace AetherIot.Io.Gpio

inductive Direction where
  | input
  | output
  deriving DecidableEq

structure PinConfig where
  gpioNumber : UInt32
  direction : Direction
  pointId : UInt32
  pointType : PointType
  activeLow : Bool
  deriving DecidableEq

namespace PinConfig

def digitalInputSysfs (gpioNumber pointId : UInt32) : PinConfig :=
  ⟨gpioNumber, .input, pointId, .signal, false⟩

def digitalOutputSysfs (gpioNumber pointId : UInt32) : PinConfig :=
  ⟨gpioNumber, .output, pointId, .control, false⟩

def withActiveLow (pin : PinConfig) (activeLow : Bool) : PinConfig := { pin with activeLow }

/-- Logic levels are inverted on pins that are active at the low level. -/
def adjusted (pin : PinConfig) (value : Bool) : Bool := if pin.activeLow then !value else value

end PinConfig

/-- A configured point; the mapping may name no pin. -/
structure Point where
  id : UInt32
  gpioNumber : Option UInt32
  reverse : Bool
  deriving DecidableEq

structure Config where
  signalPoints : List Point
  controlPoints : List Point
  deriving DecidableEq

namespace Config

/-- The pins of the signals, and after them those of the controls. -/
def pins (config : Config) : List PinConfig :=
  (config.signalPoints.filterMap fun point => point.gpioNumber.map fun number =>
    (PinConfig.digitalInputSysfs number point.id).withActiveLow point.reverse) ++
  config.controlPoints.filterMap fun point => point.gpioNumber.map fun number =>
    (PinConfig.digitalOutputSysfs number point.id).withActiveLow point.reverse

def inputPins (config : Config) : List PinConfig := config.pins.filter (·.direction = .input)

def outputPins (config : Config) : List PinConfig := config.pins.filter (·.direction = .output)

variable {config : Config} {pin : PinConfig}

theorem pointType_of_mem_pins (member : pin ∈ config.pins) :
    pin.pointType = if pin.direction = .input then .signal else .control := by
  rcases List.mem_append.mp member with isInput | isOutput
  · obtain ⟨_, -, created⟩ := List.mem_filterMap.mp isInput
    obtain ⟨_, -, rfl⟩ := Option.map_eq_some_iff.mp created
    rfl
  · obtain ⟨_, -, created⟩ := List.mem_filterMap.mp isOutput
    obtain ⟨_, -, rfl⟩ := Option.map_eq_some_iff.mp created
    rfl

theorem pointType_of_mem_inputPins (member : pin ∈ config.inputPins) : pin.pointType = .signal := by
  obtain ⟨created, isInput⟩ := List.mem_filter.mp member
  rw [pointType_of_mem_pins created, if_pos (of_decide_eq_true isInput)]

end Config

/-- A state for each of the pins. -/
structure AtomicBoolStore where
  pinIds : List UInt32
  states : UInt32 → Bool

namespace AtomicBoolStore

def fromPins (pinIds : List UInt32) : AtomicBoolStore := ⟨pinIds, fun _ => false⟩

def get (store : AtomicBoolStore) (id : UInt32) : Option Bool :=
  if id ∈ store.pinIds then some (store.states id) else none

def set (store : AtomicBoolStore) (id : UInt32) (value : Bool) : AtomicBoolStore :=
  if id ∈ store.pinIds then { store with states := Function.update store.states id value } else store

end AtomicBoolStore

structure Channel where
  config : Config
  connected : Bool
  outputStates : AtomicBoolStore

/-- The answers of the driver while a command or a poll runs. -/
structure Driver where
  read : PinConfig → Except String Bool
  write : PinConfig → Bool → Except String Unit

namespace Channel

def new (config : Config) : Channel :=
  ⟨config, true, .fromPins (config.outputPins.map (·.pointId))⟩

def booleanPoint (now : Int) (pin : PinConfig) (value : Bool) : StampedPoint :=
  { id := pin.pointId
    pointType := pin.pointType
    value := .bool value
    quality := .good
    timestamp := now
    sourceTimestamp := none }

def readPin (driver : Driver) (now : Int) (pin : PinConfig) : Except String StampedPoint :=
  (driver.read pin).map fun raw => booleanPoint now pin (pin.adjusted raw)

variable (channel : Channel)

def writePin (driver : Driver) (pin : PinConfig) (value : Bool) : Except String Channel :=
  (driver.write pin (pin.adjusted value)).map fun _ =>
    { channel with outputStates := channel.outputStates.set pin.pointId (pin.adjusted value) }

/-- The batch and the failures of a poll. -/
def readAll (driver : Driver) (now : Int) : List StampedPoint × List PointFailure :=
  let answers := channel.config.inputPins.map fun pin => (pin, readPin driver now pin)
  (answers.filterMap (fun answer => answer.2.toOption) ++
      channel.config.outputPins.filterMap fun pin =>
        (channel.outputStates.get pin.pointId).map (booleanPoint now pin),
    answers.filterMap fun answer =>
      match answer.2 with
      | .ok _ => none
      | .error error => some ⟨answer.1.pointId, error⟩)

/-- One command: the first output with the number is written. -/
def writeCommand (driver : Driver) (command : UInt32 × Bool) : Channel :=
  match channel.config.pins.find? fun pin => pin.pointId = command.1 ∧ pin.direction = .output with
  | none => channel
  | some pin => ((channel.writePin driver pin command.2).toOption).getD channel

def writeControl (driver : Driver) (commands : List (UInt32 × Bool)) : Except String Channel :=
  if channel.connected then .ok (commands.foldl (writeCommand · driver) channel)
  else .error "Not connected"

def writeAdjustment (_ : Channel) (_ : List (UInt32 × Float)) : Except String Channel :=
  .error "GPIO does not support analog adjustment"

inductive Input where
  | connect
  | disconnect
  | control (driver : Driver) (commands : List (UInt32 × Bool))
  | adjustment (commands : List (UInt32 × Float))
  | tick (driver : Driver) (now : Int)

def step : Input → Channel
  | .connect => { channel with connected := true }
  | .disconnect => { channel with connected := false }
  | .control driver commands => (channel.writeControl driver commands).toOption.getD channel
  | .adjustment commands => (channel.writeAdjustment commands).toOption.getD channel
  | .tick _ _ => channel

/-- What a step hands to the store: the batch of a poll, unless it is empty. -/
def handed : Input → List (List StampedPoint)
  | .tick driver now =>
    let batch := (channel.readAll driver now).1
    if channel.connected ∧ batch ≠ [] then [batch] else []
  | _ => []

/-- No pin is an output, and the inputs have different numbers. -/
structure InputsOnly (config : Config) : Prop where
  noOutput : config.outputPins = []
  distinct : (config.inputPins.map (·.pointId)).Nodup

theorem config_writeCommand (driver : Driver) (command : UInt32 × Bool) (channel : Channel) :
    (channel.writeCommand driver command).config = channel.config := by
  rw [writeCommand]
  split
  · rfl
  · rename_i pin _
    rw [writePin]
    cases driver.write pin (pin.adjusted command.2) <;> rfl

theorem config_writeCommands (driver : Driver) (commands : List (UInt32 × Bool))
    (channel : Channel) :
    (commands.foldl (writeCommand · driver) channel).config = channel.config := by
  induction commands generalizing channel with
  | nil => rfl
  | cons _ _ ih =>
    rw [List.foldl_cons, ih, config_writeCommand]

theorem config_step (channel : Channel) (input : Input) :
    (channel.step input).config = channel.config := by
  cases input with
  | connect | disconnect | tick | adjustment => rfl
  | control driver commands =>
    rw [step, writeControl]
    split
    · exact config_writeCommands driver commands channel
    · rfl

theorem readPin_eq_some {driver : Driver} {now : Int} {pin : PinConfig} {point : StampedPoint}
    (answered : (readPin driver now pin).toOption = some point) :
    ∃ value, point = booleanPoint now pin value := by
  rw [readPin] at answered
  cases reading : driver.read pin with
  | error => simp [reading, Except.map, Except.toOption] at answered
  | ok =>
    simp only [reading, Except.map, Except.toOption, Option.some.injEq] at answered
    exact ⟨_, answered.symm⟩

variable {channel : Channel}

theorem readAll_of_noOutput (noOutput : channel.config.outputPins = []) (driver : Driver)
    (now : Int) :
    (channel.readAll driver now).1 = channel.config.inputPins.filterMap fun pin =>
      (readPin driver now pin).toOption := by
  rw [readAll, noOutput, List.filterMap_nil, List.append_nil, List.filterMap_map]
  rfl

theorem storable_readAll (inputsOnly : InputsOnly channel.config) (driver : Driver) (now : Int) :
    Storable (channel.readAll driver now).1 := by
  rw [readAll_of_noOutput inputsOnly.noOutput]
  refine ⟨fun point member => ?_, ?_, fun point member => ?_⟩
  · obtain ⟨pin, isInput, answered⟩ := List.mem_filterMap.mp member
    obtain ⟨_, rfl⟩ := readPin_eq_some answered
    exact .inr (Config.pointType_of_mem_inputPins isInput)
  · refine List.Nodup.of_map Prod.snd ?_
    rw [List.map_map]
    refine inputsOnly.distinct.sublist (KeyedList.sublist_keys_filterMap fun pin point answered => ?_)
    obtain ⟨_, rfl⟩ := readPin_eq_some answered
    rfl
  · obtain ⟨_, -, answered⟩ := List.mem_filterMap.mp member
    obtain ⟨_, rfl⟩ := readPin_eq_some answered
    trivial

/-- A channel without outputs hands only storable batches to the store. -/
theorem storable_handed (inputsOnly : InputsOnly channel.config) (input : Input) :
    ∀ batch ∈ channel.handed input, Storable batch := by
  intro _ member
  cases input with
  | connect | disconnect | control | adjustment => cases member
  | tick driver now =>
    rw [handed] at member
    split at member
    · rw [List.mem_singleton.mp member]
      exact storable_readAll inputsOnly driver now
    · cases member

/-- Every pin answers, and every write succeeds. -/
def steadyDriver : Driver := ⟨fun _ => .ok false, fun _ _ => .ok ()⟩

theorem readAll_new (config : Config) (now : Int) :
    ((new config).readAll steadyDriver now).1.map StampedPoint.key =
      config.inputPins.map (fun pin => (pin.pointType, pin.pointId)) ++
        config.outputPins.map fun pin => (pin.pointType, pin.pointId) := by
  have outputs : ∀ pin ∈ config.outputPins,
      (((new config).outputStates.get pin.pointId).map (booleanPoint now pin)) =
        some (booleanPoint now pin false) := by
    intro pin member
    have known : pin.pointId ∈ config.outputPins.map (·.pointId) := List.mem_map_of_mem member
    simp [new, AtomicBoolStore.get, AtomicBoolStore.fromPins, known]
  have cached : (config.outputPins.filterMap fun pin =>
      ((new config).outputStates.get pin.pointId).map (booleanPoint now pin)) =
      config.outputPins.map (booleanPoint now · false) :=
    (KeyedList.map_eq_filterMap.mpr outputs).symm
  have answered : ((config.inputPins.map fun pin => (pin, readPin steadyDriver now pin)).filterMap
      fun answer => answer.2.toOption) =
      config.inputPins.map fun pin => booleanPoint now pin (pin.adjusted false) := by
    rw [List.filterMap_map]
    exact (KeyedList.map_eq_filterMap.mpr fun pin _ => rfl).symm
  change ((_ ++ _ : List StampedPoint).map StampedPoint.key) = _
  rw [List.map_append]
  refine congrArg₂ (· ++ ·) ?_ ?_
  · exact (congrArg (List.map StampedPoint.key) answered).trans (List.map_map ..)
  · exact (congrArg (List.map StampedPoint.key) cached).trans (List.map_map ..)

theorem inputsOnly_of_storable {config : Config} (now : Int)
    (storable : Storable ((new config).readAll steadyDriver now).1) : InputsOnly config := by
  have keys := readAll_new config now
  constructor
  · refine List.eq_nil_iff_forall_not_mem.mpr fun pin member => ?_
    have isControl : pin.pointType = .control := by
      obtain ⟨created, isOutput⟩ := List.mem_filter.mp member
      rw [Config.pointType_of_mem_pins created, of_decide_eq_true isOutput]
      rfl
    have polled : (pin.pointType, pin.pointId) ∈
        ((new config).readAll steadyDriver now).1.map StampedPoint.key := by
      rw [keys]
      exact List.mem_append_right _ (List.mem_map_of_mem (f := fun pin : PinConfig =>
        (pin.pointType, pin.pointId)) member)
    obtain ⟨point, inBatch, named⟩ := List.mem_map.mp polled
    have pointType : point.pointType = .control := (congrArg Prod.fst named).trans isControl
    rcases storable.acquired point inBatch with telemetry | signal
    · cases telemetry.symm.trans pointType
    · cases signal.symm.trans pointType
  · have distinct := storable.distinct
    rw [keys] at distinct
    have signals : config.inputPins.map (fun pin => (pin.pointType, pin.pointId)) =
        (config.inputPins.map (·.pointId)).map (Prod.mk .signal) := by
      rw [List.map_map]
      refine List.map_congr_left fun pin member => ?_
      simp [Config.pointType_of_mem_inputPins member]
    refine List.Nodup.of_map (Prod.mk PointType.signal) ?_
    rw [← signals]
    exact (List.nodup_append.mp distinct).1

/-- Every batch of every run of a channel can be stored exactly when it has no outputs and its inputs
have different numbers. -/
theorem forall_storable_iff (config : Config) :
    (∀ inputs, ∀ batch ∈ GuardedRun.emitted step handed (new config) inputs, Storable batch) ↔
      InputsOnly config := by
  constructor
  · intro storable
    refine inputsOnly_of_storable 0 ?_
    by_cases empty : ((new config).readAll steadyDriver 0).1 = []
    · rw [empty]
      exact Storable.nil
    · have connected : (new config).connected = true := rfl
      refine storable [.tick steadyDriver 0] _ ?_
      simp [GuardedRun.emitted, handed, empty, connected]
  · intro inputsOnly inputs
    have preserved : ∀ (channel : Channel) (input : Input), channel.config = config → True →
        (channel.step input).config = config := fun channel input same _ =>
      (config_step channel input).trans same
    refine GuardedRun.forall_mem_emitted.mpr ?_
    refine GuardedRun.Guarded.of_invariant preserved (fun channel input same _ => ?_) rfl
      (GuardedRun.guarded_of_forall (fun _ _ => trivial) _ inputs)
    exact storable_handed (same ▸ inputsOnly) input

end Channel

end AetherIot.Io.Gpio
