import AetherIot.Io.ShmStore

/-!
# Virtual channels

A virtual channel keeps the last point that was written for each number, whatever its type.  Every
batch that is written is also sent as an event; commands are written as points.
-/

namespace AetherIot.Io

open GuardedRun

structure VirtualChannel where
  dataBuffer : List StampedPoint

namespace VirtualChannel

def new : VirtualChannel := ⟨[]⟩

/-- The buffer with a point in the place of the one that has its number. -/
def insert (buffer : List StampedPoint) (point : StampedPoint) : List StampedPoint :=
  buffer.filter (·.id ≠ point.id) ++ [point]

variable (channel : VirtualChannel)

def write (batch : List StampedPoint) : VirtualChannel :=
  ⟨batch.foldl insert channel.dataBuffer⟩

def controlPoint (now : Int) (command : UInt32 × Bool) : StampedPoint :=
  { id := command.1
    pointType := .control
    value := .bool command.2
    quality := .good
    timestamp := now
    sourceTimestamp := none }

def adjustmentPoint (now : Int) (command : UInt32 × Float) : StampedPoint :=
  { id := command.1
    pointType := .adjustment
    value := .float command.2
    quality := .good
    timestamp := now
    sourceTimestamp := none }

/-- The order in which the entries of the buffer are visited. -/
structure Order where
  arrange : List StampedPoint → List StampedPoint
  perm : ∀ points, (arrange points).Perm points

def getAllPoints (order : Order) : List StampedPoint :=
  order.arrange channel.dataBuffer

/-- What happens to the channel.  `received` tells whether the event of a write reaches the task
before the queue of events overflows. -/
inductive Input where
  | connect
  | disconnect
  | write (batch : List StampedPoint) (received : Bool)
  | control (now : Int) (commands : List (UInt32 × Bool)) (received : Bool)
  | adjustment (now : Int) (commands : List (UInt32 × Float)) (received : Bool)
  | tick (order : Order)

/-- The batch that an input writes, and whether its event is received. -/
def Input.written : Input → Option (List StampedPoint × Bool)
  | .write batch received => some (batch, received)
  | .control now commands received => some (commands.map (controlPoint now), received)
  | .adjustment now commands received => some (commands.map (adjustmentPoint now), received)
  | .connect | .disconnect | .tick _ => none

def step (input : Input) : VirtualChannel :=
  match input.written with
  | some (batch, _) => channel.write batch
  | none => channel

/-- The batch of a poll, or of an event that is received. -/
def offered : Input → List StampedPoint
  | .tick order => channel.getAllPoints order
  | input =>
    match input.written with
    | some (batch, true) => batch
    | _ => []

/-- What a step hands to the store. -/
def handed (input : Input) : List (List StampedPoint) :=
  if channel.offered input ≠ [] then [channel.offered input] else []

/-- Whatever is written can be stored, and no command is written. -/
def Input.Feeds : Input → Prop
  | .write batch _ => Storable batch
  | .control _ commands _ => commands = []
  | .adjustment _ commands _ => commands = []
  | .connect | .disconnect | .tick _ => True

variable {input : Input} {batch buffer : List StampedPoint} {channel : VirtualChannel}
  {inputs : List Input}

theorem Input.Feeds.storable (feeds : input.Feeds) {received : Bool}
    (written : input.written = some (batch, received)) : Storable batch := by
  cases input with
  | connect | disconnect | tick => cases written
  | write =>
    cases written
    exact feeds
  | control | adjustment =>
    cases written
    rw [feeds]
    exact Storable.nil

/-- The points of the buffer can be stored one by one, and no number occurs twice. -/
structure Feedable (buffer : List StampedPoint) : Prop where
  acquired : ∀ point ∈ buffer, point.pointType = .telemetry ∨ point.pointType = .signal
  numbered : (buffer.map (·.id)).Nodup
  numeric : ∀ point ∈ buffer, point.value.Numeric

theorem Feedable.storable (feedable : Feedable buffer) : Storable buffer := by
  refine ⟨feedable.acquired, List.Nodup.of_map Prod.snd ?_, feedable.numeric⟩
  rw [List.map_map]
  exact feedable.numbered

theorem Feedable.insert (feedable : Feedable buffer) {point : StampedPoint}
    (acquired : point.pointType = .telemetry ∨ point.pointType = .signal)
    (numeric : point.value.Numeric) : Feedable (VirtualChannel.insert buffer point) := by
  have cases_of_mem : ∀ other ∈ VirtualChannel.insert buffer point,
      other ∈ buffer ∨ other = point := by
    intro other member
    rcases List.mem_append.mp member with earlier | last
    · exact .inl (List.mem_filter.mp earlier).1
    · exact .inr (List.mem_singleton.mp last)
  refine ⟨fun other member => ?_, ?_, fun other member => ?_⟩
  · rcases cases_of_mem other member with earlier | rfl
    · exact feedable.acquired other earlier
    · exact acquired
  · rw [VirtualChannel.insert, List.map_append, List.nodup_append]
    refine ⟨feedable.numbered.sublist (List.filter_sublist.map _), List.nodup_singleton _, ?_⟩
    rintro _ kept other single rfl
    obtain ⟨earlier, member, rfl⟩ := List.mem_map.mp kept
    have different := of_decide_eq_true (List.mem_filter.mp member).2
    exact different (List.mem_singleton.mp single)
  · rcases cases_of_mem other member with earlier | rfl
    · exact feedable.numeric other earlier
    · exact numeric

theorem Feedable.write (feedable : Feedable channel.dataBuffer) (storable : Storable batch) :
    Feedable (channel.write batch).dataBuffer := by
  have grows : ∀ points : List StampedPoint, (∀ point ∈ points, point ∈ batch) →
      ∀ buffer, Feedable buffer → Feedable (points.foldl VirtualChannel.insert buffer) := by
    intro points
    induction points with
    | nil => exact fun _ _ feedable => feedable
    | cons point _ ih =>
      intro inBatch _ feedable
      have member := inBatch point List.mem_cons_self
      exact ih (fun other later => inBatch other (List.mem_cons_of_mem _ later)) _
        (feedable.insert (storable.acquired point member) (storable.numeric point member))
  exact grows batch (fun _ member => member) _ feedable

theorem feedable_step (feedable : Feedable channel.dataBuffer) (feeds : input.Feeds) :
    Feedable (channel.step input).dataBuffer := by
  rw [step]
  cases written : input.written with
  | none => exact feedable
  | some => exact feedable.write (feeds.storable written)

theorem storable_offered (feedable : Feedable channel.dataBuffer) (feeds : input.Feeds) :
    Storable (channel.offered input) := by
  cases input with
  | tick order => exact feedable.storable.perm (order.perm _)
  | connect | disconnect => exact Storable.nil
  | write _ received | control _ _ received | adjustment _ _ received =>
    cases received with
    | false => exact Storable.nil
    | true => exact feeds.storable rfl

theorem forall_handed_iff :
    (∀ batch ∈ channel.handed input, Storable batch) ↔ Storable (channel.offered input) := by
  rw [handed]
  by_cases empty : channel.offered input = []
  · simp [empty, Storable.nil]
  · simp [empty]

/-- The event of the input, if it has one, is received. -/
def Input.Received (input : Input) : Prop :=
  ∀ batch received, input.written = some (batch, received) → received = true

theorem feeds_of_storable (received : input.Received) (storable : Storable (channel.offered input)) :
    input.Feeds := by
  cases input with
  | tick | connect | disconnect => trivial
  | write =>
    obtain rfl := received _ _ rfl
    exact storable
  | control now =>
    obtain rfl := received _ _ rfl
    refine List.eq_nil_iff_forall_not_mem.mpr fun command member => ?_
    have acquired := storable.acquired (controlPoint now command) (List.mem_map_of_mem member)
    rcases acquired with telemetry | signal
    · cases telemetry
    · cases signal
  | adjustment now =>
    obtain rfl := received _ _ rfl
    refine List.eq_nil_iff_forall_not_mem.mpr fun command member => ?_
    have acquired := storable.acquired (adjustmentPoint now command) (List.mem_map_of_mem member)
    rcases acquired with telemetry | signal
    · cases telemetry
    · cases signal

/-- Every batch of a run can be stored where the written batches can be and no command is written. -/
theorem forall_storable_of_feeds (feeds : ∀ input ∈ inputs, input.Feeds) :
    ∀ batch ∈ emitted step handed new inputs, Storable batch := by
  have preserved : ∀ (channel : VirtualChannel) (input : Input), Feedable channel.dataBuffer →
      input.Feeds → Feedable (channel.step input).dataBuffer := fun _ _ => feedable_step
  have initially : Feedable new.dataBuffer := ⟨by simp [new], by simp [new], by simp [new]⟩
  refine forall_mem_emitted.mpr ?_
  refine GuardedRun.Guarded.of_invariant preserved (fun channel input feedable feeds => ?_)
    initially (guarded_iff_forall_mem.mpr feeds)
  exact forall_handed_iff.mpr (storable_offered feedable feeds)

theorem forall_storable_iff (received : ∀ input ∈ inputs, input.Received) :
    (∀ batch ∈ emitted step handed new inputs, Storable batch) ↔ ∀ input ∈ inputs, input.Feeds := by
  refine ⟨fun storable => ?_, forall_storable_of_feeds⟩
  have each := guarded_and (forall_mem_emitted.mp storable) (guarded_iff_forall_mem.mpr received)
  refine guarded_iff_forall_mem.mp (GuardedRun.Guarded.mono (fun channel input both => ?_) each)
  exact feeds_of_storable both.2 (forall_handed_iff.mp both.1)

end VirtualChannel

end AetherIot.Io
