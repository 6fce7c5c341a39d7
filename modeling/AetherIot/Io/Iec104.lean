import AetherIot.Io.AddressedPoint

/-!
# IEC 60870-5-104 points

An IEC 104 channel keeps two tables over all of its points: one from information object addresses to
numbers and types, and one from numbers to points.
-/

namespace AetherIot.Io.Iec104

inductive DoublePointValue where
  | indeterminate
  | off
  | on
  | indeterminateOrFaulty
  deriving DecidableEq

inductive DataValue where
  | single (value : Bool)
  | double (value : DoublePointValue)
  | normalized (value : Float32)
  | scaled (value : Int16)
  | float (value : Float32)
  | counter (value : Int32)
  | bitstring (value : UInt32)
  | stepPosition (value : Int8)
  | binaryCounter (value : Int32)

def convertIec104Value : DataValue → Value
  | .single value => .bool value
  | .double .off => .bool false
  | .double .on => .bool true
  | .double .indeterminate | .double .indeterminateOrFaulty => .null
  | .normalized value => .float value.toFloat
  | .scaled value => .integer value.toInt
  | .float value => .float value.toFloat
  | .counter value => .integer value.toInt
  | .bitstring value => .integer value.toNat
  | .stepPosition value => .integer value.toInt
  | .binaryCounter value => .integer value.toInt

/-- The quality descriptor of an information object. -/
structure QualityDescriptor where
  isGood : Bool
  invalid : Bool
  deriving DecidableEq

def convertIec104Quality (quality : QualityDescriptor) : Quality :=
  if quality.isGood then .good else if quality.invalid then .invalid else .uncertain

/-- An information object that the server reports. -/
structure Update where
  ioa : UInt32
  value : DataValue
  quality : QualityDescriptor
  sourceTimestamp : Option Int

abbrev Point := AddressedPoint UInt32

structure Config where
  points : List Point

namespace Config

variable (config : Config)

/-- The entry of an information object address: later points replace earlier ones. -/
def ioaMapping (ioa : UInt32) : Option (UInt32 × PointType) :=
  (KeyedList.findLast? (fun point => point.address = ioa) config.points).map fun point =>
    (point.id, point.pointType)

def convertDataPoint (now : Int) (update : Update) : StampedPoint :=
  let (id, pointType) := (config.ioaMapping update.ioa).getD (update.ioa, .telemetry)
  { id
    pointType
    value := convertIec104Value update.value
    quality := convertIec104Quality update.quality
    timestamp := now
    sourceTimestamp := update.sourceTimestamp }

def convertDataPoints (now : Int) (updates : List Update) : List StampedPoint :=
  updates.map (config.convertDataPoint now)

inductive Request where
  | singleCommand (ioa : UInt32) (value : Bool)
  | setpointFloat (ioa : UInt32) (value : Float32)

def Request.ioa : Request → UInt32
  | .singleCommand ioa _ => ioa
  | .setpointFloat ioa _ => ioa

def findPoint (id : UInt32) : Option Point :=
  AddressedPoint.last config.points id

def controlRequest (command : UInt32 × Bool) : Except String Request :=
  match config.findPoint command.1 with
  | none => .error "Point not found"
  | some point => .ok (.singleCommand point.address command.2)

def adjustmentRequest (command : UInt32 × Float) : Except String Request :=
  match config.findPoint command.1 with
  | none => .error "Point not found"
  | some point =>
    (point.transform.reverseApply command.2).map fun raw =>
      .setpointFloat point.address raw.toFloat32

def writeControl (answer : Request → Except String Unit) (commands : List (UInt32 × Bool)) :
    Writes Request :=
  Writes.each Prod.fst config.controlRequest answer commands

def writeAdjustment (answer : Request → Except String Unit) (adjustments : List (UInt32 × Float)) :
    Writes Request :=
  Writes.each Prod.fst config.adjustmentRequest answer adjustments

/-- The last point at the address of an update is read from there, and its transform leaves the
number as it is. -/
def Resolves (update : Update) : Prop :=
  ∃ point, KeyedList.findLast? (fun point => point.address = update.ioa) config.points = some point ∧
    point.pointType.isAcquired = true ∧
    (applyTransform (convertIec104Value update.value) point.transform).stored =
      (convertIec104Value update.value).stored

variable {config : Config} {update : Update} {now : Int}

theorem convertDataPoint_of_found {point : Point}
    (found : KeyedList.findLast? (fun point => point.address = update.ioa) config.points =
      some point) :
    (config.convertDataPoint now update).stored =
      ⟨point.id, point.pointType, (convertIec104Value update.value).stored⟩ := by
  simp [convertDataPoint, ioaMapping, found, DataPoint.stored]

theorem published_iff (wellFormed : AddressedPoint.WellFormed some config.points) :
    AddressedPoint.publication some config.points update.ioa (convertIec104Value update.value) =
        some (config.convertDataPoint now update).stored ↔ config.Resolves update := by
  constructor
  · intro published
    obtain ⟨point, member, reads, same⟩ := AddressedPoint.exists_of_publication published
    have isRead := reads
    simp only [AddressedPoint.readsFrom, Bool.and_eq_true, decide_eq_true_eq, Option.some.injEq]
      at isRead
    obtain ⟨_, found⟩ := @KeyedList.exists_findLast? _ (fun point => point.address = update.ioa)
      _ _ member (decide_eq_true isRead.2)
    rw [convertDataPoint_of_found found, AddressedPoint.read, DataPoint.mk.injEq] at same
    have lastMember := (KeyedList.mem_of_findLast? found).1
    obtain rfl := wellFormed.eq_of_key member lastMember same.2.1 same.1
    exact ⟨point, found, isRead.1, same.2.2⟩
  · rintro ⟨_, found, acquired, unchanged⟩
    obtain ⟨member, located⟩ := KeyedList.mem_of_findLast? found
    rw [convertDataPoint_of_found found, wellFormed.publication_eq_some member,
      AddressedPoint.read, unchanged]
    simpa [AddressedPoint.readsFrom, acquired] using located

/-- The points that a batch of updates is published as. -/
def publications (config : Config) (updates : List Update) : List DataPoint :=
  updates.filterMap fun update =>
    AddressedPoint.publication some config.points update.ioa (convertIec104Value update.value)

theorem convertDataPoints_eq_iff (wellFormed : AddressedPoint.WellFormed some config.points)
    {updates : List Update} :
    (config.convertDataPoints now updates).map (·.stored) =
        config.publications updates ↔ ∀ update ∈ updates, config.Resolves update := by
  rw [convertDataPoints, List.map_map, publications, KeyedList.map_eq_filterMap]
  exact forall₂_congr fun _ _ => published_iff wellFormed

/-- The last point with the number of a control command is at the address of the control point. -/
def ControlMatches (config : Config) (id : UInt32) : Prop :=
  ∀ point, AddressedPoint.last config.points id = some point →
    AddressedPoint.ActsOn some config.points .control id point.address

/-- The last point with the number of an adjustment is at the address of the adjustment
point, or its transform cannot be reversed. -/
def AdjustmentMatches (config : Config) (id : UInt32) : Prop :=
  ∀ point, AddressedPoint.last config.points id = some point → point.transform.Reversible →
    AddressedPoint.ActsOn some config.points .adjustment id point.address

/-- The requests for commands of a type act on the points of that type. -/
def Directs (config : Config) (pointType : PointType) (writes : Writes Request) : Prop :=
  ∀ entry ∈ writes.sent, AddressedPoint.ActsOn some config.points pointType entry.1 entry.2.ioa

variable {request : Request} {answer : Request → Except String Unit}

theorem directs_writeControl_iff {commands : List (UInt32 × Bool)} :
    config.Directs .control (config.writeControl answer commands) ↔
      ∀ command ∈ commands, config.ControlMatches command.1 := by
  rw [Directs, writeControl, Writes.forall_sent_last fun command => by
    rw [controlRequest, findPoint]
    cases AddressedPoint.last config.points command.1 <;> rfl]
  simp only [Except.ok.injEq, forall_eq']
  exact Iff.rfl

theorem directs_writeAdjustment_iff {adjustments : List (UInt32 × Float)} :
    config.Directs .adjustment (config.writeAdjustment answer adjustments) ↔
      ∀ command ∈ adjustments, config.AdjustmentMatches command.1 := by
  rw [Directs, writeAdjustment, Writes.forall_sent_last fun command => by
    rw [adjustmentRequest, findPoint]
    cases AddressedPoint.last config.points command.1 <;> rfl]
  exact forall₂_congr fun command _ => forall₂_congr fun point _ =>
    TransformConfig.forall_map_reverseApply

end Config

end AetherIot.Io.Iec104
