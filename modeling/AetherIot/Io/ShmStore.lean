import AetherIot.Foundation.Attempt
import AetherIot.Io.CommandListener

/-!
# Storing a batch of points

A polled batch is converted point by point into samples of the channel, and no two samples may have
one address.  One point that does not convert, or one address that occurs twice, rejects the whole
batch.
-/

namespace AetherIot.Io

inductive Quality where
  | good
  | bad
  | uncertain
  | invalid
  | notConnected
  | deviceFailure
  | sensorFailure
  | commFailure
  | outOfService
  | substituted
  | overflow
  | underflow
  | configError
  | lastKnown
  deriving DecidableEq

/-- A point with its quality and its times, in milliseconds since the epoch. -/
structure StampedPoint extends DataPoint where
  quality : Quality
  timestamp : Int
  sourceTimestamp : Option Int

def Value.asF64 : Value → Option Float
  | .float value => some value
  | .integer value => some (Float.ofInt value)
  | .bool value => some (if value then 1.0 else 0.0)
  | _ => none

inductive PointQuality where
  | good
  | uncertain
  | bad
  | unavailable
  deriving DecidableEq

def PointQuality.ofQuality : Quality → PointQuality
  | .good => .good
  | .uncertain | .substituted | .overflow | .underflow | .lastKnown => .uncertain
  | .notConnected | .commFailure | .outOfService => .unavailable
  | .bad | .invalid | .deviceFailure | .sensorFailure | .configError => .bad

def PointType.debugText : PointType → String
  | .telemetry => "Telemetry"
  | .signal => "Signal"
  | .control => "Control"
  | .adjustment => "Adjustment"

def PointKind.debugText : PointKind → String
  | .telemetry => "Telemetry"
  | .status => "Status"
  | .command => "Command"
  | .action => "Action"

/-- The kind of a point that a batch may contain. -/
def PointType.acquiredKind : PointType → Option PointKind
  | .telemetry => some .telemetry
  | .signal => some .status
  | .control | .adjustment => none

def PointKind.isAcquisitionOwned : PointKind → Bool
  | .telemetry | .status => true
  | .command | .action => false

/-- The address of a point that acquisition owns. -/
structure ChannelPointAddress where
  channelId : UInt32
  kind : PointKind
  pointId : UInt32
  owned : kind.isAcquisitionOwned = true
  deriving DecidableEq

namespace ChannelPointAddress

def new (channelId : UInt32) (kind : PointKind) (pointId : UInt32) :
    Except String ChannelPointAddress :=
  if owned : kind.isAcquisitionOwned = true then .ok ⟨channelId, kind, pointId, owned⟩
  else .error ("point kind " ++ kind.debugText ++ " is not acquisition-owned")

/-- The type and the number of the point at an address. -/
def key (address : ChannelPointAddress) : PointType × UInt32 :=
  (match address.kind with
    | .telemetry => .telemetry
    | .status => .signal
    | .command => .control
    | .action => .adjustment, address.pointId)

theorem ext_key {left right : ChannelPointAddress} (channel : left.channelId = right.channelId)
    (same : left.key = right.key) : left = right := by
  obtain ⟨_, leftKind, _, _⟩ := left
  obtain ⟨_, rightKind, _, _⟩ := right
  simp only [key, Prod.mk.injEq] at same channel
  obtain ⟨kinds, rfl⟩ := same
  subst channel
  cases leftKind <;> cases rightKind <;> first | rfl | cases kinds

end ChannelPointAddress

/-- A finite sample of a physical channel. -/
structure AcquiredPointSample where
  address : ChannelPointAddress
  value : Float
  raw : Float
  timestamp : Nat
  quality : PointQuality
  finite : value.isFinite = true ∧ raw.isFinite = true

namespace StampedPoint

variable (point : StampedPoint)

/-- The time of the source, or else that of the gateway. -/
def storedTime : Int := point.sourceTimestamp.getD point.timestamp

/-- The type and the number of a point. -/
def key : PointType × UInt32 := (point.pointType, point.id)

/-- The value of a point as a finite number. -/
def finiteValue : Option { value : Float // value.isFinite = true } :=
  match point.value.asF64 with
  | some value => if finite : value.isFinite = true then some ⟨value, finite⟩ else none
  | none => none

/-- The sample for a point, or why there is none. -/
def acquiredSample (channelId : UInt32) (point : StampedPoint) :
    Except String AcquiredPointSample :=
  match point.pointType.acquiredKind with
  | none => .error (s!"acquisition batch contains command-owned " ++
      point.pointType.debugText ++ s!" point {point.id}")
  | some kind =>
    let subject := s!"channel {channelId} " ++ kind.debugText ++ s!" point {point.id}"
    match point.finiteValue with
    | none => .error (subject ++ " has a non-finite or non-numeric value")
    | some value =>
      if 0 ≤ point.storedTime then
        (ChannelPointAddress.new channelId kind point.id).map fun address =>
          ⟨address, value.1, value.1, point.storedTime.toNat, .ofQuality point.quality,
            value.2, value.2⟩
      else .error (subject ++ " has a pre-epoch timestamp")

/-- The point converts to a sample. -/
structure Convertible : Prop where
  acquired : point.pointType = .telemetry ∨ point.pointType = .signal
  numeric : ∃ value, point.value.asF64 = some value ∧ value.isFinite = true
  afterEpoch : 0 ≤ point.storedTime

variable {point : StampedPoint}

theorem isSome_finiteValue : point.finiteValue.isSome = true ↔
    ∃ value, point.value.asF64 = some value ∧ value.isFinite = true := by
  rw [finiteValue]
  cases numeric : point.value.asF64 with
  | none => simp
  | some value => by_cases finite : value.isFinite = true <;> simp [finite]

/-- What the sample of a point keeps of it. -/
structure Sampled (channelId : UInt32) (point : StampedPoint) (sample : AcquiredPointSample) :
    Prop where
  convertible : point.Convertible
  channel : sample.address.channelId = channelId
  key : sample.address.key = point.key

theorem sampled_of_acquiredSample {channelId : UInt32} {sample : AcquiredPointSample}
    (converted : point.acquiredSample channelId = .ok sample) :
    Sampled channelId point sample := by
  rw [acquiredSample] at converted
  cases pointType : point.pointType with
  | control | adjustment => simp [pointType, PointType.acquiredKind] at converted
  | telemetry | signal =>
    simp only [pointType, PointType.acquiredKind] at converted
    cases finite : point.finiteValue with
    | none => simp [finite] at converted
    | some =>
      simp only [finite] at converted
      split at converted
      · rename_i afterEpoch
        cases converted
        refine ⟨⟨by simp [pointType], isSome_finiteValue.mp (by simp [finite]), afterEpoch⟩,
          rfl, ?_⟩
        simp [ChannelPointAddress.key, StampedPoint.key, pointType]
      · cases converted

theorem Convertible.exists_acquiredSample (convertible : point.Convertible) (channelId : UInt32) :
    ∃ sample, point.acquiredSample channelId = .ok sample := by
  obtain ⟨_, finite⟩ := Option.isSome_iff_exists.mp (isSome_finiteValue.mpr convertible.numeric)
  rcases convertible.acquired with telemetry | signal
  · exact ⟨_, by
      simp only [acquiredSample, telemetry, PointType.acquiredKind, finite,
        if_pos convertible.afterEpoch]
      rfl⟩
  · exact ⟨_, by
      simp only [acquiredSample, signal, PointType.acquiredKind, finite,
        if_pos convertible.afterEpoch]
      rfl⟩

end StampedPoint

open StampedPoint

def batchToAcquiredSamples (channelId : UInt32) (batch : List StampedPoint) :
    Except String (List AcquiredPointSample) :=
  batch.mapM (acquiredSample channelId)

def indexPositions : List ChannelPointAddress → List AcquiredPointSample →
    Except String (List ChannelPointAddress)
  | positions, [] => .ok positions
  | positions, sample :: samples =>
    if sample.address ∈ positions then .error "duplicate acquired point address"
    else indexPositions (positions ++ [sample.address]) samples

/-- The batch passes the conversion and the check for duplicates. -/
def Accepted (channelId : UInt32) (batch : List StampedPoint) : Prop :=
  ∃ samples positions, batchToAcquiredSamples channelId batch = .ok samples ∧
    indexPositions [] samples = .ok positions

variable {samples : List AcquiredPointSample} {channelId : UInt32} {batch : List StampedPoint}

theorem indexPositions_isOk {positions : List ChannelPointAddress} (distinct : positions.Nodup) :
    (∃ result, indexPositions positions samples = .ok result) ↔
      (positions ++ samples.map AcquiredPointSample.address).Nodup := by
  induction samples generalizing positions with
  | nil => simpa [indexPositions] using distinct
  | cons sample samples ih =>
    rw [indexPositions, List.map_cons,
      List.append_cons positions sample.address (samples.map AcquiredPointSample.address)]
    by_cases present : sample.address ∈ positions
    · rw [if_pos present]
      refine iff_of_false (by simp) fun nodup => ?_
      have apart := (List.nodup_append.mp (List.nodup_append.mp nodup).1).2.2
      exact apart _ present _ (List.mem_singleton_self _) rfl
    · rw [if_neg present]
      refine ih (List.nodup_append.mpr ⟨distinct, List.nodup_singleton _, ?_⟩)
      rintro _ member _ single rfl
      exact present (List.mem_singleton.mp single ▸ member)

theorem nodup_addresses (sampled : List.Forall₂ (StampedPoint.Sampled channelId) batch samples) :
    (samples.map AcquiredPointSample.address).Nodup ↔ (batch.map key).Nodup := by
  have keys : (samples.map AcquiredPointSample.address).map ChannelPointAddress.key =
      batch.map key := by
    induction sampled with
    | nil => rfl
    | cons first _ ih => simp [first.key, ih]
  have channels : ∀ address ∈ samples.map AcquiredPointSample.address,
      address.channelId = channelId := by
    induction sampled with
    | nil => simp
    | cons first _ ih =>
      simp only [List.map_cons, List.cons.injEq] at keys
      simpa [first.channel] using ih keys.2
  rw [← keys]
  constructor
  · refine fun distinct => distinct.map_on fun left leftMember right rightMember same => ?_
    exact ChannelPointAddress.ext_key
      ((channels left leftMember).trans (channels right rightMember).symm) same
  · exact List.Nodup.of_map _

theorem convertible_of_mem (sampled : List.Forall₂ (StampedPoint.Sampled channelId) batch samples)
    {point : StampedPoint} (member : point ∈ batch) : point.Convertible := by
  induction sampled with
  | nil => cases member
  | cons first _ ih =>
    rcases List.mem_cons.mp member with rfl | later
    · exact first.convertible
    · exact ih later

theorem accepted_iff : Accepted channelId batch ↔
      (∀ point ∈ batch, point.Convertible) ∧ (batch.map key).Nodup := by
  constructor
  · rintro ⟨samples, positions, converted, indexed⟩
    have sampled : List.Forall₂ (StampedPoint.Sampled channelId) batch samples :=
      (Attempt.forall₂_of_mapM converted).imp fun _ _ => sampled_of_acquiredSample
    refine ⟨fun point member => ?_, (nodup_addresses sampled).mp ?_⟩
    · exact convertible_of_mem sampled member
    · simpa using (indexPositions_isOk List.nodup_nil).mp ⟨positions, indexed⟩
  · rintro ⟨convertible, distinct⟩
    obtain ⟨samples, converted⟩ : ∃ samples, batchToAcquiredSamples channelId batch = .ok samples :=
      Attempt.exists_mapM_eq_ok fun point member =>
        (convertible point member).exists_acquiredSample channelId
    have sampled : List.Forall₂ (StampedPoint.Sampled channelId) batch samples :=
      (Attempt.forall₂_of_mapM converted).imp fun _ _ => sampled_of_acquiredSample
    obtain ⟨positions, indexed⟩ := (indexPositions_isOk List.nodup_nil).mpr
      (by simpa using (nodup_addresses sampled).mpr distinct)
    exact ⟨samples, positions, converted, indexed⟩

/-- A value that is a number. -/
def Value.Numeric : Value → Prop
  | .float value => value.isFinite = true
  | .integer _ | .bool _ => True
  | .text _ | .bytes _ | .null => False

/-- Only telemetry and signals, no address twice, and numbers only. -/
structure Storable (batch : List StampedPoint) : Prop where
  acquired : ∀ point ∈ batch, point.pointType = .telemetry ∨ point.pointType = .signal
  distinct : (batch.map key).Nodup
  numeric : ∀ point ∈ batch, point.value.Numeric

namespace Storable

variable {other : List StampedPoint}

theorem nil : Storable [] := ⟨by simp, by simp, by simp⟩

theorem perm (storable : Storable batch) (same : other.Perm batch) : Storable other :=
  ⟨fun point member => storable.acquired point (same.mem_iff.mp member),
    (same.map key).nodup_iff.mpr storable.distinct,
    fun point member => storable.numeric point (same.mem_iff.mp member)⟩

/-- The store takes a storable batch, where whole numbers and Booleans read as finite numbers. -/
theorem accepted (storable : Storable batch) {channelId : UInt32}
    (finite : ∀ point ∈ batch, ∀ value, point.value.asF64 = some value → value.isFinite = true)
    (afterEpoch : ∀ point ∈ batch, 0 ≤ point.storedTime) : Accepted channelId batch := by
  refine accepted_iff.mpr ⟨fun point member => ?_, storable.distinct⟩
  obtain ⟨value, numeric⟩ : ∃ value, point.value.asF64 = some value := by
    have number := storable.numeric point member
    cases kind : point.value <;> rw [kind] at number
    case float value => exact ⟨_, rfl⟩
    case integer value => exact ⟨_, rfl⟩
    case bool value => exact ⟨_, rfl⟩
    case text | bytes | null => cases number
  exact ⟨storable.acquired point member, ⟨value, numeric, finite point member value numeric⟩,
    afterEpoch point member⟩

end Storable

end AetherIot.Io
