import AetherIot.Foundation.KeyedList
import AetherIot.Io.ShmStore

/-!
# Points with an address

The configured points of a protocol, over an arbitrary type of addresses.  Numbers are unique within
the type of a point only, so an update belongs to the telemetry or signal point at its address, and a
command to the point with its number among those of its own type.
-/

namespace AetherIot.Io

/-- The point is read from the device. -/
def PointType.isAcquired : PointType → Bool
  | .telemetry | .signal => true
  | .control | .adjustment => false

def boolNumber (value : Bool) : Float := if value then 1.0 else 0.0

/-- A value as it is stored: integers and Booleans are numbers. -/
def Value.stored : Value → Value
  | .integer value => .float (Float.ofInt value)
  | .bool value => .float (boolNumber value)
  | value => value

def DataPoint.stored (point : DataPoint) : DataPoint := { point with value := point.value.stored }

namespace TransformConfig

def reverseApply (transform : TransformConfig) (value : Float) : Except String Float :=
  if transform.scale == 0.0 then .error "Cannot reverse transform: scale is zero"
  else .ok ((value - transform.offset) / transform.scale)

def Reversible (transform : TransformConfig) : Prop := (transform.scale == 0.0) = false

theorem forall_map_reverseApply {Request : Type} {transform : TransformConfig} {value : Float}
    {build : Float → Request} {holds : Request → Prop} :
    (∀ request, (transform.reverseApply value).map build = .ok request → holds request) ↔
      (transform.Reversible → holds (build ((value - transform.offset) / transform.scale))) := by
  rw [reverseApply, Reversible]
  cases transform.scale == 0.0 <;> simp [Except.map]

end TransformConfig

/-- A configured point of a protocol. -/
structure AddressedPoint (Address : Type) where
  id : UInt32
  pointType : PointType
  address : Address
  transform : TransformConfig

namespace AddressedPoint

variable {Address Location : Type}

/-- The type and the number of a point. -/
def key (point : AddressedPoint Address) : PointType × UInt32 := (point.pointType, point.id)

/-- The point with a raw value under its own transform. -/
def read (point : AddressedPoint Address) (raw : Value) : DataPoint :=
  ⟨point.id, point.pointType, (applyTransform raw point.transform).stored⟩

section

variable [DecidableEq Location] (locate : Address → Option Location)

/-- The point is read from the device at this location. -/
def readsFrom (source : Location) (point : AddressedPoint Address) : Bool :=
  point.pointType.isAcquired && locate point.address = some source

variable (points : List (AddressedPoint Address))

/-- What an update from a location has to be published as. -/
def publication (source : Location) (raw : Value) : Option DataPoint :=
  (points.find? (readsFrom locate source)).map (read · raw)

/-- A command for the point of this type and number may act on this location. -/
def ActsOn (pointType : PointType) (id : UInt32) (target : Location) : Prop :=
  ∃ point ∈ points, point.pointType = pointType ∧ point.id = id ∧ locate point.address = some target

/-- Numbers are unique within a type, every address has a location, and the locations that are read
are different. -/
structure WellFormed : Prop where
  numbered : (points.map key).Nodup
  located : ∀ point ∈ points, (locate point.address).isSome = true
  apart : ((points.filter (·.pointType.isAcquired)).map fun point => locate point.address).Nodup

end

/-- The point whose number a table of all points gives last. -/
def last (points : List (AddressedPoint Address)) (id : UInt32) : Option (AddressedPoint Address) :=
  KeyedList.findLast? (fun point => point.id = id) points

variable [DecidableEq Location] {locate : Address → Option Location}
  {points : List (AddressedPoint Address)} {point other : AddressedPoint Address}
  {source : Location} {raw : Value}

theorem last_eq_some {id : UInt32} (found : last points id = some point) :
    point ∈ points ∧ point.id = id := by
  obtain ⟨member, named⟩ := KeyedList.mem_of_findLast? found
  exact ⟨member, of_decide_eq_true named⟩

namespace WellFormed

variable (wellFormed : WellFormed locate points) (member : point ∈ points)

include wellFormed member

omit [DecidableEq Location] in
theorem eq_of_key
    (otherMember : other ∈ points) (types : point.pointType = other.pointType)
    (ids : point.id = other.id) : point = other :=
  List.inj_on_of_nodup_map wellFormed.numbered member otherMember (Prod.ext types ids)

theorem eq_of_location (otherMember : other ∈ points) (reads : readsFrom locate source point = true)
    (otherReads : readsFrom locate source other = true) : point = other := by
  simp only [readsFrom, Bool.and_eq_true, decide_eq_true_eq] at reads otherReads
  refine List.inj_on_of_nodup_map wellFormed.apart ?_ ?_ (reads.2.trans otherReads.2.symm)
  · exact List.mem_filter.mpr ⟨member, reads.1⟩
  · exact List.mem_filter.mpr ⟨otherMember, otherReads.1⟩

theorem publication_eq_some (reads : readsFrom locate source point = true) :
    publication locate points source raw = some (point.read raw) := by
  rw [publication]
  cases found : points.find? (readsFrom locate source) with
  | none => exact absurd reads (by simpa using List.find?_eq_none.mp found point member)
  | some =>
    have same := wellFormed.eq_of_location (List.mem_of_find?_eq_some found) member
      (List.find?_some found) reads
    rw [Option.map_some, same]

end WellFormed

theorem publication_eq_none : publication locate points source raw = none ↔
      ∀ point ∈ points, readsFrom locate source point = false := by
  simp [publication]

theorem exists_of_publication {published : DataPoint}
    (found : publication locate points source raw = some published) :
    ∃ point ∈ points, readsFrom locate source point = true ∧ point.read raw = published := by
  obtain ⟨point, searched, rfl⟩ := Option.map_eq_some_iff.mp found
  exact ⟨point, List.mem_of_find?_eq_some searched, List.find?_some searched, rfl⟩

end AddressedPoint

structure WriteResult where
  successCount : Nat
  failures : List (UInt32 × String)

/-- The requests that were made, each for the command with a number, and the result. -/
structure Writes (Request : Type) where
  sent : List (UInt32 × Request)
  result : WriteResult

namespace Writes

variable {Command Request : Type}

def empty : Writes Request := ⟨[], 0, []⟩

def fail (writes : Writes Request) (id : UInt32) (error : String) : Writes Request :=
  { writes with result.failures := writes.result.failures ++ [(id, error)] }

def send (writes : Writes Request) (id : UInt32) (request : Request) (answer : Except String Unit) :
    Writes Request :=
  let made := { writes with sent := writes.sent ++ [(id, request)] }
  match answer with
  | .ok () => { made with result.successCount := made.result.successCount + 1 }
  | .error error => made.fail id error

section

variable (number : Command → UInt32) (prepare : Command → Except String Request)
  (answer : Request → Except String Unit) (writes : Writes Request)

/-- Write one command: `prepare` finds its request, and `answer` is what the client says to it. -/
def write (command : Command) : Writes Request :=
  match prepare command with
  | .ok request => writes.send (number command) request (answer request)
  | .error error => writes.fail (number command) error

def each (commands : List Command) : Writes Request :=
  commands.foldl (write number prepare answer) empty

@[simp] theorem sent_fail (id : UInt32) (error : String) :
    (writes.fail id error).sent = writes.sent := rfl

end

@[simp] theorem sent_send (writes : Writes Request) (id : UInt32) (request : Request)
    (answer : Except String Unit) :
    (writes.send id request answer).sent = writes.sent ++ [(id, request)] := by
  cases answer <;> rfl

variable {number : Command → UInt32} {prepare : Command → Except String Request}
  {answer : Request → Except String Unit} {commands : List Command}

theorem mem_sent_each {entry : UInt32 × Request} :
    entry ∈ (each number prepare answer commands).sent ↔
      ∃ command ∈ commands, number command = entry.1 ∧ prepare command = .ok entry.2 := by
  have grows : ∀ writes : Writes Request,
      entry ∈ (commands.foldl (write number prepare answer) writes).sent ↔ entry ∈ writes.sent ∨
        ∃ command ∈ commands, number command = entry.1 ∧ prepare command = .ok entry.2 := by
    induction commands with
    | nil => simp
    | cons command _ ih =>
      intro _
      rw [List.foldl_cons, ih, List.exists_mem_cons_iff, ← or_assoc]
      refine or_congr_left ?_
      rw [write]
      cases prepared : prepare command with
      | error => simp
      | ok => simp [Prod.ext_iff, eq_comm]
  simpa [each, empty] using grows empty

theorem forall_sent_each {holds : UInt32 × Request → Prop} :
    (∀ entry ∈ (each number prepare answer commands).sent, holds entry) ↔
      ∀ command ∈ commands, ∀ request, prepare command = .ok request →
        holds (number command, request) := by
  constructor
  · intro all command member request prepared
    exact all (number command, request) (mem_sent_each.mpr ⟨command, member, rfl, prepared⟩)
  · rintro all ⟨_, request⟩ sent
    obtain ⟨command, member, rfl, prepared⟩ := mem_sent_each.mp sent
    exact all command member request prepared

/-- The requests of commands that are built from the point with their number. -/
theorem forall_sent_last {Address : Type} {points : List (AddressedPoint Address)}
    {build : AddressedPoint Address → Command → Except String Request} {missing : String}
    {holds : UInt32 × Request → Prop} (prepares : ∀ command, prepare command =
      (AddressedPoint.last points (number command)).elim (.error missing) (build · command)) :
    (∀ entry ∈ (each number prepare answer commands).sent, holds entry) ↔
      ∀ command ∈ commands, ∀ point, AddressedPoint.last points (number command) = some point →
        ∀ request, build point command = .ok request → holds (number command, request) := by
  rw [forall_sent_each]
  refine forall₂_congr fun command _ => ?_
  rw [prepares]
  cases AddressedPoint.last points (number command) <;> simp

end Writes

end AetherIot.Io
