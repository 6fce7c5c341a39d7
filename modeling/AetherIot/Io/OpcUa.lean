import AetherIot.Io.AddressedPoint

/-!
# OPC UA points

The text of a node id is read twice: once for the subscription, and once for the tables in which the
point of an update is looked up.
-/

namespace AetherIot.Io.OpcUa

open AddressedPoint KeyedList

inductive Identifier where
  | numeric (value : UInt32)
  | string (value : String)
  | guid (text : String)
  | byteString (bytes : List UInt8)
  deriving DecidableEq

structure NodeId where
  namespaceIndex : UInt16
  identifier : Identifier
  deriving DecidableEq

/-- The identifier is a number or a string. -/
def NodeId.isPlain (node : NodeId) : Bool :=
  match node.identifier with
  | .numeric _ | .string _ => true
  | .guid _ | .byteString _ => false

structure Address where
  nodeId : String
  namespaceIndex : UInt16
  deriving DecidableEq

/-- A 32-bit number in decimal digits, possibly after a plus sign. -/
def parseU32 (text : List Char) : Option UInt32 :=
  let digits := if text.head? = some '+' then text.tail else text
  if digits ≠ [] ∧ digits.all Char.isDigit = true then
    let number := digits.foldl (fun number digit => number * 10 + (digit.toNat - '0'.toNat)) 0
    if number < UInt32.size then some (UInt32.ofNat number) else none
  else none

/-- What follows the mark of the form of a text. -/
inductive Form where
  | numeric (digits : List Char)
  | string (name : String)
  | guid (text : String)
  | byteString (text : String)
  | unmarked

variable (address : Address)

def Address.form : Form :=
  match address.nodeId.toList with
  | 'i' :: '=' :: digits => .numeric digits
  | 's' :: '=' :: name => .string (String.ofList name)
  | 'g' :: '=' :: text => .guid (String.ofList text)
  | 'b' :: '=' :: text => .byteString (String.ofList text)
  | _ => .unmarked

/-- The identifier that a subscription or a write uses. -/
def parseIdentifier : Identifier :=
  match address.form with
  | .numeric digits => ((parseU32 digits).map .numeric).getD (.string address.nodeId)
  | .string name => .string name
  | .guid _ | .byteString _ | .unmarked => .string address.nodeId

def parseNodeId : NodeId :=
  ⟨address.namespaceIndex, parseIdentifier address⟩

/-- The notation of identifiers that are not plain. -/
structure IdentifierNotation where
  guid : String → Option String
  byteString : String → Option (List UInt8)

/-- The identifier that a text in one of the four forms denotes. -/
def denotedIdentifier (forms : IdentifierNotation) (address : Address) : Option Identifier :=
  match address.form with
  | .numeric digits => (parseU32 digits).map .numeric
  | .string name => some (.string name)
  | .guid text => (forms.guid text).map .guid
  | .byteString text => (forms.byteString text).map .byteString
  | .unmarked => none

def denotedNode (forms : IdentifierNotation) (address : Address) : Option NodeId :=
  (denotedIdentifier forms address).map (NodeId.mk address.namespaceIndex)

/-- A key of the tables from node ids to numbers. -/
inductive IndexKey where
  | numeric (namespaceIndex : UInt16) (value : UInt32)
  | string (namespaceIndex : UInt16) (value : String)
  | other (key : String)
  deriving DecidableEq

def makeNodeIdKey (namespaceIndex : UInt16) (identifier : String) : String :=
  s!"ns={namespaceIndex};" ++ identifier

/-- The key under which a point is entered. -/
def indexKey : Option IndexKey :=
  match address.form with
  | .numeric digits => (parseU32 digits).map (.numeric address.namespaceIndex)
  | .string name => some (.string address.namespaceIndex name)
  | .guid _ | .byteString _ | .unmarked =>
    some (.other (makeNodeIdKey address.namespaceIndex address.nodeId))

def debugBytes (bytes : List UInt8) : String :=
  "[" ++ String.intercalate ", " (bytes.map toString) ++ "]"

/-- The key under which a node is looked up. -/
def NodeId.lookupKey (node : NodeId) : IndexKey :=
  match node.identifier with
  | .numeric value => .numeric node.namespaceIndex value
  | .string value => .string node.namespaceIndex value
  | .guid text => .other (makeNodeIdKey node.namespaceIndex ("g=" ++ text))
  | .byteString bytes => .other (makeNodeIdKey node.namespaceIndex ("b=" ++ debugBytes bytes))

theorem isPlain_parseNodeId (address : Address) : (parseNodeId address).isPlain = true := by
  rw [parseNodeId, NodeId.isPlain, parseIdentifier]
  cases address.form with
  | numeric digits => cases parsed : parseU32 digits <;> simp [parsed]
  | string | guid | byteString | unmarked => rfl

variable {forms : IdentifierNotation} {address : Address} {node : NodeId}

/-- Plain nodes are looked up where the points that denote them are entered. -/
theorem indexKey_eq_lookupKey (plain : node.isPlain = true) :
    indexKey address = some node.lookupKey ↔ denotedNode forms address = some node := by
  obtain ⟨_, identifier⟩ := node
  rw [indexKey, denotedNode, denotedIdentifier]
  cases identifier with
  | guid | byteString => cases plain
  | numeric =>
    cases address.form <;> simp [NodeId.lookupKey, and_comm]
  | string =>
    cases address.form <;> simp [NodeId.lookupKey]

theorem parseNodeId_eq_of_denotedNode (plain : node.isPlain = true)
    (denoted : denotedNode forms address = some node) : parseNodeId address = node := by
  rw [denotedNode, denotedIdentifier] at denoted
  rw [parseNodeId, parseIdentifier]
  cases form : address.form with
  | numeric =>
    simp only [form, Option.map_map, Option.map_eq_some_iff] at denoted
    obtain ⟨_, parsed, rfl⟩ := denoted
    simp [parsed]
  | string => simpa [form] using denoted
  | guid | byteString =>
    simp only [form, Option.map_map, Option.map_eq_some_iff] at denoted
    obtain ⟨_, -, rfl⟩ := denoted
    cases plain
  | unmarked => simp [form] at denoted

inductive Variant where
  | boolean (value : Bool)
  | sbyte (value : Int8)
  | byte (value : UInt8)
  | int16 (value : Int16)
  | uint16 (value : UInt16)
  | int32 (value : Int32)
  | uint32 (value : UInt32)
  | int64 (value : Int64)
  | uint64 (value : UInt64)
  | float (value : Float32)
  | double (value : Float)
  | string (value : String)
  | other

def convertVariantToValue : Variant → Value
  | .boolean value => .bool value
  | .sbyte value => .integer value.toInt
  | .byte value => .integer value.toNat
  | .int16 value => .integer value.toInt
  | .uint16 value => .integer value.toNat
  | .int32 value => .integer value.toInt
  | .uint32 value => .integer value.toNat
  | .int64 value => .integer value.toInt
  | .uint64 value => .integer value.toInt64.toInt
  | .float value => .float value.toFloat
  | .double value => .float value
  | .string value => .text value
  | .other => .null

inductive StatusCode where
  | good
  | uncertain
  | bad
  deriving DecidableEq

def convertStatusCodeToQuality : StatusCode → Quality
  | .good => .good
  | .bad => .bad
  | .uncertain => .uncertain

structure DataValue where
  value : Option Variant
  status : Option StatusCode
  sourceTimestamp : Option Int

abbrev Point := AddressedPoint Address

structure Config where
  points : List Point

def asBool : Value → Option Bool
  | .bool value => some value
  | .integer value => some (value != 0)
  | .float value => some (value != 0.0)
  | _ => none

/-- The value of an update under a transform: whatever reads as a number is scaled. -/
def scaledValue (transform : TransformConfig) (value : Value) : Value :=
  match value.asF64 with
  | some number => .float (transform.apply number)
  | none =>
    match asBool value with
    | some flag => .bool (transform.applyBool flag)
    | none => value

/-- Scaling a Boolean agrees with reversing it. -/
def ScalesBooleans (transform : TransformConfig) (value : Value) : Prop :=
  ∀ flag, value = .bool flag →
    transform.apply (boolNumber flag) = boolNumber (transform.applyBool flag)

theorem stored_scaledValue_iff {transform : TransformConfig} {value : Value} :
    (applyTransform value transform).stored = (scaledValue transform value).stored ↔
      ScalesBooleans transform value := by
  cases value with
  | bool =>
    simp only [applyTransform, scaledValue, Value.asF64, Value.stored, ScalesBooleans,
      Value.bool.injEq, forall_eq', Value.float.injEq]
    exact eq_comm
  | float | integer | text | bytes | null =>
    refine iff_of_true rfl fun flag same => ?_
    cases same

namespace Config

variable (config : Config)

def findPointConfig (id : UInt32) : Option Point :=
  last config.points id

/-- The number that the tables give for a node: later points replace earlier ones. -/
def findPointIdByNodeId (node : NodeId) : Option UInt32 :=
  (findLast? (fun point => indexKey point.address = some node.lookupKey) config.points).map (·.id)

def convertDataValueWithId (now : Int) (id : UInt32) (point : Option Point) (value : DataValue) :
    Option StampedPoint :=
  value.value.map fun variant =>
    let converted := convertVariantToValue variant
    { id
      pointType := (point.map (·.pointType)).getD .telemetry
      value := (point.map fun point => scaledValue point.transform converted).getD converted
      quality := (value.status.map convertStatusCodeToQuality).getD .good
      timestamp := now
      sourceTimestamp := value.sourceTimestamp }

def handleDataChange (now : Int) (items : List (NodeId × DataValue)) : List StampedPoint :=
  items.filterMap fun (node, value) => do
    let id ← config.findPointIdByNodeId node
    convertDataValueWithId now id (config.findPointConfig id) value

/-- The nodes of the monitored items. -/
def monitored : List NodeId :=
  config.points.map fun point => parseNodeId point.address

/-- The points that an update of a node is published as: the server reports monitored nodes. -/
def published (now : Int) (node : NodeId) (value : DataValue) : List StampedPoint :=
  if node ∈ config.monitored then config.handleDataChange now [(node, value)] else []

structure Request where
  node : NodeId
  variant : Variant

def controlRequest (command : UInt32 × Bool) : Except String Request :=
  match config.findPointConfig command.1 with
  | none => .error "Point not found"
  | some point =>
    .ok ⟨parseNodeId point.address, .boolean (point.transform.applyBool command.2)⟩

def adjustmentRequest (command : UInt32 × Float) : Except String Request :=
  match config.findPointConfig command.1 with
  | none => .error "Point not found"
  | some point =>
    (point.transform.reverseApply command.2).map fun raw =>
      ⟨parseNodeId point.address, .double raw⟩

def writeControl (answer : Request → Except String Unit) (commands : List (UInt32 × Bool)) :
    Writes Request :=
  Writes.each Prod.fst config.controlRequest answer commands

def writeAdjustment (answer : Request → Except String Unit) (adjustments : List (UInt32 × Float)) :
    Writes Request :=
  Writes.each Prod.fst config.adjustmentRequest answer adjustments

/-- The last point at a plain node is read from there and is the last one with its number; no point
is read from another node. -/
structure Resolves (forms : IdentifierNotation) (node : NodeId) (raw : Value) :
    Prop where
  plain : node.isPlain = true → ∀ point,
    findLast? (fun point => denotedNode forms point.address = some node) config.points =
      some point →
    point.pointType.isAcquired = true ∧ last config.points point.id = some point ∧
      ScalesBooleans point.transform raw
  marked : node.isPlain = false → ∀ point ∈ config.points,
    readsFrom (denotedNode forms) node point = false

variable {config : Config} {now : Int} {variant : Variant} {status : Option StatusCode}
  {sourceTimestamp : Option Int}

theorem published_of_marked (marked : node.isPlain = false) (value : DataValue) :
    config.published now node value = [] := by
  rw [published, if_neg]
  intro monitored
  obtain ⟨_, -, rfl⟩ := List.mem_map.mp monitored
  rw [isPlain_parseNodeId] at marked
  cases marked

theorem findPointIdByNodeId_of_plain (forms : IdentifierNotation) (plain : node.isPlain = true) :
    config.findPointIdByNodeId node =
      (findLast? (fun point => denotedNode forms point.address = some node)
        config.points).map (·.id) := by
  rw [findPointIdByNodeId]
  refine congrArg _ (findLast?_congr fun point _ => ?_)
  exact decide_eq_decide.mpr (indexKey_eq_lookupKey plain)

theorem published_of_absent (plain : node.isPlain = true)
    (absent : findLast? (fun point => denotedNode forms point.address = some node)
      config.points = none) (value : DataValue) :
    config.published now node value = [] := by
  rw [published]
  split
  · simp [handleDataChange, findPointIdByNodeId_of_plain forms plain, absent]
  · rfl

variable {point last : Point} {request : Request} {answer : Request → Except String Unit}

theorem published_of_found (plain : node.isPlain = true)
    (found : findLast? (fun point => denotedNode forms point.address = some node)
      config.points = some point)
    (numbered : AddressedPoint.last config.points point.id = some last) :
    (config.published now node ⟨some variant, status, sourceTimestamp⟩).map (·.stored) =
      [⟨point.id, last.pointType,
        (scaledValue last.transform (convertVariantToValue variant)).stored⟩] := by
  obtain ⟨member, denoted⟩ := mem_of_findLast? found
  have isMonitored : node ∈ config.monitored := List.mem_map.mpr ⟨point, member,
    parseNodeId_eq_of_denotedNode plain (of_decide_eq_true denoted)⟩
  rw [published, if_pos isMonitored]
  simp [handleDataChange, findPointIdByNodeId_of_plain forms plain, found, findPointConfig, numbered,
    convertDataValueWithId, DataPoint.stored]

theorem resolves_iff_of_found
    (wellFormed : AddressedPoint.WellFormed (denotedNode forms) config.points)
    (plain : node.isPlain = true) {raw : Value}
    (found : findLast? (fun point => denotedNode forms point.address = some node)
      config.points = some point)
    (numbered : AddressedPoint.last config.points point.id = some last) :
    publication (denotedNode forms) config.points node raw =
        some ⟨point.id, last.pointType, (scaledValue last.transform raw).stored⟩ ↔
      config.Resolves forms node raw := by
  constructor
  · intro published
    obtain ⟨_, member, reads, same⟩ := exists_of_publication published
    obtain ⟨lastMember, lastNumber⟩ := last_eq_some numbered
    rw [AddressedPoint.read, DataPoint.mk.injEq] at same
    obtain rfl := wellFormed.eq_of_key member lastMember same.2.1 (same.1.trans lastNumber.symm)
    simp only [readsFrom, Bool.and_eq_true] at reads
    obtain rfl := findLast?_unique found numbered (by simp) reads.2
    refine ⟨fun _ other otherFound => ?_, by simp [plain]⟩
    rw [found, Option.some.injEq] at otherFound
    subst otherFound
    exact ⟨reads.1, numbered, stored_scaledValue_iff.mp same.2.2⟩
  · intro resolves
    obtain ⟨acquired, isLast, scales⟩ := resolves.plain plain point found
    obtain ⟨member, denoted⟩ := mem_of_findLast? found
    rw [numbered, Option.some.injEq] at isLast
    subst isLast
    rw [wellFormed.publication_eq_some member, AddressedPoint.read,
      stored_scaledValue_iff.mpr scales]
    simpa [readsFrom, acquired] using denoted

theorem published_iff (wellFormed : AddressedPoint.WellFormed (denotedNode forms) config.points) :
    (config.published now node ⟨some variant, status, sourceTimestamp⟩).map (·.stored) =
        (AddressedPoint.publication (denotedNode forms) config.points node
          (convertVariantToValue variant)).toList ↔
      config.Resolves forms node (convertVariantToValue variant) := by
  cases plain : node.isPlain with
  | false =>
    rw [published_of_marked plain, List.map_nil, eq_comm, Option.toList_eq_nil_iff,
      AddressedPoint.publication_eq_none]
    exact ⟨fun none => ⟨by simp [plain], fun _ => none⟩, fun resolves => resolves.marked plain⟩
  | true =>
    cases found : findLast? (fun point => denotedNode forms point.address = some node)
      config.points with
    | none =>
      rw [published_of_absent plain found, List.map_nil, eq_comm, Option.toList_eq_nil_iff,
        AddressedPoint.publication_eq_none]
      refine iff_of_true (fun point member => ?_) ⟨fun _ point same => ?_, by simp [plain]⟩
      · have apart := findLast?_eq_none.mp found point member
        simp only [decide_eq_false_iff_not] at apart
        simp [AddressedPoint.readsFrom, apart]
      · rw [found] at same
        cases same
    | some point =>
      have member := (mem_of_findLast? found).1
      obtain ⟨_, numbered⟩ := @exists_findLast? _
        (fun other : Point => other.id = point.id) _ _ member (by simp)
      rw [published_of_found plain found numbered,
        ← resolves_iff_of_found wellFormed plain found numbered, eq_comm,
        Option.toList_eq_singleton_iff]

/-- The last point with the number of a control command is read as the node of the control point. -/
def ControlMatches (config : Config) (forms : IdentifierNotation) (id : UInt32) : Prop :=
  ∀ point, AddressedPoint.last config.points id = some point →
    AddressedPoint.ActsOn (denotedNode forms) config.points .control id (parseNodeId point.address)

/-- The last point with the number of an adjustment is read as the node of the adjustment
point, or its transform cannot be reversed. -/
def AdjustmentMatches (config : Config) (forms : IdentifierNotation) (id : UInt32) : Prop :=
  ∀ point, AddressedPoint.last config.points id = some point → point.transform.Reversible →
    AddressedPoint.ActsOn (denotedNode forms) config.points .adjustment id (parseNodeId point.address)

/-- The requests for commands of a type act on the points of that type. -/
def Directs (config : Config) (forms : IdentifierNotation) (pointType : PointType)
    (writes : Writes Request) : Prop :=
  ∀ entry ∈ writes.sent,
    AddressedPoint.ActsOn (denotedNode forms) config.points pointType entry.1 entry.2.node

theorem directs_writeControl_iff {commands : List (UInt32 × Bool)} :
    config.Directs forms .control (config.writeControl answer commands) ↔
      ∀ command ∈ commands, config.ControlMatches forms command.1 := by
  rw [Directs, writeControl, Writes.forall_sent_last fun command => by
    rw [controlRequest, findPointConfig]
    cases AddressedPoint.last config.points command.1 <;> rfl]
  simp only [Except.ok.injEq, forall_eq']
  exact Iff.rfl

theorem directs_writeAdjustment_iff {adjustments : List (UInt32 × Float)} :
    config.Directs forms .adjustment (config.writeAdjustment answer adjustments) ↔
      ∀ command ∈ adjustments, config.AdjustmentMatches forms command.1 := by
  rw [Directs, writeAdjustment, Writes.forall_sent_last fun command => by
    rw [adjustmentRequest, findPointConfig]
    cases AddressedPoint.last config.points command.1 <;> rfl]
  exact forall₂_congr fun command _ => forall₂_congr fun point _ =>
    TransformConfig.forall_map_reverseApply

end Config

end AetherIot.Io.OpcUa
