import AetherIot.Io.Point

/-!
# Modbus polling

A poll groups the configured points by slave and function code, reads coils one by one and registers
in segments of neighbouring addresses, and collects what was read.  Addresses are 16-bit words whose
sums wrap.
-/

namespace AetherIot.Io

structure GroupKey where
  slaveId : UInt8
  functionCode : UInt8
  deriving DecidableEq

namespace PointConfig

def groupKey (point : PointConfig) : Option GroupKey :=
  match point.address with
  | .modbus address => some ⟨address.slaveId, address.functionCode⟩
  | .other _ => none

/-- The key by which a group is sorted. -/
def sortKey (point : PointConfig) : UInt16 :=
  match point.address with
  | .modbus address => address.register
  | .other _ => 0xFFFF

end PointConfig

/-- The configured points of a group, by register. -/
def groupPoints (points : List PointConfig) (key : GroupKey) : List PointConfig :=
  (points.filter fun point => point.groupKey = some key).insertionSort fun left right =>
    left.sortKey ≤ right.sortKey

/-- The groups of a channel.  Their order is that of a hash map and has no meaning. -/
def groupedPoints (points : List PointConfig) : List (GroupKey × List PointConfig) :=
  (points.filterMap PointConfig.groupKey).dedup.map fun key => (key, groupPoints points key)

/-- What the device answers to the requests of one poll, by the group and by the number of the request
within the group.  A reply may be shorter than what was asked for. -/
structure ModbusClient where
  readCoil : GroupKey → Nat → Except String (List Bool)
  readRegisters : GroupKey → Nat → Except String (List UInt16)

def DataPoint.ofValue (point : PointConfig) (value : Value) : DataPoint :=
  ⟨point.id, point.pointType, applyTransform value point.transform⟩

/-- Read coils or discrete inputs one by one.  An empty reply counts as an open coil. -/
def readCoilsIndividually (client : ModbusClient) (key : GroupKey) (points : List PointConfig) :
    List DataPoint :=
  points.zipIdx.filterMap fun (point, index) =>
    match client.readCoil key index with
    | .ok coils => some (.ofValue point (.bool (coils.head?.getD false)))
    | .error _ => none

/-- A point with its first register and the number of its registers. -/
structure RegisterPoint where
  register : UInt16
  count : UInt16
  point : PointConfig

def RegisterPoint.ofPoint (point : PointConfig) : Option RegisterPoint :=
  match point.address with
  | .modbus address => some ⟨address.register, address.format.registerCount, point⟩
  | .other _ => none

structure RegisterSegment where
  startAddress : UInt16
  endAddress : UInt16
  points : List RegisterPoint

def RegisterSegment.begin (entry : RegisterPoint) : RegisterSegment :=
  ⟨entry.register, entry.register + entry.count, [entry]⟩

/-- Saturating subtraction. -/
def saturatingSub (left right : UInt16) : UInt16 := if left ≤ right then 0 else left - right

/-- Put the next point into the current segment, or close that and begin another.  The end of a
segment is always that of its last point. -/
def extendSegments (maxGap maxBatchSize : UInt16)
    (state : List RegisterSegment × Option RegisterSegment) (entry : RegisterPoint) :
    List RegisterSegment × Option RegisterSegment :=
  match state.2 with
  | none => (state.1, some (.begin entry))
  | some segment =>
    let gap := saturatingSub entry.register segment.endAddress
    let newTotal := saturatingSub (entry.register + entry.count) segment.startAddress
    if gap ≤ maxGap ∧ newTotal ≤ maxBatchSize then
      (state.1, some { segment with
        endAddress := entry.register + entry.count
        points := segment.points ++ [entry] })
    else (state.1 ++ [segment], some (.begin entry))

def buildRegisterSegments (sortedPoints : List RegisterPoint) (maxGap maxBatchSize : UInt16) :
    List RegisterSegment :=
  let state := sortedPoints.foldl (extendSegments maxGap maxBatchSize) ([], none)
  state.1 ++ state.2.toList

/-- The value of a point in the registers of its segment, if they reach so far and it decodes. -/
def decodePoint (segment : RegisterSegment) (registers : List UInt16) (entry : RegisterPoint) :
    Option DataPoint :=
  let offset := (entry.register - segment.startAddress).toNat
  if offset + entry.count.toNat ≤ registers.length then
    match entry.point.address with
    | .modbus address =>
      match decodeRegisters ((registers.drop offset).take entry.count.toNat) address.format
        address.byteOrder address.bitPosition with
      | .ok value => some (.ofValue entry.point value)
      | .error _ => none
    | .other _ => none
  else none

section

variable (client : ModbusClient) (key : GroupKey) (points : List PointConfig)
  (maxBatchSize maxGap : UInt16)

/-- Read the segments of a group.  A failed request loses its segment. -/
def readRegistersBatched : List DataPoint :=
  let segments := buildRegisterSegments (points.filterMap RegisterPoint.ofPoint) maxGap maxBatchSize
  segments.zipIdx.flatMap fun (segment, index) =>
    if key.functionCode = 3 ∨ key.functionCode = 4 then
      match client.readRegisters key index with
      | .ok registers => segment.points.filterMap (decodePoint segment registers)
      | .error _ => []
    else []

def readPointGroup : List DataPoint :=
  if key.functionCode = 1 ∨ key.functionCode = 2 then readCoilsIndividually client key points
  else readRegistersBatched client key points maxBatchSize maxGap

end

structure ModbusChannelConfig where
  points : List PointConfig
  maxBatchSize : UInt16
  maxGap : UInt16

/-- What a poll has collected. -/
structure PollState where
  batch : List DataPoint
  failures : List PointFailure
  readCount : Nat
  errorCount : Nat

variable (config : ModbusChannelConfig)

/-- Poll one group.  Failures are reported only for a group of which nothing was read. -/
def pollGroup (client : ModbusClient) (state : PollState) (group : GroupKey × List PointConfig) :
    PollState :=
  let results := readPointGroup client group.1 group.2 config.maxBatchSize config.maxGap
  let failed := results.isEmpty && !group.2.isEmpty
  { batch := state.batch ++ results
    failures := state.failures ++ if failed then
      group.2.map fun point => ⟨point.id, "Read failed - no response"⟩ else []
    readCount := state.readCount + results.length
    errorCount := state.errorCount + if failed then 1 else 0 }

/-- The groups of a connected channel, one after another. -/
def pollGroups (client : ModbusClient) : PollState :=
  (groupedPoints config.points).foldl (pollGroup config client) ⟨[], [], 0, 0⟩

def pollOnce (client : Option ModbusClient) : PollResult :=
  match client with
  | none => .failed (config.points.map fun point => ⟨point.id, "Not connected"⟩)
  | some client =>
    let state := pollGroups config client
    if state.failures.isEmpty then .success state.batch
    else .partially state.batch state.failures

end AetherIot.Io
