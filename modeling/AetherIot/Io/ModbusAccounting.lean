import AetherIot.Io.ModbusPoll

/-!
# Accounting of Modbus polls

Which points a poll returns and which it reports as failed, in terms of the replies of the device.
-/

namespace AetherIot.Io

open RegisterPoint

/-- The points of the closed segments and of the current one. -/
def collected (state : List RegisterSegment × Option RegisterSegment) : List RegisterPoint :=
  (state.1 ++ state.2.toList).flatMap (·.points)

theorem collected_extendSegments (maxGap maxBatchSize : UInt16)
    (state : List RegisterSegment × Option RegisterSegment) (entry : RegisterPoint) :
    collected (extendSegments maxGap maxBatchSize state entry) = collected state ++ [entry] := by
  obtain ⟨_, current⟩ := state
  cases current with
  | none => simp [extendSegments, collected, RegisterSegment.begin]
  | some =>
    simp only [extendSegments]
    split
    · simp [collected]
    · simp [collected, RegisterSegment.begin]

theorem collected_foldl (maxGap maxBatchSize : UInt16) (entries : List RegisterPoint)
    (state : List RegisterSegment × Option RegisterSegment) :
    collected (entries.foldl (extendSegments maxGap maxBatchSize) state) =
      collected state ++ entries := by
  induction entries generalizing state with
  | nil => simp
  | cons _ _ ih =>
    rw [List.foldl_cons, ih, collected_extendSegments, List.append_assoc]
    rfl

/-- The segments contain every point once, in order. -/
theorem flatMap_buildRegisterSegments (entries : List RegisterPoint)
    (maxGap maxBatchSize : UInt16) :
    (buildRegisterSegments entries maxGap maxBatchSize).flatMap (·.points) = entries :=
  collected_foldl maxGap maxBatchSize entries ([], none)

theorem RegisterPoint.point_of_ofPoint {point : PointConfig} {entry : RegisterPoint}
    (made : ofPoint point = some entry) : entry.point = point := by
  rw [ofPoint] at made
  split at made
  · cases made
    rfl
  · cases made

/-- The registers of the segment reach the point and decode. -/
def RegisterPoint.Decodes (entry : RegisterPoint) (segment : RegisterSegment)
    (registers : List UInt16) : Prop :=
  (entry.register - segment.startAddress).toNat + entry.count.toNat ≤ registers.length ∧
    ∃ address value, entry.point.address = .modbus address ∧
      decodeRegisters ((registers.drop (entry.register - segment.startAddress).toNat).take
        entry.count.toNat) address.format address.byteOrder address.bitPosition = .ok value

section Group

variable (client : ModbusClient) (key : GroupKey) (points : List PointConfig)
  (maxBatchSize maxGap : UInt16)

/-- The request for the coil succeeds. -/
def CoilRead (point : PointConfig) : Prop :=
  ∃ index, points[index]? = some point ∧ ∃ coils, client.readCoil key index = .ok coils

/-- The request for the segment of the point succeeds, and the reply contains the point. -/
def RegisterRead (point : PointConfig) : Prop :=
  ∃ index segment registers entry,
    (buildRegisterSegments (points.filterMap ofPoint) maxGap maxBatchSize)[index]? = some segment ∧
      client.readRegisters key index = .ok registers ∧
      entry ∈ segment.points ∧ entry.point = point ∧ entry.Decodes segment registers

def GroupRead (point : PointConfig) : Prop :=
  if key.functionCode = 1 ∨ key.functionCode = 2 then CoilRead client key points point
  else (key.functionCode = 3 ∨ key.functionCode = 4) ∧
    RegisterRead client key points maxBatchSize maxGap point

variable {client key points maxBatchSize maxGap} {id : UInt32} {pointType : PointType}
  {segment : RegisterSegment} {registers : List UInt16} {entry : RegisterPoint}

/-- The data of coils are those of the requests that succeeded. -/
theorem mem_readCoilsIndividually : (∃ found ∈ readCoilsIndividually client key points,
        found.id = id ∧ found.pointType = pointType) ↔
      ∃ point, CoilRead client key points point ∧ point.id = id ∧ point.pointType = pointType := by
  constructor
  · rintro ⟨_, member, identity, kind⟩
    obtain ⟨⟨point, index⟩, position, decoded⟩ := List.mem_filterMap.mp member
    dsimp only at decoded
    split at decoded
    · rename_i coils reply
      cases decoded
      exact ⟨point, ⟨index, List.mem_zipIdx_iff_getElem?.mp position, coils, reply⟩, identity, kind⟩
    · cases decoded
  · rintro ⟨point, ⟨index, position, coils, reply⟩, identity, kind⟩
    refine ⟨.ofValue point (.bool (coils.head?.getD false)), List.mem_filterMap.mpr
      ⟨(point, index), List.mem_zipIdx_iff_getElem?.mpr position, ?_⟩, identity, kind⟩
    simp only [reply]

theorem decodePoint_eq_some {found : DataPoint}
    (decoded : decodePoint segment registers entry = some found) :
    entry.Decodes segment registers ∧ found.id = entry.point.id ∧
      found.pointType = entry.point.pointType := by
  simp only [decodePoint] at decoded
  split at decoded
  · rename_i fits
    split at decoded
    · rename_i address modbus
      split at decoded
      · rename_i value read
        cases decoded
        exact ⟨⟨fits, address, value, modbus, read⟩, rfl, rfl⟩
      · cases decoded
    · cases decoded
  · cases decoded

theorem RegisterPoint.Decodes.decodePoint (decodes : entry.Decodes segment registers) :
    ∃ found, decodePoint segment registers entry = some found ∧ found.id = entry.point.id ∧
      found.pointType = entry.point.pointType := by
  obtain ⟨fits, _, value, modbus, read⟩ := decodes
  refine ⟨.ofValue entry.point value, ?_, rfl, rfl⟩
  simp only [Io.decodePoint, if_pos fits, modbus, read]

theorem mem_readRegistersBatched :
    (∃ found ∈ readRegistersBatched client key points maxBatchSize maxGap,
        found.id = id ∧ found.pointType = pointType) ↔
      (key.functionCode = 3 ∨ key.functionCode = 4) ∧
        ∃ point, RegisterRead client key points maxBatchSize maxGap point ∧ point.id = id ∧
          point.pointType = pointType := by
  constructor
  · rintro ⟨found, member, identity, kind⟩
    obtain ⟨⟨segment, index⟩, position, member⟩ := List.mem_flatMap.mp member
    dsimp only at member
    split at member
    · rename_i supported
      split at member
      · rename_i registers reply
        obtain ⟨entry, listed, decoded⟩ := List.mem_filterMap.mp member
        obtain ⟨decodes, sameId, sameKind⟩ := decodePoint_eq_some decoded
        exact ⟨supported, entry.point, ⟨index, segment, registers, entry,
          List.mem_zipIdx_iff_getElem?.mp position, reply, listed, rfl, decodes⟩,
          sameId.symm.trans identity, sameKind.symm.trans kind⟩
      · cases member
    · cases member
  · rintro ⟨supported, _, ⟨index, segment, _, entry, position, reply, listed, rfl,
      decodes⟩, identity, kind⟩
    obtain ⟨found, decoded, sameId, sameKind⟩ := decodes.decodePoint
    refine ⟨found, List.mem_flatMap.mpr ⟨(segment, index),
      List.mem_zipIdx_iff_getElem?.mpr position, ?_⟩, sameId.trans identity, sameKind.trans kind⟩
    simp only [if_pos supported, reply]
    exact List.mem_filterMap.mpr ⟨entry, listed, decoded⟩

theorem mem_readPointGroup : (∃ found ∈ readPointGroup client key points maxBatchSize maxGap,
        found.id = id ∧ found.pointType = pointType) ↔
      ∃ point, GroupRead client key points maxBatchSize maxGap point ∧ point.id = id ∧
        point.pointType = pointType := by
  simp only [readPointGroup, GroupRead]
  split
  · exact mem_readCoilsIndividually
  · rw [mem_readRegistersBatched]
    exact ⟨fun ⟨supported, point, read, same⟩ => ⟨point, ⟨supported, read⟩, same⟩,
      fun ⟨point, ⟨supported, read⟩, same⟩ => ⟨supported, point, read, same⟩⟩

theorem readPointGroup_eq_nil : readPointGroup client key points maxBatchSize maxGap = [] ↔
      ∀ point, ¬ GroupRead client key points maxBatchSize maxGap point := by
  constructor
  · intro nothing point read
    obtain ⟨found, member, _⟩ := mem_readPointGroup.mpr ⟨point, read, rfl, rfl⟩
    rw [nothing] at member
    cases member
  · intro unread
    rw [List.eq_nil_iff_forall_not_mem]
    intro found member
    obtain ⟨point, read, _⟩ := mem_readPointGroup.mp ⟨found, member, rfl, rfl⟩
    exact unread point read

theorem GroupRead.mem {point : PointConfig}
    (read : GroupRead client key points maxBatchSize maxGap point) : point ∈ points := by
  rw [GroupRead] at read
  split at read
  · obtain ⟨_, position, _⟩ := read
    exact List.mem_of_getElem? position
  · obtain ⟨_, _, segment, _, entry, position, _, listed, rfl, _⟩ := read
    have member : entry ∈ points.filterMap ofPoint := by
      rw [← flatMap_buildRegisterSegments (points.filterMap ofPoint) maxGap maxBatchSize]
      exact List.mem_flatMap.mpr ⟨segment, List.mem_of_getElem? position, listed⟩
    obtain ⟨_, _, made⟩ := List.mem_filterMap.mp member
    rwa [point_of_ofPoint made]

end Group

section Poll

variable {config : ModbusChannelConfig} {client : ModbusClient}

section

variable (config) (client)

def groupData (group : GroupKey × List PointConfig) : List DataPoint :=
  readPointGroup client group.1 group.2 config.maxBatchSize config.maxGap

def groupFailures (group : GroupKey × List PointConfig) : List PointFailure :=
  if (groupData config client group).isEmpty && !group.2.isEmpty then
    group.2.map fun point => ⟨point.id, "Read failed - no response"⟩ else []

theorem foldl_pollGroup (groups : List (GroupKey × List PointConfig)) (state : PollState) :
    (groups.foldl (pollGroup config client) state).batch =
        state.batch ++ groups.flatMap (groupData config client) ∧
      (groups.foldl (pollGroup config client) state).failures =
        state.failures ++ groups.flatMap (groupFailures config client) := by
  induction groups generalizing state with
  | nil => simp
  | cons group _ ih =>
    obtain ⟨batch, failures⟩ := ih (pollGroup config client state group)
    rw [List.foldl_cons, batch, failures, List.flatMap_cons, List.flatMap_cons,
      ← List.append_assoc, ← List.append_assoc]
    exact ⟨rfl, rfl⟩

end

variable {points : List PointConfig} {key : GroupKey}

theorem mem_groupPoints {point : PointConfig} :
    point ∈ groupPoints points key ↔ point ∈ points ∧ point.groupKey = some key := by
  rw [groupPoints, List.mem_insertionSort, List.mem_filter, decide_eq_true_eq]

theorem mem_groupedPoints {members : List PointConfig} : (key, members) ∈ groupedPoints points ↔
      (∃ point ∈ points, point.groupKey = some key) ∧ members = groupPoints points key := by
  rw [groupedPoints, List.mem_map]
  constructor
  · rintro ⟨key, member, same⟩
    cases same
    exact ⟨List.mem_filterMap.mp (List.mem_dedup.mp member), rfl⟩
  · rintro ⟨occupied, rfl⟩
    exact ⟨key, List.mem_dedup.mpr (List.mem_filterMap.mpr occupied), rfl⟩

variable (config client)

/-- The point is read: its request succeeds, and the reply contains it and decodes. -/
def PointRead (point : PointConfig) : Prop :=
  ∃ key, point.groupKey = some key ∧
    GroupRead client key (groupPoints config.points key) config.maxBatchSize config.maxGap point

def GroupUnread (point : PointConfig) : Prop :=
  ∃ key, point.groupKey = some key ∧
    ∀ other ∈ config.points, other.groupKey = some key → ¬ PointRead config client other

end Poll

/-- The point is among the data. -/
def PollResult.Returns (result : PollResult) (point : PointConfig) : Prop :=
  ∃ found ∈ result.data, found.id = point.id ∧ found.pointType = point.pointType

/-- The point is among the failures. -/
def PollResult.Reports (result : PollResult) (point : PointConfig) : Prop :=
  ∃ failure ∈ result.failures, failure.pointId = point.id

/-- Every point is either among the data or among the failures. -/
def PollResult.AccountsFor (result : PollResult) (points : List PointConfig) : Prop :=
  ∀ point ∈ points, Xor (result.Returns point) (result.Reports point)

section Accounting

variable {config : ModbusChannelConfig} {client : ModbusClient} {point : PointConfig}

theorem pollOnce_some : pollOnce config (some client) =
    ⟨(groupedPoints config.points).flatMap (groupData config client),
      (groupedPoints config.points).flatMap (groupFailures config client)⟩ := by
  obtain ⟨batch, failures⟩ :=
    foldl_pollGroup config client (groupedPoints config.points) ⟨[], [], 0, 0⟩
  rw [List.nil_append] at batch failures
  simp only [pollOnce, pollGroups, batch, failures]
  split
  · rename_i complete
    rw [List.isEmpty_iff.mp complete]
    rfl
  · rfl

theorem returns_pollOnce : (pollOnce config (some client)).Returns point ↔
    ∃ other ∈ config.points, PointRead config client other ∧ other.id = point.id ∧
      other.pointType = point.pointType := by
  rw [PollResult.Returns, pollOnce_some]
  constructor
  · rintro ⟨found, member, same⟩
    obtain ⟨⟨key, _⟩, listed, member⟩ := List.mem_flatMap.mp member
    obtain ⟨_, rfl⟩ := mem_groupedPoints.mp listed
    obtain ⟨other, read, same⟩ := mem_readPointGroup.mp ⟨found, member, same⟩
    obtain ⟨configured, inGroup⟩ := mem_groupPoints.mp read.mem
    exact ⟨other, configured, ⟨key, inGroup, read⟩, same⟩
  · rintro ⟨other, configured, ⟨key, inGroup, read⟩, same⟩
    obtain ⟨found, member, same⟩ := mem_readPointGroup.mpr ⟨other, read, same⟩
    refine ⟨found, List.mem_flatMap.mpr ⟨(key, groupPoints config.points key), ?_, member⟩, same⟩
    exact mem_groupedPoints.mpr ⟨⟨other, configured, inGroup⟩, rfl⟩

theorem groupData_isEmpty {key : GroupKey} :
    (groupData config client (key, groupPoints config.points key)).isEmpty = true ↔
      ∀ other ∈ config.points, other.groupKey = some key → ¬ PointRead config client other := by
  rw [List.isEmpty_iff, groupData, readPointGroup_eq_nil]
  constructor
  · rintro unread other configured inGroup ⟨_, same, read⟩
    cases inGroup.symm.trans same
    exact unread other read
  · intro unread other read
    obtain ⟨configured, inGroup⟩ := mem_groupPoints.mp read.mem
    exact unread other configured inGroup ⟨key, inGroup, read⟩

theorem reports_pollOnce : (pollOnce config (some client)).Reports point ↔
    ∃ other ∈ config.points, GroupUnread config client other ∧ other.id = point.id := by
  rw [PollResult.Reports, pollOnce_some]
  constructor
  · rintro ⟨_, member, same⟩
    obtain ⟨⟨key, _⟩, listed, member⟩ := List.mem_flatMap.mp member
    obtain ⟨_, rfl⟩ := mem_groupedPoints.mp listed
    rw [groupFailures] at member
    split at member
    · rename_i unread
      obtain ⟨other, inside, rfl⟩ := List.mem_map.mp member
      obtain ⟨configured, inGroup⟩ := mem_groupPoints.mp inside
      exact ⟨other, configured, ⟨key, inGroup, groupData_isEmpty.mp
        (Bool.and_eq_true_iff.mp unread).1⟩, same⟩
    · cases member
  · rintro ⟨other, configured, ⟨key, inGroup, unread⟩, same⟩
    have inside : other ∈ groupPoints config.points key := mem_groupPoints.mpr ⟨configured, inGroup⟩
    refine ⟨⟨other.id, "Read failed - no response"⟩, List.mem_flatMap.mpr
      ⟨(key, groupPoints config.points key), mem_groupedPoints.mpr
        ⟨⟨other, configured, inGroup⟩, rfl⟩, ?_⟩, same⟩
    have failed : ((groupData config client (key, groupPoints config.points key)).isEmpty &&
        !(groupPoints config.points key).isEmpty) = true := by
      rw [Bool.and_eq_true_iff, groupData_isEmpty]
      refine ⟨unread, ?_⟩
      rw [Bool.not_eq_true', List.isEmpty_eq_false_iff]
      exact List.ne_nil_of_mem inside
    rw [groupFailures, if_pos failed]
    exact List.mem_map.mpr ⟨other, inside, rfl⟩

/-- A poll accounts for every point exactly when, unless the channel is not connected, for every
configured point one and only one of these holds: a point with its identity is read, or a point with
its identifier lies in a group of which nothing is read. -/
theorem poll_accounts_for_points_iff (config : ModbusChannelConfig) (client : Option ModbusClient) :
    (pollOnce config client).AccountsFor config.points ↔
      ∀ connected, client = some connected → ∀ point ∈ config.points,
        Xor (∃ other ∈ config.points, PointRead config connected other ∧ other.id = point.id ∧
            other.pointType = point.pointType)
          (∃ other ∈ config.points, GroupUnread config connected other ∧ other.id = point.id) := by
  cases client with
  | none =>
    refine ⟨fun _ _ connected => (by cases connected), fun _ point configured => .inr ⟨?_, ?_⟩⟩
    · exact ⟨⟨point.id, "Not connected"⟩, List.mem_map.mpr ⟨point, configured, rfl⟩, rfl⟩
    · rintro ⟨_, member, _⟩
      cases member
  | some client =>
    constructor
    · intro accounts _ same point configured
      cases same
      have once := accounts point configured
      rwa [returns_pollOnce, reports_pollOnce] at once
    · intro once point configured
      rw [returns_pollOnce, reports_pollOnce]
      exact once client rfl point configured

/-- When points are identified by their identifiers, a connected poll accounts for every point
exactly when every group is read completely or not at all. -/
theorem accounts_iff_all_or_nothing
    (distinct : ∀ left ∈ config.points, ∀ right ∈ config.points, left.id = right.id → left = right) :
    (pollOnce config (some client)).AccountsFor config.points ↔
      ∀ point ∈ config.points, PointRead config client point ∨ GroupUnread config client point := by
  have apart : ∀ point ∈ config.points, PointRead config client point →
      ¬ GroupUnread config client point := by
    rintro point configured ⟨key, inGroup, read⟩ ⟨_, same, unread⟩
    cases inGroup.symm.trans same
    exact unread point configured inGroup ⟨key, inGroup, read⟩
  have returned : ∀ point ∈ config.points, (pollOnce config (some client)).Returns point ↔
      PointRead config client point := by
    intro point configured
    rw [returns_pollOnce]
    refine ⟨fun ⟨other, known, read, same, _⟩ => ?_, fun read => ⟨point, configured, read, rfl, rfl⟩⟩
    rwa [← distinct other known point configured same]
  have reported : ∀ point ∈ config.points, (pollOnce config (some client)).Reports point ↔
      GroupUnread config client point := by
    intro point configured
    rw [reports_pollOnce]
    refine ⟨fun ⟨other, known, unread, same⟩ => ?_, fun unread => ⟨point, configured, unread, rfl⟩⟩
    rwa [← distinct other known point configured same]
  constructor
  · intro accounts point configured
    rcases accounts point configured with ⟨returns, _⟩ | ⟨reports, _⟩
    · exact .inl ((returned point configured).mp returns)
    · exact .inr ((reported point configured).mp reports)
  · intro settled point configured
    rw [returned point configured, reported point configured]
    rcases settled point configured with read | unread
    · exact .inl ⟨read, apart point configured read⟩
    · exact .inr ⟨unread, fun read => apart point configured read unread⟩

end Accounting

instance (result : PollResult) (point : PointConfig) : Decidable (result.Returns point) :=
  decidable_of_iff ((point.id, point.pointType) ∈ result.data.map fun found =>
    (found.id, found.pointType)) (by simp [PollResult.Returns])

instance (result : PollResult) (point : PointConfig) : Decidable (result.Reports point) :=
  decidable_of_iff (point.id ∈ result.failures.map (·.pointId)) (by simp [PollResult.Reports])

instance (result : PollResult) (points : List PointConfig) : Decidable (result.AccountsFor points) :=
  inferInstanceAs (Decidable (∀ point ∈ points, Xor (result.Returns point) (result.Reports point)))

/-- Two holding registers that are too far apart for one segment. -/
private def distantRegisters : ModbusChannelConfig where
  points := [0, 100].map fun register =>
    { id := register.toUInt32 + 1
      pointType := .telemetry
      address := .modbus ⟨1, 3, register, .uint16, .abcd, none⟩
      transform := ⟨1, 0, false⟩ }
  maxBatchSize := 100
  maxGap := 10

/-- Both segments are read. -/
theorem poll_accounts_for_points_iff_answered :
    ∀ connected, some (⟨fun _ _ => .error "", fun _ _ => .ok [5]⟩ : ModbusClient) = some connected →
      ∀ point ∈ distantRegisters.points,
        Xor (∃ other ∈ distantRegisters.points, PointRead distantRegisters connected other ∧
            other.id = point.id ∧ other.pointType = point.pointType)
          (∃ other ∈ distantRegisters.points, GroupUnread distantRegisters connected other ∧
            other.id = point.id) :=
  (poll_accounts_for_points_iff distantRegisters _).mp (by decide +kernel)

/-- The request for the second segment fails: its point is neither returned nor reported. -/
theorem partial_group_failure_is_lost :
    ¬ (pollOnce distantRegisters (some ⟨fun _ _ => .error "", fun _ index =>
      if index = 0 then .ok [5] else .error "timeout"⟩)).AccountsFor distantRegisters.points := by
  decide +kernel

end AetherIot.Io
