import AetherIot.Foundation.KeyedList
import AetherIot.Io.Can

/-!
# Identity and fields of CAN points

A channel with telemetry and signal points, whose ids are unique within their type only.  The map of
the loaded points is keyed by the bare id, the field is truncated to bytes, and every value is sent
as telemetry.  The published values are those of the configured fields exactly when no mapped signal
lies within its frame, no telemetry point shares its id with a mapped signal, every field within its
frame is one the decoder can take whole for its data type, and no field beyond its frame is truncated
to one that can be taken.
-/

namespace AetherIot.Io.Can

open OrderedMap (BTreeMap valueList insertAll)

/-- The telemetry and signal points of a channel. -/
structure PointConfiguration where
  telemetry : List Point
  signal : List Point
  telemetryDistinct : (telemetry.map Point.pointId).Nodup
  signalDistinct : (signal.map Point.pointId).Nodup

namespace PointConfiguration

def runtime (config : PointConfiguration) : RuntimeChannelConfig :=
  ⟨config.telemetry, config.signal, [], []⟩

section

variable (fromStr : String → Option CanProtocolMapping) (config : PointConfiguration)

/-- A point of the given type and id is configured with a mapping that is not rejected. -/
def Mapped (pointType : PointType) (id : UInt32) (mapping : CanProtocolMapping) : Prop :=
  (pointType = .telemetry ∧
    ∃ point ∈ config.telemetry, point.pointId = id ∧ point.mapping fromStr = some mapping) ∨
  (pointType = .signal ∧
    ∃ point ∈ config.signal, point.pointId = id ∧ point.mapping fromStr = some mapping)

/-- The manager of the client after loading. -/
def manager : PointManager :=
  .addPoints (convertToCanPointConfigs fromStr config.runtime)

end

end PointConfiguration

variable (mapping : CanProtocolMapping)

/-- The field lies within the frame. -/
def CanProtocolMapping.Within (frame : List UInt8) : Prop :=
  mapping.startBit.toNat + mapping.bitLength.toNat ≤ 8 * frame.length

instance (mapping : CanProtocolMapping) (frame : List UInt8) : Decidable (mapping.Within frame) :=
  inferInstanceAs (Decidable (_ ≤ _))

/-- A field of the given length has a value of the data type. -/
def CanDataType.Holds (length : Nat) : CanDataType → Prop
  | .uint8 => length ≤ 8
  | .uint16 => length ≤ 16
  | .int16 => length = 16
  | .uint32 => length ≤ 32
  | .int32 | .float32 => length = 32
  | .ascii => True

structure CanProtocolMapping.Exact (frame : List UInt8) (value : Value) : Prop where
  within : mapping.Within frame
  holds : mapping.dataType.Holds mapping.bitLength.toNat
  eq : value = applyScale mapping.scale mapping.offset (mapping.dataType.valueOf
    (fieldBits frame mapping.startBit.toNat mapping.bitLength.toNat)
    (asciiText (fieldBytes frame mapping.startBit.toNat mapping.bitLength.toNat)))

/-- What is published, with the loaded point that each value was decoded for. -/
def PointManager.published (manager : PointManager) (cache : CanFrameCache) :
    List ((CanPoint × Value) × DataPoint) :=
  (manager.decodedPoints cache).zip (manager.readBatch cache)

variable (fromStr : String → Option CanProtocolMapping)

section

variable (config : PointConfiguration) (cache : CanFrameCache)

/-- Every value is published under the type and id of its own point and is that of its own field;
every point whose field lies within its frame is published; no two values have one type and id. -/
structure KeepsIdentity : Prop where
  own : ∀ source dataPoint, (source, dataPoint) ∈ (config.manager fromStr).published cache →
    dataPoint.pointType = source.1.pointType ∧ dataPoint.id = source.1.pointId ∧
      ∃ mapping frame, config.Mapped fromStr source.1.pointType source.1.pointId mapping ∧
        cache.get mapping.canId = some frame ∧ mapping.Exact frame dataPoint.value
  complete : ∀ pointType id mapping frame, config.Mapped fromStr pointType id mapping →
    cache.get mapping.canId = some frame → mapping.Within frame →
      ∃ source dataPoint, (source, dataPoint) ∈ (config.manager fromStr).published cache ∧
        source.1.pointType = pointType ∧ source.1.pointId = id
  distinct : (((config.manager fromStr).readBatch cache).map fun dataPoint =>
    (dataPoint.pointType, dataPoint.id)).Nodup

/-- The decoder can take the field whole, for its data type. -/
structure CanProtocolMapping.Supported : Prop where
  shape : mapping.bitLength.toNat = 2 ∧ mapping.startBit.toNat % 8 ≤ 6 ∨
    mapping.startBit.toNat % 8 = 0 ∧ (mapping.bitLength.toNat = 8 ∨ mapping.bitLength.toNat = 16 ∨
      mapping.bitLength.toNat = 32 ∨ mapping.bitLength.toNat = 64)
  holds : mapping.dataType.Holds mapping.bitLength.toNat
  enough : mapping.dataType.size ≤ (mapping.bitLength.toNat + 7) / 8

/-- The position and the length, truncated to bytes, are those of a field that can be taken. -/
structure CanProtocolMapping.Truncates (size : Nat) : Prop where
  field : Extractable (mapping.startBit.toNat / 8 % 256) (mapping.startBit.toNat % 8)
    (mapping.bitLength.toNat % 256) size
  enough : mapping.dataType.size ≤ (mapping.bitLength.toNat % 256 + 7) / 8

def Overlapped (pointType : PointType) (id : UInt32) : Prop :=
  pointType = .telemetry ∧ ∃ mapping, config.Mapped fromStr .signal id mapping

/-- A field within its frame belongs to a telemetry point with an id of its own and can be taken
whole; any other is not decoded. -/
def Unambiguous : Prop :=
  ∀ pointType id mapping frame, config.Mapped fromStr pointType id mapping →
    cache.get mapping.canId = some frame →
      (mapping.Within frame → pointType = .telemetry ∧ mapping.Supported ∧
        ¬ Overlapped fromStr config pointType id) ∧
      (¬ mapping.Within frame →
        Overlapped fromStr config pointType id ∨ ¬ mapping.Truncates frame.length)

end

variable {fromStr : String → Option CanProtocolMapping} {config : PointConfiguration}
  {cache : CanFrameCache} {pointType : PointType} {points : List Point} {loaded : CanPoint}
  {id : UInt32} {mapping : CanProtocolMapping} {source : CanPoint × Value} {dataPoint : DataPoint}
  {frame : List UInt8}

theorem mem_collectCanPoints : loaded ∈ collectCanPoints fromStr pointType points ↔
      ∃ point ∈ points, ∃ mapping, point.mapping fromStr = some mapping ∧
        loaded = mapping.canPoint pointType point.pointId := by
  rw [collectCanPoints, List.mem_filterMap]
  refine exists_congr fun point => and_congr_right fun _ => ?_
  rw [Option.map_eq_some_iff]
  exact exists_congr fun mapping => and_congr_right fun _ => eq_comm

theorem nodup_collectCanPoints (distinct : (points.map Point.pointId).Nodup) :
    ((collectCanPoints fromStr pointType points).map CanPoint.pointId).Nodup := by
  have part : ((collectCanPoints fromStr pointType points).map CanPoint.pointId).Sublist
      (points.map Point.pointId) := by
    induction points with
    | nil => exact List.Sublist.slnil
    | cons point _ ih =>
      have rest := ih (List.nodup_cons.mp distinct).2
      cases mapped : point.mapping fromStr with
      | none =>
        simp only [collectCanPoints, List.filterMap_cons, mapped, Option.map_none]
        exact rest.cons _
      | some =>
        simp only [collectCanPoints, List.filterMap_cons, mapped, Option.map_some, List.map_cons]
        exact rest.cons_cons _
  exact distinct.sublist part

theorem addPoints_points (points : List CanPoint) :
    (PointManager.addPoints points).points = insertAll CanPoint.pointId ∅ points := by
  have grown : ∀ manager : PointManager, (points.foldl PointManager.addPoint manager).points =
      insertAll CanPoint.pointId manager.points points := by
    induction points with
    | nil => exact fun _ => rfl
    | cons _ _ ih => exact fun manager => ih _
  exact grown .new

theorem find?_collectCanPoints (distinct : (points.map Point.pointId).Nodup) :
    (collectCanPoints fromStr pointType points).find? (fun other => other.pointId = id) =
        some loaded ↔
      ∃ mapping, (∃ point ∈ points, point.pointId = id ∧ point.mapping fromStr = some mapping) ∧
        loaded = mapping.canPoint pointType id := by
  rw [KeyedList.find?_key_eq_some (nodup_collectCanPoints distinct), mem_collectCanPoints]
  constructor
  · rintro ⟨⟨point, member, mapping, mapped, rfl⟩, rfl⟩
    exact ⟨mapping, ⟨point, member, rfl, mapped⟩, rfl⟩
  · rintro ⟨mapping, ⟨point, member, rfl, mapped⟩, rfl⟩
    exact ⟨⟨point, member, mapping, mapped, rfl⟩, rfl⟩

theorem mapped_telemetry : config.Mapped fromStr .telemetry id mapping ↔
      ∃ point ∈ config.telemetry, point.pointId = id ∧ point.mapping fromStr = some mapping := by
  simp [PointConfiguration.Mapped]

theorem mapped_signal : config.Mapped fromStr .signal id mapping ↔
      ∃ point ∈ config.signal, point.pointId = id ∧ point.mapping fromStr = some mapping := by
  simp [PointConfiguration.Mapped]

/-- The loaded point of an id is that of the mapped signal, or else of the telemetry point. -/
theorem manager_getElem? : (config.manager fromStr).points[id]? = some loaded ↔
      ∃ pointType mapping, config.Mapped fromStr pointType id mapping ∧
        ¬ Overlapped fromStr config pointType id ∧ loaded = mapping.canPoint pointType id := by
  have lookup : (config.manager fromStr).points[id]? =
      ((collectCanPoints fromStr .signal config.signal).find? fun other => other.pointId = id).or
        ((collectCanPoints fromStr .telemetry config.telemetry).find? fun other =>
          other.pointId = id) := by
    have loading : (config.manager fromStr).points = insertAll CanPoint.pointId
          (insertAll CanPoint.pointId ∅ (collectCanPoints fromStr .telemetry config.telemetry))
          (collectCanPoints fromStr .signal config.signal) := by
      rw [PointConfiguration.manager, addPoints_points, convertToCanPointConfigs]
      simp [PointConfiguration.runtime, collectCanPoints, insertAll, List.foldl_append]
    rw [loading, OrderedMap.getElem?_insertAll (nodup_collectCanPoints config.signalDistinct),
      OrderedMap.getElem?_insertAll (nodup_collectCanPoints config.telemetryDistinct)]
    simp
  rw [lookup, Option.or_eq_some_iff, find?_collectCanPoints config.signalDistinct,
    find?_collectCanPoints config.telemetryDistinct]
  simp only [← mapped_signal, ← mapped_telemetry]
  have absent : ((collectCanPoints fromStr .signal config.signal).find? fun other =>
      other.pointId = id) = none ↔ ¬ ∃ mapping, config.Mapped fromStr .signal id mapping := by
    rw [Option.eq_none_iff_forall_ne_some, not_exists]
    constructor
    · intro missing mapping mapped
      exact missing _ ((find?_collectCanPoints config.signalDistinct).mpr
        ⟨mapping, mapped_signal.mp mapped, rfl⟩)
    · intro unmapped _ found
      obtain ⟨mapping, mapped, -⟩ := (find?_collectCanPoints config.signalDistinct).mp found
      exact unmapped mapping (mapped_signal.mpr mapped)
  rw [absent]
  constructor
  · rintro (⟨mapping, mapped, rfl⟩ | ⟨alone, mapping, mapped, rfl⟩)
    · exact ⟨.signal, mapping, mapped, fun overlapped => (by cases overlapped.1), rfl⟩
    · exact ⟨.telemetry, mapping, mapped, fun overlapped => alone overlapped.2, rfl⟩
  · rintro ⟨pointType, mapping, mapped, alone, rfl⟩
    have kind : pointType = .telemetry ∨ pointType = .signal := mapped.imp And.left And.left
    rcases kind with rfl | rfl
    · exact .inr ⟨fun overlapped => alone ⟨rfl, overlapped⟩, mapping, mapped, rfl⟩
    · exact .inl ⟨mapping, mapped, rfl⟩

theorem mapped_unique {other : CanProtocolMapping}
    (mapped : config.Mapped fromStr pointType id mapping)
    (again : config.Mapped fromStr pointType id other) : mapping = other := by
  have same : ∀ {points : List Point}, (points.map Point.pointId).Nodup →
      (∃ point ∈ points, point.pointId = id ∧ point.mapping fromStr = some mapping) →
      (∃ point ∈ points, point.pointId = id ∧ point.mapping fromStr = some other) →
      mapping = other := by
    rintro _ distinct ⟨_, leftMember, rfl, leftMapped⟩ ⟨_, rightMember, sameId, found⟩
    obtain rfl := List.inj_on_of_nodup_map distinct rightMember leftMember sameId
    exact Option.some.inj (leftMapped.symm.trans found)
  rcases mapped with ⟨rfl, mapped⟩ | ⟨rfl, mapped⟩
  · exact same config.telemetryDistinct mapped (mapped_telemetry.mp again)
  · exact same config.signalDistinct mapped (mapped_signal.mp again)

/-- The published values are the decoded ones of the loaded points, sent as telemetry. -/
theorem mem_published : (source, dataPoint) ∈ (config.manager fromStr).published cache ↔
      (config.manager fromStr).points[source.1.pointId]? = some source.1 ∧
        PointManager.decoded cache source.1 = some source.2 ∧
        dataPoint = ⟨source.1.pointId, .telemetry, source.2⟩ := by
  let manager := config.manager fromStr
  let dataPointOf (entry : CanPoint × Value) : DataPoint :=
    ⟨entry.1.pointId, .telemetry, entry.2⟩
  have batch : manager.readBatch cache = (manager.decodedPoints cache).map dataPointOf := by
    rw [PointManager.readBatch, PointManager.applyMappings, List.map_map]
    rfl
  have zipped : manager.published cache =
      (manager.decodedPoints cache).map fun entry => (entry, dataPointOf entry) := by
    rw [PointManager.published, batch]
    simpa using List.zip_map' (f := id) (g := dataPointOf) (l := manager.decodedPoints cache)
  have decodes : source ∈ manager.decodedPoints cache ↔
      manager.points[source.1.pointId]? = some source.1 ∧
        PointManager.decoded cache source.1 = some source.2 := by
    rw [PointManager.decodedPoints, List.mem_filterMap]
    constructor
    · rintro ⟨point, member, found⟩
      obtain ⟨id, present⟩ := OrderedMap.mem_valueList.mp member
      obtain ⟨_, decoded, rfl⟩ := Option.map_eq_some_iff.mp found
      rw [manager.keyed id point present]
      exact ⟨present, decoded⟩
    · rintro ⟨present, decoded⟩
      exact ⟨source.1, OrderedMap.mem_valueList.mpr ⟨_, present⟩,
        Option.map_eq_some_iff.mpr ⟨source.2, decoded, rfl⟩⟩
  change (source, dataPoint) ∈ manager.published cache ↔ _
  rw [zipped, List.mem_map, ← and_assoc, ← decodes]
  constructor
  · rintro ⟨_, member, same⟩
    cases same
    exact ⟨member, rfl⟩
  · rintro ⟨member, rfl⟩
    exact ⟨source, member, rfl⟩

theorem readBatch_distinct : (((config.manager fromStr).readBatch cache).map fun dataPoint =>
      (dataPoint.pointType, dataPoint.id)).Nodup := by
  let manager := config.manager fromStr
  have part : ∀ points : List CanPoint, ((points.filterMap fun point =>
      (PointManager.decoded cache point).map fun value => (point, value)).map fun entry =>
        entry.1.pointId).Sublist (points.map CanPoint.pointId) := by
    intro points
    induction points with
    | nil => exact List.Sublist.slnil
    | cons point _ ih =>
      cases decoded : PointManager.decoded cache point with
      | none =>
        simp only [List.filterMap_cons, decoded, Option.map_none]
        exact ih.cons _
      | some =>
        simp only [List.filterMap_cons, decoded, Option.map_some, List.map_cons]
        exact ih.cons_cons _
  have ids : ((manager.decodedPoints cache).map fun entry => entry.1.pointId).Nodup :=
    (OrderedMap.nodup_map_key_valueList manager.keyed).sublist (part _)
  have keys : ((manager.readBatch cache).map fun dataPoint =>
      (dataPoint.pointType, dataPoint.id)) =
        ((manager.decodedPoints cache).map fun entry => entry.1.pointId).map fun id =>
          (PointType.telemetry, id) := by
    rw [PointManager.readBatch, PointManager.applyMappings]
    simp only [List.map_map, Function.comp_def]
  change ((manager.readBatch cache).map _).Nodup
  rw [keys]
  exact ids.map fun _ _ same => (Prod.mk.inj same).2

theorem get_short {canId : UInt32} (found : cache.get canId = some frame) : frame.length ≤ 8 := by
  obtain ⟨data, -, rfl⟩ := Option.map_eq_some_iff.mp found
  exact data.short

section Fields

theorem toNat_byteOffset : (mapping.canPoint pointType id).byteOffset.toNat =
    mapping.startBit.toNat / 8 % 256 := by
  simp [CanProtocolMapping.canPoint]

theorem toNat_bitPosition : (mapping.canPoint pointType id).bitPosition.toNat =
    mapping.startBit.toNat % 8 := by
  simp [CanProtocolMapping.canPoint]
  omega

theorem toNat_bitLength : (mapping.canPoint pointType id).bitLength.toNat =
    mapping.bitLength.toNat % 256 := by
  simp [CanProtocolMapping.canPoint]

/-- A loaded point is decoded exactly when its truncated field can be taken. -/
theorem exists_decodePoint_canPoint :
    (∃ value, decodePoint (mapping.canPoint pointType id) frame = .ok value) ↔
      mapping.Truncates frame.length := by
  simp only [decodePoint_eq_ok, toNat_byteOffset, toNat_bitPosition, toNat_bitLength]
  constructor
  · rintro ⟨_, field, enough, -⟩
    exact ⟨field, enough⟩
  · rintro ⟨field, enough⟩
    exact ⟨_, field, enough, _, rfl, rfl⟩

/-- Nothing of a field within its frame is truncated. -/
theorem within_untruncated (short : frame.length ≤ 8) (within : mapping.Within frame) :
    mapping.startBit.toNat / 8 % 256 = mapping.startBit.toNat / 8 ∧
      mapping.bitLength.toNat % 256 = mapping.bitLength.toNat := by
  rw [CanProtocolMapping.Within] at within
  omega

theorem leValue_take_fieldBytes {dataType : CanDataType} {start length : Nat}
    (holds : dataType.Holds length) (enough : dataType.size ≤ (length + 7) / 8)
    (numeric : dataType ≠ .ascii) :
    Bytes.leValue ((fieldBytes frame start length).take dataType.size) =
      fieldBits frame start length := by
  have whole : (length + 7) / 8 ≤ dataType.size := by
    cases dataType <;> simp_all [CanDataType.Holds, CanDataType.size] <;> omega
  have bound : fieldBits frame start length < 256 ^ ((length + 7) / 8) := by
    calc fieldBits frame start length < 2 ^ length := Nat.mod_lt _ (by positivity)
      _ ≤ 2 ^ (8 * ((length + 7) / 8)) := Nat.pow_le_pow_right (by decide) (by omega)
      _ = 256 ^ ((length + 7) / 8) := by rw [Nat.pow_mul]
  rw [List.take_of_length_le (by simpa [fieldBytes] using whole), fieldBytes,
    Bytes.leValue_leBytes bound]

theorem exact_iff_holds {value : Value} (short : frame.length ≤ 8) (within : mapping.Within frame)
    (decoded : decodePoint (mapping.canPoint pointType id) frame = .ok value) :
    mapping.Exact frame value ↔ mapping.dataType.Holds mapping.bitLength.toNat := by
  refine ⟨CanProtocolMapping.Exact.holds, fun holds => ⟨within, holds, ?_⟩⟩
  obtain ⟨offset, length⟩ := within_untruncated short within
  obtain ⟨-, enough, _, taken, same⟩ := decodePoint_eq_ok.mp decoded
  rw [toNat_byteOffset, toNat_bitPosition, toNat_bitLength, offset, length, Nat.div_add_mod] at taken
  rw [toNat_bitLength, length] at enough
  rw [same, taken]
  refine congrArg _ ?_
  by_cases text : mapping.dataType = .ascii
  · simp [CanProtocolMapping.canPoint, text, CanDataType.valueOf]
  · exact congrArg (mapping.dataType.valueOf · _) (leValue_take_fieldBytes holds enough text)

/-- Within the frame, the supported fields are those that can be taken and that their types hold. -/
theorem supported_iff (short : frame.length ≤ 8) (within : mapping.Within frame) :
    mapping.Supported ↔ mapping.Truncates frame.length ∧
      mapping.dataType.Holds mapping.bitLength.toNat := by
  obtain ⟨offset, length⟩ := within_untruncated short within
  rw [CanProtocolMapping.Within] at within
  constructor
  · rintro ⟨shape, holds, enough⟩
    refine ⟨⟨⟨?_, ?_⟩, ?_⟩, holds⟩
    · omega
    · rw [offset, length]
      omega
    · rw [length]
      exact enough
  · rintro ⟨⟨⟨-, shape⟩, enough⟩, holds⟩
    rw [length] at shape enough
    refine ⟨?_, holds, enough⟩
    omega

end Fields

theorem decoded_eq_some {value : Value} :
    PointManager.decoded cache (mapping.canPoint pointType id) = some value ↔
      ∃ frame, cache.get mapping.canId = some frame ∧
        decodePoint (mapping.canPoint pointType id) frame = .ok value := by
  rw [PointManager.decoded, Option.bind_eq_some_iff]
  refine exists_congr fun frame => and_congr_right fun _ => ?_
  cases decodePoint (mapping.canPoint pointType id) frame with
  | error | ok => simp [Except.toOption]

/-- A mapped point that no signal replaces is published when its truncated field can be taken. -/
theorem published_of_truncates (mapped : config.Mapped fromStr pointType id mapping)
    (alone : ¬ Overlapped fromStr config pointType id)
    (found : cache.get mapping.canId = some frame) (truncates : mapping.Truncates frame.length) :
    ∃ value, decodePoint (mapping.canPoint pointType id) frame = .ok value ∧
      ((mapping.canPoint pointType id, value), ⟨id, .telemetry, value⟩) ∈
        (config.manager fromStr).published cache := by
  obtain ⟨value, decoded⟩ := exists_decodePoint_canPoint.mpr truncates
  refine ⟨value, decoded, mem_published.mpr ⟨?_, decoded_eq_some.mpr ⟨frame, found, decoded⟩, rfl⟩⟩
  exact manager_getElem?.mpr ⟨pointType, mapping, mapped, alone, rfl⟩

/-- Every published value is that of a mapped point that no signal replaces. -/
theorem exists_mapped_of_published
    (sent : (source, dataPoint) ∈ (config.manager fromStr).published cache) :
    ∃ pointType id mapping frame, config.Mapped fromStr pointType id mapping ∧
      ¬ Overlapped fromStr config pointType id ∧ cache.get mapping.canId = some frame ∧
      source.1 = mapping.canPoint pointType id ∧
      decodePoint (mapping.canPoint pointType id) frame = .ok source.2 ∧
      dataPoint = ⟨id, .telemetry, source.2⟩ := by
  obtain ⟨point, _⟩ := source
  obtain ⟨loaded, decoded, same⟩ := mem_published.mp sent
  obtain ⟨pointType, mapping, mapped, alone, named⟩ := manager_getElem?.mp loaded
  simp only at named decoded same
  rw [named] at decoded
  obtain ⟨frame, found, exactly⟩ := decoded_eq_some.mp decoded
  exact ⟨pointType, point.pointId, mapping, frame, mapped, alone, found, named, exactly, same⟩

/-- A channel publishes every value under its own type and id and from its own field, and every point
whose field lies within its frame, exactly when its mappings are unambiguous for the cached frames. -/
theorem keepsIdentity_iff (fromStr : String → Option CanProtocolMapping)
    (config : PointConfiguration) (cache : CanFrameCache) :
    KeepsIdentity fromStr config cache ↔ Unambiguous fromStr config cache := by
  constructor
  · rintro ⟨own, complete, -⟩ pointType id mapping frame mapped found
    have short := get_short found
    constructor
    · intro within
      obtain ⟨_, _, sent, sameType, sameId⟩ :=
        complete pointType id mapping frame mapped found within
      obtain ⟨kind, named, _, _, again, otherFound, exactly⟩ := own _ _ sent
      obtain ⟨loadedType, loadedId, loaded, _, loadedMapped, alone, loadedFound, isLoaded,
        decoded, rfl⟩ := exists_mapped_of_published sent
      rw [isLoaded] at kind named again sameType sameId
      change loadedType = pointType at sameType
      change loadedId = id at sameId
      subst sameType sameId
      obtain rfl := mapped_unique mapped loadedMapped
      obtain rfl := mapped_unique mapped again
      obtain rfl := Option.some.inj (found.symm.trans loadedFound)
      obtain rfl := Option.some.inj (found.symm.trans otherFound)
      refine ⟨kind.symm, (supported_iff short within).mpr ⟨?_, exactly.holds⟩, alone⟩
      exact exists_decodePoint_canPoint.mp ⟨_, decoded⟩
    · intro beyond
      by_contra neither
      obtain ⟨alone, truncates⟩ := not_or.mp neither
      obtain ⟨_, -, sent⟩ := published_of_truncates mapped alone found (not_not.mp truncates)
      obtain ⟨-, -, _, _, again, otherFound, exactly⟩ := own _ _ sent
      obtain rfl := mapped_unique mapped again
      obtain rfl := Option.some.inj (found.symm.trans otherFound)
      exact beyond exactly.within
  · intro unambiguous
    refine ⟨?_, ?_, readBatch_distinct⟩
    · intro _ _ sent
      obtain ⟨pointType, id, mapping, frame, mapped, alone, found, loaded, decoded, rfl⟩ :=
        exists_mapped_of_published sent
      have short := get_short found
      have truncates := exists_decodePoint_canPoint.mp ⟨_, decoded⟩
      obtain ⟨inFrame, beyond⟩ := unambiguous pointType id mapping frame mapped found
      have within : mapping.Within frame := by
        by_contra outside
        exact (beyond outside).elim alone fun untaken => untaken truncates
      obtain ⟨kind, supported, -⟩ := inFrame within
      rw [loaded]
      exact ⟨kind.symm, rfl, mapping, frame, mapped, found,
        (exact_iff_holds short within decoded).mpr supported.holds⟩
    · intro pointType id mapping frame mapped found within
      obtain ⟨-, supported, alone⟩ := (unambiguous pointType id mapping frame mapped found).1 within
      have truncates := ((supported_iff (get_short found) within).mp supported).1
      obtain ⟨_, -, sent⟩ := published_of_truncates mapped alone found truncates
      exact ⟨_, _, sent, rfl, rfl⟩

/-- The first byte, or the second one. -/
def sampleMapping (text : String) : Option CanProtocolMapping :=
  if text = "first" then some ⟨0x351, 0, 8, .uint8, 1.0, 0.0⟩
  else if text = "second" then some ⟨0x351, 8, 8, .uint8, 1.0, 0.0⟩
  else none

def sharedId : PointConfiguration where
  telemetry := [⟨1, some "first"⟩]
  signal := [⟨1, some "second"⟩]
  telemetryDistinct := by simp
  signalDistinct := by simp

def twoBytes : CanFrameCache := CanFrameCache.update ⟨∅⟩ 0x351 [5, 7]

/-- The signal replaces the telemetry point and is published as telemetry. -/
theorem shared_id_is_overwritten : ¬ KeepsIdentity sampleMapping sharedId twoBytes := by
  intro kept
  have found : twoBytes.get 0x351 = some [5, 7] := by
    simp [twoBytes, CanFrameCache.get, CanFrameCache.update, CanFrameData.fromSlice]
  have mapped : sharedId.Mapped sampleMapping .signal 1 ⟨0x351, 8, 8, .uint8, 1.0, 0.0⟩ :=
    .inr ⟨rfl, ⟨1, some "second"⟩, List.mem_singleton_self _, rfl, rfl⟩
  obtain ⟨source, dataPoint, sent, kind, -⟩ := kept.complete .signal 1 _ _ mapped found (by decide)
  obtain ⟨sameType, -⟩ := kept.own source dataPoint sent
  obtain ⟨-, -, telemetry⟩ := mem_published.mp sent
  rw [kind, telemetry] at sameType
  cases sameType

end AetherIot.Io.Can
