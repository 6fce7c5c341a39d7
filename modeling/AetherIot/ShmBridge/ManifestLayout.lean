import AetherIot.ShmBridge.Manifest

/-!
# The layout of a manifest

The points of the channels are placed as blocks, one for each kind.  Machine words agree with
numbers as long as all points have allocated slots, so a manifest that exists is such a placement.
-/

namespace AetherIot.ShmBridge

open Io OrderedMap Placement ChannelPointLayout

namespace PointerWidth

/-- Half of the machine words, which no allocation reaches. -/
def half (width : PointerWidth) : Nat := width.size / 2

variable (width : PointerWidth)

theorem size_eq : width.size = 2 * width.half := by
  cases width <;> decide

theorem two_dvd_half : 2 ∣ width.half := by
  cases width <;> decide

theorem four_le_half : 4 ≤ width.half := by
  cases width <;> decide

theorem maxSlots_lt_half : width.maxSlots < width.half := by
  cases width <;> decide

variable {width} {slot : Nat}

theorem alignToCacheLine_eq (small : slot ≤ width.half) :
    width.alignToCacheLine slot = alignUp 2 slot := by
  have size := width.size_eq
  have positive := width.four_le_half
  rw [alignToCacheLine, alignUp, Nat.mod_eq_of_lt (by omega)]

theorem saturatingAdd_eq {count : Nat} (small : slot + count ≤ width.half) :
    width.saturatingAdd slot count = slot + count := by
  have size := width.size_eq
  have positive := width.four_le_half
  exact Nat.min_eq_left (by omega)

theorem saturatingAdd_lt (slot count : Nat) : width.saturatingAdd slot count < width.size := by
  have size := width.size_eq
  have positive := width.four_le_half
  have bound := Nat.min_le_right (slot + count) (width.size - 1)
  rw [saturatingAdd]
  omega

theorem alignToCacheLine_lt (slot : Nat) : width.alignToCacheLine slot < width.size := by
  have size := width.size_eq
  have positive := width.four_le_half
  have remainder : (slot + 1) % width.size < width.size := Nat.mod_lt _ (by omega)
  rw [alignToCacheLine]
  omega

theorem add_wrappingSub {base : Nat} (baseSmall : base < width.size) (small : slot < width.size) :
    (base + width.wrappingSub slot base) % width.size = slot := by
  rw [wrappingSub, Nat.add_mod_mod]
  have sum : base + (slot + (width.size - base)) = slot + width.size := by omega
  rw [sum, Nat.add_mod_right, Nat.mod_eq_of_lt small]

end PointerWidth

open PointerWidth

/-- The points of a kind start on a cache line of their own. -/
def startsLine (counts : PointCounts) : PointKind → Bool
  | .telemetry => true
  | .command => hasActionSlots counts
  | .status | .action => false

def kindBlock (channelId : UInt32) (counts : PointCounts) (kind : PointKind) :
    Block (UInt32 × PointKind) :=
  ⟨(channelId, kind), startsLine counts kind, (counts kind).toNat⟩

def channelBlocks (entry : UInt32 × PointCounts) : List (Block (UInt32 × PointKind)) :=
  channelPointKinds.map (kindBlock entry.1 entry.2)

/-- The first slot of a kind of points. -/
def ChannelPointLayout.startOf (width : PointerWidth) (layout : ChannelPointLayout)
    (kind : PointKind) : Nat :=
  (layout.baseSlot + layout.typeOffsets kind) % width.size

/-- The blocks of a channel at the slots of its layout. -/
def placedKinds (width : PointerWidth) (entry : UInt32 × ChannelPointLayout) :
    List (Placed (UInt32 × PointKind)) :=
  channelPointKinds.map fun kind =>
    ⟨kindBlock entry.1 entry.2.typeCounts kind, entry.2.startOf width kind⟩

section

variable {width : PointerWidth} {nextSlot : Nat} {counts : PointCounts}

theorem typeCounts_layoutChannel :
    (layoutChannel width nextSlot counts).layout.typeCounts = counts := rfl

theorem starts_layoutChannel (width : PointerWidth) (nextSlot : Nat) (counts : PointCounts) :
    let base := width.alignToCacheLine nextSlot
    let status := width.saturatingAdd base (counts .telemetry).toNat
    let unaligned := width.saturatingAdd status (counts .status).toNat
    let command := if hasActionSlots counts then width.alignToCacheLine unaligned else unaligned
    let action := width.saturatingAdd command (counts .command).toNat
    let cursor := layoutChannel width nextSlot counts
    cursor.layout.startOf width .telemetry = base ∧ cursor.layout.startOf width .status = status ∧
      cursor.layout.startOf width .command = command ∧
      cursor.layout.startOf width .action = action ∧
      cursor.nextSlot = width.saturatingAdd action (counts .action).toNat := by
  intro base status unaligned command action cursor
  have baseSmall : base < width.size := alignToCacheLine_lt _
  have commandSmall : command < width.size := by
    simp only [command]
    split
    · exact alignToCacheLine_lt _
    · exact saturatingAdd_lt _ _
  have commandStep : cursor.layout.typeOffsets .command = width.wrappingSub command base ∧
      cursor.layout.typeOffsets .action = width.wrappingSub action base ∧
      cursor.nextSlot = width.saturatingAdd action (counts .action).toNat := by
    simp [cursor, action, command, unaligned, status, base, layoutChannel, channelPointKinds,
      LayoutCursor.advance, Function.update]
  refine ⟨add_wrappingSub baseSmall baseSmall, ?_, ?_, ?_, commandStep.2.2⟩
  · exact add_wrappingSub baseSmall (saturatingAdd_lt _ _)
  · rw [startOf, commandStep.1]
    exact add_wrappingSub baseSmall commandSmall
  · rw [startOf, commandStep.2.1]
    exact add_wrappingSub baseSmall (saturatingAdd_lt _ _)

variable {slot bound : Nat}

/-- A step of the cursor that stays below half of the words is a step of the placement. -/
theorem saturatingAdd_eq_of_bounded {count : Nat} (small : slot ≤ width.half)
    (bounded : 0 < count → slot + count ≤ width.half) :
    width.saturatingAdd slot count = slot + count ∧ slot + count ≤ width.half := by
  have sum : slot + count ≤ width.half := by
    obtain rfl | positive := Nat.eq_zero_or_pos count
    · exact small
    · exact bounded positive
  exact ⟨saturatingAdd_eq sum, sum⟩

theorem alignUp_le_half (small : slot ≤ width.half) : alignUp 2 slot ≤ width.half :=
  alignUp_le (by decide) small width.two_dvd_half

theorem place_layoutChannel (channelId : UInt32) (counts : PointCounts)
    (small : nextSlot ≤ width.half) (bounded : ∀ kind, 0 < (counts kind).toNat →
      (layoutChannel width nextSlot counts).layout.startOf width kind + (counts kind).toNat ≤
        width.half) :
    placedKinds width (channelId, (layoutChannel width nextSlot counts).layout) =
        place 2 nextSlot (channelBlocks (channelId, counts)) ∧
      (layoutChannel width nextSlot counts).nextSlot =
        finish 2 nextSlot (channelBlocks (channelId, counts)) ∧
      finish 2 nextSlot (channelBlocks (channelId, counts)) ≤ width.half := by
  obtain ⟨telemetry, status, command, action, next⟩ := starts_layoutChannel width nextSlot counts
  rw [alignToCacheLine_eq small] at telemetry status command action next
  obtain ⟨statusEq, statusSmall⟩ := saturatingAdd_eq_of_bounded (alignUp_le_half small)
    (telemetry ▸ bounded .telemetry)
  rw [statusEq] at status command action next
  obtain ⟨unalignedEq, unalignedSmall⟩ := saturatingAdd_eq_of_bounded statusSmall
    (status ▸ bounded .status)
  rw [unalignedEq, alignToCacheLine_eq unalignedSmall] at command action next
  have commandSmall : (layoutChannel width nextSlot counts).layout.startOf width .command ≤
      width.half := by
    rw [command]
    split
    · exact alignUp_le_half unalignedSmall
    · exact unalignedSmall
  obtain ⟨actionEq, actionSmall⟩ := saturatingAdd_eq_of_bounded commandSmall (bounded .command)
  rw [command] at actionEq actionSmall
  rw [actionEq] at action next
  obtain ⟨lastEq, lastSmall⟩ := saturatingAdd_eq_of_bounded actionSmall (action ▸ bounded .action)
  rw [lastEq] at next
  refine ⟨?_, next, lastSmall⟩
  rw [placedKinds, channelPointKinds, List.map_cons, List.map_cons, List.map_cons, List.map_cons,
    telemetry, status, command, action]
  rfl

theorem alignToCacheLine_le (width : PointerWidth) (below : slot ≤ bound) :
    width.alignToCacheLine slot ≤ alignUp 2 bound := by
  rw [alignToCacheLine, alignUp]
  have remainder := Nat.mod_le (slot + 1) width.size
  apply Nat.mul_le_mul_right
  exact Nat.div_le_div_right (by omega)

theorem saturatingAdd_le (width : PointerWidth) (below : slot ≤ bound) (count : Nat) :
    width.saturatingAdd slot count ≤ bound + count :=
  (Nat.min_le_left _ _).trans (Nat.add_le_add_right below count)

/-- Machine words do not exceed the numbers. -/
theorem startOf_le_place (channelId : UInt32) (kind : PointKind) :
    ∃ placed ∈ place 2 nextSlot (channelBlocks (channelId, counts)),
      placed.block = kindBlock channelId counts kind ∧
      (layoutChannel width nextSlot counts).layout.startOf width kind ≤ placed.start := by
  obtain ⟨telemetry, status, command, action, -⟩ := starts_layoutChannel width nextSlot counts
  have baseLe := alignToCacheLine_le width (le_refl nextSlot)
  have statusLe := saturatingAdd_le width baseLe (counts .telemetry).toNat
  have unalignedLe := saturatingAdd_le width statusLe (counts .status).toNat
  have commandLe : (layoutChannel width nextSlot counts).layout.startOf width .command ≤
      (kindBlock channelId counts .command).start 2
        (alignUp 2 nextSlot + (counts .telemetry).toNat + (counts .status).toNat) := by
    rw [command, Block.start, kindBlock, startsLine]
    split
    · exact alignToCacheLine_le width unalignedLe
    · exact unalignedLe
  have actionLe := saturatingAdd_le width commandLe (counts .command).toNat
  rw [command] at actionLe
  cases kind with
  | telemetry => exact ⟨_, .head _, rfl, telemetry ▸ baseLe⟩
  | status => exact ⟨_, .tail _ (.head _), rfl, status ▸ statusLe⟩
  | command => exact ⟨_, .tail _ (.tail _ (.head _)), rfl, commandLe⟩
  | action => exact ⟨_, .tail _ (.tail _ (.tail _ (.head _))), rfl, action ▸ actionLe⟩

theorem bounded_of_finish {channelId : UInt32}
    (fits : finish 2 nextSlot (channelBlocks (channelId, counts)) ≤ width.half) (kind : PointKind) :
    (layoutChannel width nextSlot counts).layout.startOf width kind + (counts kind).toNat ≤
      width.half := by
  obtain ⟨placed, member, block, below⟩ := startOf_le_place channelId kind
  obtain ⟨-, inside⟩ := bounds_of_mem_place (by decide) member
  have length : placed.block.length = (counts kind).toNat := by rw [block, kindBlock]
  rw [length] at inside
  exact (Nat.add_le_add_right below _).trans (inside.trans fits)

end

/-- The points of a layout have slots in the lower half of the words. -/
def ChannelPointLayout.Bounded (width : PointerWidth) (layout : ChannelPointLayout) : Prop :=
  ∀ kind, 0 < (layout.typeCounts kind).toNat →
    layout.startOf width kind + (layout.typeCounts kind).toNat ≤ width.half

section

variable {width : PointerWidth} {nextSlot : Nat} {channels : List (UInt32 × PointCounts)}

theorem counts_layoutChannels (width : PointerWidth) (nextSlot : Nat)
    (channels : List (UInt32 × PointCounts)) :
    (layoutChannels width nextSlot channels).1.map (fun entry => (entry.1, entry.2.typeCounts)) =
      channels := by
  induction channels generalizing nextSlot with
  | nil => rfl
  | cons _ _ ih =>
    rw [layoutChannels, List.map_cons, ih, typeCounts_layoutChannel]

theorem place_layoutChannels (small : nextSlot ≤ width.half)
    (bounded : ∀ entry ∈ (layoutChannels width nextSlot channels).1, entry.2.Bounded width) :
    (layoutChannels width nextSlot channels).1.flatMap (placedKinds width) =
        place 2 nextSlot (channels.flatMap channelBlocks) ∧
      (layoutChannels width nextSlot channels).2 =
        finish 2 nextSlot (channels.flatMap channelBlocks) := by
  induction channels generalizing nextSlot with
  | nil => exact ⟨rfl, rfl⟩
  | cons channel _ ih =>
    rw [layoutChannels, List.forall_mem_cons] at bounded
    obtain ⟨placed, next, nextSmall⟩ := place_layoutChannel channel.1 channel.2 small bounded.1
    rw [← next] at nextSmall
    obtain ⟨placedRest, last⟩ := ih nextSmall bounded.2
    rw [layoutChannels, List.flatMap_cons, List.flatMap_cons, place_append, finish_append, placed,
      ← next, placedRest]
    exact ⟨rfl, last⟩

theorem bounded_of_fits (fits : finish 2 nextSlot (channels.flatMap channelBlocks) ≤ width.half) :
    ∀ entry ∈ (layoutChannels width nextSlot channels).1, entry.2.Bounded width := by
  induction channels generalizing nextSlot with
  | nil =>
    intro _ member
    cases member
  | cons channel _ ih =>
    rw [List.flatMap_cons, finish_append] at fits
    have fitsFirst := (le_finish (by decide)).trans fits
    have bounded := bounded_of_finish fitsFirst
    have small := (le_finish (by decide)).trans fitsFirst
    obtain ⟨-, next, -⟩ := place_layoutChannel channel.1 channel.2 small fun kind _ => bounded kind
    rw [layoutChannels, List.forall_mem_cons]
    rw [← next] at fits
    exact ⟨fun kind _ => bounded kind, ih fits⟩

end

/-- Commands own the slots of their points, acquisition those of the others. -/
def commandOwned : PointKind → Bool
  | .command | .action => true
  | .telemetry | .status => false

/-- The channel and the owner of a block. -/
def slotOwner (key : UInt32 × PointKind) : UInt32 × Bool := (key.1, commandOwned key.2)

theorem count_eq_zero_of_hasActionSlots {counts : PointCounts}
    (absent : hasActionSlots counts = false) :
    (counts .command).toNat = 0 ∧ (counts .action).toNat = 0 := by
  rw [hasActionSlots, decide_eq_false_iff_not] at absent
  omega

theorem grouped_channelBlocks {channel : UInt32 × PointCounts}
    {later : List (Block (UInt32 × PointKind))}
    (grouped : ∀ current, Grouped slotOwner current later) (current : Option (UInt32 × Bool)) :
    Grouped slotOwner current (channelBlocks channel ++ later) := by
  apply grouped_of_aligned rfl
  intro _ telemetryOwner
  refine grouped_of_same (kindBlock channel.1 channel.2 .status) telemetryOwner ?_
  intro _ _
  cases owned : hasActionSlots channel.2 with
  | true =>
    apply grouped_of_aligned owned
    intro _ commandOwner
    refine grouped_of_same (kindBlock channel.1 channel.2 .action) commandOwner ?_
    exact fun _ _ => grouped _
  | false =>
    obtain ⟨noCommand, noAction⟩ := count_eq_zero_of_hasActionSlots owned
    exact grouped_of_empty noCommand fun _ => grouped_of_empty noAction grouped

theorem grouped_channels (channels : List (UInt32 × PointCounts))
    (current : Option (UInt32 × Bool)) :
    Grouped slotOwner current (channels.flatMap channelBlocks) := by
  induction channels generalizing current with
  | nil => trivial
  | cons _ _ ih => exact grouped_channelBlocks ih current

section

variable {width : PointerWidth} {layout : ChannelPointLayout} {kind : PointKind} {pointId : UInt32}
  {slot : Nat}

theorem ChannelPointLayout.slot_eq_some : layout.slot width kind pointId = some slot ↔
    pointId.toNat < (layout.typeCounts kind).toNat ∧
      (layout.startOf width kind + pointId.toNat) % width.size = slot := by
  rw [ChannelPointLayout.slot, ChannelPointLayout.startOf, Nat.mod_add_mod]
  split
  · rename_i outside
    have outside := UInt32.le_iff_toNat_le.mp outside
    exact iff_of_false (by simp) fun both => absurd both.1 (Nat.not_lt.mpr outside)
  · rename_i inside
    have inside := UInt32.lt_iff_toNat_lt.mp (UInt32.not_le.mp inside)
    rw [Option.some_inj, and_iff_right inside]

variable {channelId : UInt32} {address : PhysicalPointAddress}
  {layouts : BTreeMap UInt32 ChannelPointLayout}

theorem ChannelPointLayout.mem_points : (slot, address) ∈ layout.points width channelId ↔
      address.channelId = channelId ∧
        layout.slot width address.kind address.pointId = some slot := by
  obtain ⟨_, kind, pointId⟩ := address
  simp only [points, List.mem_flatMap, List.mem_filterMap, List.mem_range,
    Option.map_eq_some_iff, Prod.mk.injEq, PhysicalPointAddress.mk.injEq]
  constructor
  · rintro ⟨kind, -, _, -, _, located, rfl, rfl, rfl, rfl⟩
    exact ⟨rfl, located⟩
  · rintro ⟨rfl, located⟩
    refine ⟨kind, by cases kind <;> decide, pointId.toNat, (slot_eq_some.mp located).1, slot, ?_⟩
    rw [UInt32.ofNat_toNat]
    exact ⟨located, rfl, rfl, rfl, rfl⟩

theorem mem_layoutPoints : (slot, address) ∈ layoutPoints width layouts ↔
      (layouts[address.channelId]?.bind fun layout =>
        layout.slot width address.kind address.pointId) = some slot := by
  rw [layoutPoints, List.mem_flatMap, Option.bind_eq_some_iff]
  constructor
  · rintro ⟨⟨_, layout⟩, member, found⟩
    obtain ⟨rfl, located⟩ := mem_points.mp found
    exact ⟨layout, Std.ExtTreeMap.mem_toList_iff_getElem?_eq_some.mp member, located⟩
  · rintro ⟨layout, present, located⟩
    exact ⟨(address.channelId, layout), Std.ExtTreeMap.mem_toList_iff_getElem?_eq_some.mpr present,
      mem_points.mpr ⟨rfl, located⟩⟩

theorem ChannelPointLayout.nodup_points : (layout.points width channelId).Nodup := by
  refine List.nodup_flatMap.mpr ⟨fun kind _ => ?_, ?_⟩
  · refine List.pairwise_filterMap.mpr (List.nodup_range.imp_of_mem ?_)
    intro _ _ memberFirst memberSecond differs _ oneSlot _ twoSlot same
    obtain ⟨_, _, rfl⟩ := Option.map_eq_some_iff.mp oneSlot
    obtain ⟨_, _, rfl⟩ := Option.map_eq_some_iff.mp twoSlot
    simp only [Prod.mk.injEq, PhysicalPointAddress.mk.injEq, true_and] at same
    have bound := (layout.typeCounts kind).toNat_lt
    have firstSmall := (List.mem_range.mp memberFirst).trans bound
    have secondSmall := (List.mem_range.mp memberSecond).trans bound
    have numbers := congrArg UInt32.toNat same.2
    rw [UInt32.toNat_ofNat_of_lt' firstSmall, UInt32.toNat_ofNat_of_lt' secondSmall] at numbers
    exact differs numbers
  · have kinds : channelPointKinds.Pairwise (· ≠ ·) := by decide
    refine kinds.imp fun differs entry memberFirst memberSecond => ?_
    obtain ⟨_, _, found⟩ := List.mem_filterMap.mp memberFirst
    obtain ⟨_, _, foundToo⟩ := List.mem_filterMap.mp memberSecond
    obtain ⟨_, _, rfl⟩ := Option.map_eq_some_iff.mp found
    obtain ⟨_, _, same⟩ := Option.map_eq_some_iff.mp foundToo
    simp only [Prod.mk.injEq, PhysicalPointAddress.mk.injEq] at same
    exact differs same.2.2.1.symm

/-- No point occurs twice. -/
theorem nodup_layoutPoints : (layoutPoints width layouts).Nodup := by
  refine List.nodup_flatMap.mpr ⟨fun _ _ => nodup_points, ?_⟩
  refine (List.pairwise_map.mp (nodup_keys_toList layouts)).imp ?_
  intro _ _ differs _ memberFirst memberSecond
  obtain ⟨same, -⟩ := mem_points.mp memberFirst
  obtain ⟨sameToo, -⟩ := mem_points.mp memberSecond
  exact differs (same.symm.trans sameToo)

end

section

variable {width : PointerWidth} {counts : BTreeMap UInt32 PointCounts}
  {manifest : ChannelPointManifest}

def manifestBlocks (counts : BTreeMap UInt32 PointCounts) : List (Block (UInt32 × PointKind)) :=
  counts.toList.flatMap channelBlocks

theorem fromMap_isSome : (fromMap width counts).isSome ↔
    (layoutChannels width 0 counts.toList).2 ≤ width.maxSlots ∧
      ∀ point ∈ layoutPoints width ((∅ : BTreeMap UInt32 ChannelPointLayout).insertMany
        (layoutChannels width 0 counts.toList).1),
        point.1 < (layoutChannels width 0 counts.toList).2 := by
  rw [fromMap]
  split
  · rename_i excessive
    exact iff_of_false (by simp) fun both => absurd both.1 (Nat.not_le.mpr excessive)
  · rename_i allocated
    rw [Option.isSome_map, fill_isSome, List.length_replicate,
      and_iff_right (Nat.not_lt.mp allocated)]

theorem fromMap_eq_some (built : fromMap width counts = some manifest) :
    manifest.layouts = (∅ : BTreeMap UInt32 ChannelPointLayout).insertMany
        (layoutChannels width 0 counts.toList).1 ∧
      manifest.slotCount = (layoutChannels width 0 counts.toList).2 ∧
      manifest.pointCount = (layoutPoints width manifest.layouts).length ∧
      fill (List.replicate manifest.slotCount none) (layoutPoints width manifest.layouts) =
        some manifest.physicalPoints := by
  rw [fromMap] at built
  split at built
  · cases built
  · obtain ⟨_, filled, rfl⟩ := Option.map_eq_some_iff.mp built
    exact ⟨rfl, rfl, rfl, filled⟩

variable {channelId : UInt32} {layout : ChannelPointLayout}

theorem layouts_getElem? : ((∅ : BTreeMap UInt32 ChannelPointLayout).insertMany
        (layoutChannels width 0 counts.toList).1)[channelId]? = some layout ↔
      (channelId, layout) ∈ (layoutChannels width 0 counts.toList).1 := by
  apply getElem?_insertMany_empty
  have channels := congrArg (List.map Prod.fst) (counts_layoutChannels width 0 counts.toList)
  rw [List.map_map] at channels
  exact channels ▸ nodup_keys_toList counts

theorem typeCounts_of_layout {points : PointCounts} :
    (∃ layout, ((∅ : BTreeMap UInt32 ChannelPointLayout).insertMany
        (layoutChannels width 0 counts.toList).1)[channelId]? = some layout ∧
          layout.typeCounts = points) ↔ counts[channelId]? = some points := by
  rw [← Std.ExtTreeMap.mem_toList_iff_getElem?_eq_some,
    ← counts_layoutChannels width 0 counts.toList, List.mem_map]
  simp only [layouts_getElem?, counts_layoutChannels, Prod.exists, Prod.mk.injEq]
  constructor
  · rintro ⟨layout, member, rfl⟩
    exact ⟨channelId, layout, member, rfl, rfl⟩
  · rintro ⟨_, layout, member, rfl, rfl⟩
    exact ⟨layout, member, rfl⟩

/-- The points of a layout are in the lower half if all of them are among the allocated slots. -/
theorem ChannelPointLayout.bounded_of_slots {slotCount : Nat}
    (allocated : slotCount ≤ width.maxSlots)
    (inside : ∀ kind pointId slot, layout.slot width kind pointId = some slot → slot < slotCount) :
    layout.Bounded width := by
  intro kind nonempty
  have half := width.maxSlots_lt_half
  have size := width.size_eq
  by_contra excessive
  have start : layout.startOf width kind < width.size := Nat.mod_lt _ (by omega)
  have beyond : ∃ number < (layout.typeCounts kind).toNat,
      slotCount ≤ (layout.startOf width kind + number) % width.size := by
    obtain later | earlier := Nat.le_total slotCount (layout.startOf width kind)
    · exact ⟨0, nonempty, by rw [Nat.add_zero, Nat.mod_eq_of_lt start]; exact later⟩
    · refine ⟨slotCount - layout.startOf width kind, by omega, ?_⟩
      rw [Nat.add_sub_cancel' earlier, Nat.mod_eq_of_lt (by omega)]
  obtain ⟨number, counted, outside⟩ := beyond
  have number_lt := counted.trans (layout.typeCounts kind).toNat_lt
  have located := inside kind (UInt32.ofNat number) _ (slot_eq_some.mpr
    ⟨by rwa [UInt32.toNat_ofNat_of_lt' number_lt], rfl⟩)
  rw [UInt32.toNat_ofNat_of_lt' number_lt] at located
  exact absurd located (Nat.not_lt.mpr outside)

def Located (counts : BTreeMap UInt32 PointCounts) (address : PhysicalPointAddress) (slot : Nat) :
    Prop :=
  ∃ placed ∈ place 2 0 (manifestBlocks counts),
    placed.block.key = (address.channelId, address.kind) ∧ placed.Covers slot ∧
      slot = placed.start + address.pointId.toNat

theorem located_of_bounded
    (bounded : ∀ entry ∈ (layoutChannels width 0 counts.toList).1, entry.2.Bounded width)
    {address : PhysicalPointAddress} {slot : Nat}
    (member : (slot, address) ∈ layoutPoints width
      ((∅ : BTreeMap UInt32 ChannelPointLayout).insertMany
        (layoutChannels width 0 counts.toList).1)) :
    Located counts address slot := by
  obtain ⟨layout, present, located⟩ := Option.bind_eq_some_iff.mp (mem_layoutPoints.mp member)
  have entry := layouts_getElem?.mp present
  obtain ⟨counted, rfl⟩ := slot_eq_some.mp located
  have small : layout.startOf width address.kind + (layout.typeCounts address.kind).toNat ≤
      width.half := bounded _ entry address.kind (Nat.zero_lt_of_lt counted)
  have size := width.size_eq
  rw [Nat.mod_eq_of_lt (by omega)]
  refine ⟨⟨kindBlock address.channelId layout.typeCounts address.kind,
    layout.startOf width address.kind⟩, ?_, rfl, ⟨Nat.le_add_right .., ?_⟩, rfl⟩
  · rw [manifestBlocks, ← (place_layoutChannels (Nat.zero_le _) bounded).1]
    refine List.mem_flatMap.mpr ⟨_, entry, List.mem_map.mpr ⟨address.kind, ?_, rfl⟩⟩
    cases address.kind <;> decide
  · exact Nat.add_lt_add_left counted _

theorem bounded_of_isSome (built : (fromMap width counts).isSome) :
    ∀ entry ∈ (layoutChannels width 0 counts.toList).1, entry.2.Bounded width := by
  obtain ⟨allocated, inside⟩ := fromMap_isSome.mp built
  intro entry member
  refine bounded_of_slots allocated fun kind pointId slot located => ?_
  refine inside (slot, ⟨entry.1, kind, pointId⟩) (mem_layoutPoints.mpr ?_)
  exact Option.bind_eq_some_iff.mpr ⟨entry.2, layouts_getElem?.mpr member, located⟩

theorem fromMap_isSome_iff_fits :
    (fromMap width counts).isSome ↔ finish 2 0 (manifestBlocks counts) ≤ width.maxSlots := by
  constructor
  · intro built
    obtain ⟨-, last⟩ := place_layoutChannels (Nat.zero_le _) (bounded_of_isSome built)
    exact last ▸ (fromMap_isSome.mp built).1
  · intro fits
    have bounded := bounded_of_fits (fits.trans width.maxSlots_lt_half.le)
    obtain ⟨-, last⟩ := place_layoutChannels (Nat.zero_le _) bounded
    refine fromMap_isSome.mpr ⟨last ▸ fits, fun point member => ?_⟩
    obtain ⟨_, member, -, covers, -⟩ := located_of_bounded bounded member
    rw [last]
    exact covers.2.trans_le (bounds_of_mem_place (by decide) member).2

section

variable (built : fromMap width counts = some manifest)

include built

variable {address first second : PhysicalPointAddress} {slot : Nat}

theorem located_of_slotFor (found : manifest.slotFor width address = some slot) :
    Located counts address slot := by
  have bounded := bounded_of_isSome (Option.isSome_of_eq_some built)
  obtain ⟨layouts, -, -, -⟩ := fromMap_eq_some built
  apply located_of_bounded bounded
  rw [← layouts]
  exact mem_layoutPoints.mpr found

theorem slotFor_isSome :
    (manifest.slotFor width address).isSome ↔ ∃ points, counts[address.channelId]? = some points ∧
      address.pointId < points address.kind := by
  obtain ⟨layouts, -, -, -⟩ := fromMap_eq_some built
  rw [Option.isSome_iff_exists]
  constructor
  · rintro ⟨_, found⟩
    obtain ⟨layout, present, located⟩ := Option.bind_eq_some_iff.mp found
    refine ⟨layout.typeCounts, typeCounts_of_layout.mp ⟨layout, layouts ▸ present, rfl⟩, ?_⟩
    exact UInt32.lt_iff_toNat_lt.mpr (slot_eq_some.mp located).1
  · rintro ⟨_, present, counted⟩
    obtain ⟨layout, laid, rfl⟩ := typeCounts_of_layout.mpr present
    exact ⟨_, Option.bind_eq_some_iff.mpr ⟨layout, layouts ▸ laid,
      slot_eq_some.mpr ⟨UInt32.lt_iff_toNat_lt.mp counted, rfl⟩⟩⟩

theorem slotFor_inj (found : manifest.slotFor width first = some slot)
    (foundToo : manifest.slotFor width second = some slot) : first = second := by
  obtain ⟨_, member, key, covers, _⟩ := located_of_slotFor built found
  obtain ⟨_, memberToo, keyToo, covered, _⟩ := located_of_slotFor built foundToo
  obtain rfl := eq_of_covers (by decide) member memberToo covers covered
  have numbers : first.pointId.toNat = second.pointId.toNat := by omega
  obtain ⟨channel, kind⟩ := Prod.mk.inj (key.symm.trans keyToo)
  obtain ⟨_, _, _⟩ := first
  obtain ⟨_, _, _⟩ := second
  exact PhysicalPointAddress.mk.injEq .. ▸ ⟨channel, kind, UInt32.toNat_inj.mp numbers⟩

theorem slotFor_lt (found : manifest.slotFor width address = some slot) :
    slot < manifest.slotCount := by
  obtain ⟨_, member, -, covers, -⟩ := located_of_slotFor built found
  have bounded := bounded_of_isSome (Option.isSome_of_eq_some built)
  obtain ⟨-, slotCount, -, -⟩ := fromMap_eq_some built
  rw [slotCount, (place_layoutChannels (Nat.zero_le _) bounded).2]
  exact covers.2.trans_le (bounds_of_mem_place (by decide) member).2

theorem nodup_slots : ((layoutPoints width manifest.layouts).map Prod.fst).Nodup := by
  refine nodup_layoutPoints.map_on ?_
  rintro ⟨_, _⟩ member ⟨_, _⟩ memberToo rfl
  rw [slotFor_inj built (mem_layoutPoints.mp member) (mem_layoutPoints.mp memberToo)]

/-- The table of points inverts their slots. -/
theorem physicalPointAt_eq_some : manifest.physicalPointAt slot = some address ↔
      manifest.slotFor width address = some slot := by
  obtain ⟨-, -, -, filled⟩ := fromMap_eq_some built
  rw [ChannelPointManifest.physicalPointAt, Option.join_eq_some_iff,
    getElem?_fill (nodup_slots built) filled, mem_layoutPoints]
  refine or_iff_left fun unwritten => ?_
  have replicated := List.mem_of_getElem? unwritten.2
  cases List.eq_of_mem_replicate replicated

theorem ncard_slots : {slot | ∃ address, manifest.slotFor width address = some slot}.ncard =
    manifest.pointCount := by
  obtain ⟨-, -, pointCount, -⟩ := fromMap_eq_some built
  have slots : {slot | ∃ address, manifest.slotFor width address = some slot} =
      ((layoutPoints width manifest.layouts).map Prod.fst).toFinset := by
    ext slot
    simp only [Set.mem_ofPred_eq, List.coe_toFinset, List.mem_map, Prod.exists, exists_and_right,
      exists_eq_right]
    exact exists_congr fun address => mem_layoutPoints.symm
  rw [slots, Set.ncard_coe_finset, List.toFinset_card_of_nodup (nodup_slots built),
    List.length_map, pointCount]

/-- The points on a cache line belong to one channel and one owner. -/
theorem slotOwner_eq_of_line {other : Nat} (found : manifest.slotFor width first = some slot)
    (foundToo : manifest.slotFor width second = some other) (line : slot / 2 = other / 2) :
    first.channelId = second.channelId ∧ commandOwned first.kind = commandOwned second.kind := by
  obtain ⟨_, member, key, covers, -⟩ := located_of_slotFor built found
  obtain ⟨_, memberToo, keyToo, covered, -⟩ := located_of_slotFor built foundToo
  have owner := group_eq_of_shared (by decide) (grouped_channels counts.toList none)
    (fun _ => Nat.dvd_zero 2) member memberToo covers covered line
  rw [key, keyToo] at owner
  exact Prod.mk.inj owner

end

/-- A manifest exists exactly if its slots can be allocated.  It gives every point of the channels a
slot of its own below the number of slots, its table inverts the slots, and a cache line is not
shared by channels or by owners. -/
theorem manifest_separates_points (width : PointerWidth) (counts : BTreeMap UInt32 PointCounts) :
    ((fromMap width counts).isSome ↔ finish 2 0 (manifestBlocks counts) ≤ width.maxSlots) ∧
    ∀ manifest, fromMap width counts = some manifest →
      (∀ address : PhysicalPointAddress, (manifest.slotFor width address).isSome ↔
        ∃ points, counts[address.channelId]? = some points ∧
          address.pointId < points address.kind) ∧
      (∀ first second slot, manifest.slotFor width first = some slot →
        manifest.slotFor width second = some slot → first = second) ∧
      {slot | ∃ address, manifest.slotFor width address = some slot}.ncard = manifest.pointCount ∧
      (∀ address slot, manifest.slotFor width address = some slot → slot < manifest.slotCount) ∧
      (∀ slot address, manifest.physicalPointAt slot = some address ↔
        manifest.slotFor width address = some slot) ∧
      ∀ line first second, manifest.physicalPointAt (2 * line) = some first →
        manifest.physicalPointAt (2 * line + 1) = some second →
        first.channelId = second.channelId ∧
          commandOwned first.kind = commandOwned second.kind := by
  refine ⟨fromMap_isSome_iff_fits, fun manifest built => ?_⟩
  refine ⟨fun _ => slotFor_isSome built, fun _ _ _ => slotFor_inj built, ncard_slots built,
    fun _ _ => slotFor_lt built, fun _ _ => physicalPointAt_eq_some built, ?_⟩
  intro _ _ _ even odd
  refine slotOwner_eq_of_line built ((physicalPointAt_eq_some built).mp even)
    ((physicalPointAt_eq_some built).mp odd) ?_
  omega

/-- A channel with one point of each kind occupies two cache lines. -/
theorem manifest_separates_points_one :
    ∃ manifest, fromMap .bits64 ((∅ : BTreeMap UInt32 PointCounts).insert 7 fun _ => 1) =
        some manifest ∧
      manifest.slotFor .bits64 ⟨7, .action, 0⟩ = some 3 ∧
      manifest.physicalPointAt 3 = some ⟨7, .action, 0⟩ := by
  have layout := manifest_separates_points .bits64
    ((∅ : BTreeMap UInt32 PointCounts).insert 7 fun _ => 1)
  obtain ⟨manifest, built⟩ := Option.isSome_iff_exists.mp (layout.1.mpr (by decide +kernel))
  obtain ⟨-, -, -, -, inverse, -⟩ := layout.2 manifest built
  have slot : (fromMap .bits64 ((∅ : BTreeMap UInt32 PointCounts).insert 7 fun _ => 1)).map
      (fun manifest => manifest.slotFor .bits64 ⟨7, .action, 0⟩) = some (some 3) := by
    decide +kernel
  rw [built] at slot
  have found := Option.some.inj slot
  exact ⟨manifest, built, found, (inverse 3 ⟨7, .action, 0⟩).mpr found⟩

end

end AetherIot.ShmBridge
