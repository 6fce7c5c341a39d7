import AetherIot.Foundation.OrderedMap
import AetherIot.Foundation.Placement
import AetherIot.Io.CommandListener

/-!
# The channel point manifest

A manifest assigns a slot of shared memory to every point of every channel.  The channels are laid
out in the order of their ids, the kinds of points of a channel one after another.  A channel starts
on its own cache line, and so do the slots that commands own.  Slots are counted in machine words.
-/

namespace AetherIot.ShmBridge

open Io OrderedMap Placement

/-- The width of a machine word. -/
inductive PointerWidth where
  | bits32
  | bits64
  deriving DecidableEq

namespace PointerWidth

/-- The number of values of a machine word. -/
def size : PointerWidth → Nat
  | bits32 => 2 ^ 32
  | bits64 => 2 ^ 64

variable (width : PointerWidth)

/-- The most slots whose addresses, of twelve bytes each, can be allocated. -/
def maxSlots : Nat := (width.size / 2 - 1) / 12

def saturatingAdd (slot count : Nat) : Nat :=
  min (slot + count) (width.size - 1)

/-- Round up to an even slot. -/
def alignToCacheLine (slot : Nat) : Nat := (slot + 1) % width.size / 2 * 2

def wrappingSub (slot base : Nat) : Nat :=
  (slot + (width.size - base)) % width.size

end PointerWidth

/-- The kinds of points in the order of their slots. -/
def channelPointKinds : List PointKind := [.telemetry, .status, .command, .action]

abbrev PointCounts : Type := PointKind → UInt32

structure PhysicalPointAddress where
  channelId : UInt32
  kind : PointKind
  pointId : UInt32
  deriving DecidableEq

structure ChannelPointLayout where
  baseSlot : Nat
  typeOffsets : PointKind → Nat
  typeCounts : PointCounts

variable (width : PointerWidth)

def ChannelPointLayout.slot (layout : ChannelPointLayout) (kind : PointKind) (pointId : UInt32) :
    Option Nat :=
  if layout.typeCounts kind ≤ pointId then none
  else some ((layout.baseSlot + layout.typeOffsets kind + pointId.toNat) % width.size)

def hasActionSlots (counts : PointCounts) : Bool :=
  0 < min ((counts .command).toNat + (counts .action).toNat) (2 ^ 32 - 1)

/-- The layout of a channel while its kinds are laid out. -/
structure LayoutCursor where
  layout : ChannelPointLayout
  nextSlot : Nat

def LayoutCursor.advance (cursor : LayoutCursor) (kind : PointKind) : LayoutCursor :=
  let start :=
    if kind = .command ∧ hasActionSlots cursor.layout.typeCounts then
      width.alignToCacheLine cursor.nextSlot
    else cursor.nextSlot
  let offset := width.wrappingSub start cursor.layout.baseSlot
  { layout := { cursor.layout with
      typeOffsets := Function.update cursor.layout.typeOffsets kind offset }
    nextSlot := width.saturatingAdd start (cursor.layout.typeCounts kind).toNat }

def layoutChannel (nextSlot : Nat) (counts : PointCounts) : LayoutCursor :=
  let baseSlot := width.alignToCacheLine nextSlot
  channelPointKinds.foldl (LayoutCursor.advance width) ⟨⟨baseSlot, fun _ => 0, counts⟩, baseSlot⟩

/-- The layouts of channels, and the next slot after them. -/
def layoutChannels (width : PointerWidth) :
    Nat → List (UInt32 × PointCounts) → List (UInt32 × ChannelPointLayout) × Nat
  | nextSlot, [] => ([], nextSlot)
  | nextSlot, (channelId, counts) :: rest =>
    let cursor := layoutChannel width nextSlot counts
    let (layouts, last) := layoutChannels width cursor.nextSlot rest
    ((channelId, cursor.layout) :: layouts, last)

/-- The points of a channel with their slots. -/
def ChannelPointLayout.points (channelId : UInt32) (layout : ChannelPointLayout) :
    List (Nat × PhysicalPointAddress) :=
  channelPointKinds.flatMap fun kind =>
    (List.range (layout.typeCounts kind).toNat).filterMap fun pointId =>
      (layout.slot width kind (UInt32.ofNat pointId)).map fun slot =>
        (slot, ⟨channelId, kind, UInt32.ofNat pointId⟩)

/-- The points of all channels with their slots. -/
def layoutPoints (layouts : BTreeMap UInt32 ChannelPointLayout) :
    List (Nat × PhysicalPointAddress) :=
  layouts.toList.flatMap fun entry => entry.2.points width entry.1

structure ChannelPointManifest where
  layouts : BTreeMap UInt32 ChannelPointLayout
  physicalPoints : List (Option PhysicalPointAddress)
  pointCount : Nat
  slotCount : Nat

/-- The manifest of channels.  There is none if the slots cannot be allocated, or if a point has no
slot among them. -/
def fromMap (counts : BTreeMap UInt32 PointCounts) : Option ChannelPointManifest :=
  let laid := layoutChannels width 0 counts.toList
  let layouts : BTreeMap UInt32 ChannelPointLayout := Std.ExtTreeMap.insertMany ∅ laid.1
  let points := layoutPoints width layouts
  if width.maxSlots < laid.2 then none
  else (fill (List.replicate laid.2 none) points).map fun physicalPoints =>
    { layouts, physicalPoints, pointCount := points.length, slotCount := laid.2 }

namespace ChannelPointManifest

def slotFor (width : PointerWidth) (manifest : ChannelPointManifest)
    (address : PhysicalPointAddress) : Option Nat :=
  manifest.layouts[address.channelId]?.bind fun layout =>
    layout.slot width address.kind address.pointId

def physicalPointAt (manifest : ChannelPointManifest) (slot : Nat) : Option PhysicalPointAddress :=
  manifest.physicalPoints[slot]?.join

end ChannelPointManifest

end AetherIot.ShmBridge
