import AetherIot.Foundation.LockedSection
import AetherIot.ShmBridge.TopologyCommit

/-!
# Topology publications

Publishers and readers are programs over the three files of a topology.  A publisher holds the
topology lock exclusively from the allocation of its epoch to the witness, a reader holds it shared;
a publisher may die at any request.
-/

namespace AetherIot.ShmBridge

open Bytes MachineText Dataplane Outbox LockedSection

/-- The two planes, the witness and its staging file.  `committed` lists the witnesses that were
ever published and their publications; it is not stored. -/
structure TopologyStore where
  point : Option PlaneFile
  health : Option PlaneFile
  witness : Option (List UInt8)
  staging : Option (List UInt8)
  committed : List (TopologyPublicationCommit × Nat)
  deriving DecidableEq

namespace TopologyStore

/-- Planes that no publication created and no witness. -/
def initial (point health : Option PlaneFile) : TopologyStore where
  point := point.map fun file => { file with publisher := none }
  health := health.map fun file => { file with publisher := none }
  witness := none
  staging := none
  committed := []

def plane (store : TopologyStore) : Plane → Option PlaneFile
  | .point => store.point
  | .health => store.health

def setPlane (store : TopologyStore) (plane : Plane) (file : PlaneFile) : TopologyStore :=
  match plane with
  | .point => { store with point := some file }
  | .health => { store with health := some file }

end TopologyStore

def PlaneFile.withGeneration (file : PlaneFile) (generation : UInt64) : PlaneFile :=
  { file with header := { file.header with writerGeneration := generation } }

/-- The error of a writer of the plane.  The point writer maps data plane errors on its own. -/
def Plane.mapError : Plane → DataplaneError → PortError
  | .point, .invalidLayout message =>
    ⟨.conflict, "invalid shared-memory layout: " ++ message⟩
  | .health, error => mapDataplaneError error

/-- What the environment decides at a request: whether it fails, and a clock. -/
structure World where
  failure : Option PortError
  clock : UInt64

inductive TopologyRequest where
  | acquireAuthority (plane : Plane) (exclusive : Bool)
  | planeExists (plane : Plane)
  | mapPlane (plane : Plane)
  | generationSeed
  | validateAuthoritativePath (plane : Plane)
  | stagePlane (plane : Plane)
  | beginGenerationSwap (plane : Plane) (held : Bool)
  | restoreGeneration (plane : Plane) (generation : UInt64)
  | renamePlane (plane : Plane) (file : PlaneFile)
  | composeGeneration
  | readWitness
  | createDirectory
  | writeStaging (bytes : List UInt8)
  | removeStaging
  | renameStaging (commit : TopologyPublicationCommit) (publisher : Nat)
  | syncDirectory

abbrev TopologyRequest.Reply : TopologyRequest → Type
  | .planeExists _ => Except PortError Bool
  | .mapPlane _ => Except PortError PlaneFile
  | .generationSeed => UInt64
  | .beginGenerationSwap _ _ => Except PortError (Option UInt64)
  | .readWitness => Except PortError (List UInt8)
  | .restoreGeneration _ _ | .removeStaging => Unit
  | .acquireAuthority _ _ | .validateAuthoritativePath _ | .stagePlane _ | .renamePlane _ _
  | .composeGeneration | .createDirectory | .writeStaging _ | .renameStaging _ _
  | .syncDirectory => Except PortError Unit

/-- A request that either fails and changes nothing, or has its effect. -/
def World.attempt {α : Type} (world : World) (store : TopologyStore)
    (effect : TopologyStore × Except PortError α) : TopologyStore × Except PortError α :=
  match world.failure with
  | some failure => (store, .error failure)
  | none => effect

/-- Mark the canonical plane odd before its replacement.  A writer that holds no generation of its
own leaves a missing or unstable plane alone. -/
def TopologyStore.beginGenerationSwap (store : TopologyStore) (plane : Plane) (held : Bool) :
    TopologyStore × Except PortError (Option UInt64) :=
  match store.plane plane with
  | none =>
    (store, if held then .error ⟨.unavailable, "stat authoritative SHM path"⟩ else .ok none)
  | some file =>
    let generation := file.header.writerGeneration
    if generation = 0 ∨ generation &&& 1 ≠ 0 then
      (store, if held then .error (plane.mapError (.invalidLayout
        s!"writer generation {generation} is not stable before canonical replacement"))
        else .ok none)
    else (store.setPlane plane (file.withGeneration (generation ||| 1)), .ok (some generation))

def TopologyStore.serve (store : TopologyStore) (world : World) :
    (request : TopologyRequest) → TopologyStore × request.Reply
  | .planeExists plane => world.attempt store (store, .ok (store.plane plane).isSome)
  | .mapPlane plane =>
    world.attempt store (store, match store.plane plane with
      | none => .error ⟨.unavailable, "open SHM file"⟩
      | some file => .ok file)
  | .generationSeed => (store, world.clock)
  | .beginGenerationSwap plane held =>
    world.attempt store (store.beginGenerationSwap plane held)
  | .restoreGeneration plane generation =>
    (match store.plane plane with
      | none => store
      | some file => store.setPlane plane (file.withGeneration generation), ())
  | .renamePlane plane file => world.attempt store (store.setPlane plane file, .ok ())
  | .readWitness =>
    world.attempt store (store, match store.witness with
      | none => .error (transitionError "read SHM topology commit")
      | some bytes => .ok bytes)
  | .writeStaging bytes =>
    match world.failure with
    | some failure =>
      ({ store with staging := some (bytes.take world.clock.toNat) }, .error failure)
    | none => ({ store with staging := some bytes }, .ok ())
  | .removeStaging => ({ store with staging := none }, ())
  | .renameStaging commit publisher =>
    world.attempt store <| match store.staging with
      | none => (store, .error ⟨.unavailable, "publish SHM topology commit"⟩)
      | some bytes =>
        ({ store with
            witness := some bytes
            staging := none
            committed := store.committed ++ [(commit, publisher)] }, .ok ())
  | .acquireAuthority _ _ | .validateAuthoritativePath _ | .stagePlane _ | .composeGeneration
  | .createDirectory | .syncDirectory => world.attempt store (store, .ok ())

abbrev TopologyProgram (α : Type) : Type := Interaction TopologyRequest.Reply PortError α

def request (request : TopologyRequest) : TopologyProgram request.Reply := .send request

def attempt {α : Type} (result : Except PortError α) : TopologyProgram α := .ofExcept result

structure TopologyPaths where
  pointPath : String
  healthPath : String

def topologyCommitPathFromShm (pointPath : String) : String := pointPath ++ ".topology-commit"

variable (paths : TopologyPaths)

def TopologyPaths.plane : Plane → String
  | .point => paths.pointPath
  | .health => paths.healthPath

def validatePlanePaths : Except PortError Unit :=
  if paths.pointPath = paths.healthPath then
    .error ⟨.invalidData, "point and channel-health SHM paths must be distinct"⟩
  else if topologyCommitPathFromShm paths.pointPath = paths.healthPath then
    .error ⟨.invalidData, "channel-health SHM path must not alias the topology commit witness"⟩
  else .ok ()

/-- Shared leases of both planes, in the order of their paths. -/
def acquireAuthorityPair : TopologyProgram Unit :=
  let order : Plane × Plane :=
    if paths.pointPath ≤ paths.healthPath then (.point, .health) else (.health, .point)
  do
    attempt (← request (.acquireAuthority order.1 false))
    attempt (← request (.acquireAuthority order.2 false))

/-- Open a plane for reading. -/
def openPlane (plane : Plane) : TopologyProgram PlaneFile := do
  let file ← attempt (← request (.mapPlane plane))
  attempt ((openReader (paths.plane plane) file).mapError mapDataplaneError)

def observedPlaneEpoch (plane : Plane) :
    TopologyProgram (Option UInt64) := do
  if ← attempt (← request (.planeExists plane)) then
    let reader ← openPlane paths plane
    if reader.publicationEpoch = 0 then
      return none
    else
      attempt (validateTopologyPublicationEpoch reader.publicationEpoch)
      return some reader.publicationEpoch
  else
    return none

def readTopologyPublicationCommit :
    TopologyProgram (Except PortError TopologyPublicationCommit) := do
  return (← request .readWitness) >>= TopologyPublicationCommit.decode

/-- The floor of the next epoch.  An unreadable witness does not count. -/
def epochFloor (point health : Option UInt64)
    (witness : Except PortError TopologyPublicationCommit) : UInt64 :=
  let planes := max (point.getD 0) (health.getD 0)
  match witness with
  | .ok commit => max planes commit.publicationEpoch
  | .error _ => planes

def nextPublicationEpoch : TopologyProgram UInt64 := do
  attempt (validatePlanePaths paths)
  acquireAuthorityPair paths
  let point ← observedPlaneEpoch paths .point
  let health ← observedPlaneEpoch paths .health
  let floor := epochFloor point health (← readTopologyPublicationCommit)
  if floor = reservedEpoch then
    attempt (.error ⟨.invalidData, "coordinated SHM topology publication epoch space is exhausted"⟩)
  else
    attempt (validateTopologyPublicationEpoch (floor + 1))
    return floor + 1

structure PlaneManifest where
  slotCount : Nat
  layoutHash : UInt64
  deriving DecidableEq

/-- What a writer handle remembers of the generation that it holds. -/
structure HeldGeneration where
  publicationEpoch : UInt64
  writerHeartbeat : UInt64
  deriving DecidableEq

def newGeneration (clock : UInt64) : UInt64 := max (clock &&& ~~~1) 2

/-- A fresh plane. -/
def createAtEpoch (maxSlots : UInt32) (manifest : PlaneManifest) (writerHeartbeat : UInt64)
    (publicationEpoch : UInt64) (clock : UInt64) (publisher : Nat) :
    Except DataplaneError PlaneFile :=
  if manifest.slotCount > maxSlots.toNat then
    .error (.invalidLayout
      s!"slot_count {manifest.slotCount} exceeds declared max_slots {maxSlots}")
  else .ok
    { mappedLength := calculateFileSize maxSlots
      header :=
        { magic := unifiedMagic
          version := unifiedVersion
          maxSlots
          slotCount := UInt32.ofNat manifest.slotCount
          writerHeartbeat
          routingHash := manifest.layoutHash
          writerGeneration := newGeneration clock }
      publicationEpoch
      publisher := some publisher }

/-- Drop an invalidation that was not committed. -/
def restoreGeneration (plane : Plane) : Option UInt64 → TopologyProgram Unit
  | some generation => request (.restoreGeneration plane generation)
  | none => return ()

/-- Rename a staged plane onto the canonical path.  If that fails the standing plane is valid
again. -/
def commitGenerationSwap (plane : Plane) (file : PlaneFile) (invalidated : Option UInt64) :
    TopologyProgram Unit := do
  match ← request (.renamePlane plane file) with
  | .ok () => return ()
  | .error failure =>
    restoreGeneration plane invalidated
    attempt (.error failure)

section

variable (plane : Plane) (maxSlots : UInt32) (manifest : PlaneManifest)
  (held : Option HeldGeneration)

def publishPlane (publicationEpoch : UInt64) (publisher : Nat) : TopologyProgram SlotWriter := do
  let clock ← request .generationSeed
  let heartbeat := match plane, held with
    | .health, some previous => previous.writerHeartbeat
    | _, _ => 0
  let file ← attempt ((createAtEpoch maxSlots manifest heartbeat publicationEpoch clock
    publisher).mapError plane.mapError)
  attempt (← request (.stagePlane plane))
  let invalidated ← attempt (← request (.beginGenerationSwap plane held.isSome))
  commitGenerationSwap plane file invalidated
  let reopened ← attempt (← request (.mapPlane plane))
  attempt ((SlotWriter.openExisting (paths.plane plane) reopened.mappedLength reopened.header
    manifest.slotCount manifest.layoutHash).mapError plane.mapError)

def refuseUsedEpoch (publicationEpoch : UInt64) : Except PortError Unit :=
  if held.map (·.publicationEpoch) = some publicationEpoch then
    .error ⟨.invalidData,
      s!"{plane.label} SHM publication epoch {publicationEpoch} was already used"⟩
  else .ok ()

def validateCapacity : Except PortError Unit :=
  if manifest.slotCount ≤ maxSlots.toNat then .ok ()
  else .error ⟨.invalidData,
    s!"manifest slot count {manifest.slotCount} exceeds configured max_slots {maxSlots}"⟩

end

/-- The writer handles and the manifests of one publication. -/
structure TopologyGeneration where
  pointMaxSlots : UInt32
  pointHeld : Option HeldGeneration
  pointManifest : PlaneManifest
  healthHeld : Option HeldGeneration
  healthManifest : PlaneManifest

section

variable (generation : TopologyGeneration) (publicationEpoch : UInt64) (publisher : Nat)

def rebuildPoint : TopologyProgram Unit := do
  attempt (validateTopologyPublicationEpoch publicationEpoch)
  attempt (refuseUsedEpoch .point generation.pointHeld publicationEpoch)
  attempt (validateCapacity generation.pointMaxSlots generation.pointManifest)
  attempt (← request (.acquireAuthority .point true))
  let _ ← publishPlane paths .point generation.pointMaxSlots generation.pointManifest
    generation.pointHeld publicationEpoch publisher
  attempt (← request .composeGeneration)

/-- A health plane has exactly the slots of its manifest. -/
def publishHealthWriter : TopologyProgram SlotWriter :=
  let slotCount := generation.healthManifest.slotCount
  if 2 ^ 32 ≤ slotCount then
    attempt (.error ⟨.permanent, s!"channel health slot count {slotCount} exceeds u32 capacity"⟩)
  else publishPlane paths .health (UInt32.ofNat slotCount) generation.healthManifest
    generation.healthHeld publicationEpoch publisher

def rebuildHealth : TopologyProgram Unit := do
  attempt (validateTopologyPublicationEpoch publicationEpoch)
  attempt (refuseUsedEpoch .health generation.healthHeld publicationEpoch)
  attempt (← request (.acquireAuthority .health true))
  if generation.healthHeld.isSome then
    attempt (← request (.validateAuthoritativePath .health))
  let _ ← publishHealthWriter paths generation publicationEpoch publisher

end

/-- Write the witness to its staging file, which is removed on a failure, and publish it. -/
def publishWitness (commit : TopologyPublicationCommit) (publisher : Nat) :
    TopologyProgram Unit := do
  attempt (← request .createDirectory)
  match ← request (.writeStaging commit.encode) with
  | .error failure =>
    request .removeStaging
    attempt (.error failure)
  | .ok () =>
    match ← request (.renameStaging commit publisher) with
    | .error failure =>
      request .removeStaging
      attempt (.error failure)
    | .ok () => attempt (← request .syncDirectory)

def refuseRollBack (witness : Except PortError TopologyPublicationCommit)
    (publicationEpoch : UInt64) : Except PortError Unit :=
  match witness with
  | .error _ => .ok ()
  | .ok existing =>
    if existing.publicationEpoch ≥ publicationEpoch then
      .error (transitionError ("refusing to reuse or roll back durable SHM topology publication " ++
        s!"epoch from {existing.publicationEpoch} to {publicationEpoch}"))
    else .ok ()

def commitTopologyPublicationUnderGuard (publicationEpoch : UInt64) (publisher : Nat) :
    TopologyProgram TopologyPublicationCommit := do
  attempt (validatePlanePaths paths)
  attempt (validateTopologyPublicationEpoch publicationEpoch)
  attempt (refuseRollBack (← readTopologyPublicationCommit) publicationEpoch)
  acquireAuthorityPair paths
  let point ← openPlane paths .point
  let health ← openPlane paths .health
  let commit ← attempt (TopologyPublicationCommit.fromReaders publicationEpoch point health)
  publishWitness commit publisher
  let observed ← attempt (← readTopologyPublicationCommit)
  if observed ≠ commit then
    attempt (.error (transitionError "published SHM topology commit could not be revalidated"))
  else
    return commit

/-- One publication, inside the topology lock. -/
def publishTopologyGeneration (generation : TopologyGeneration) (publisher : Nat) :
    TopologyProgram TopologyPublicationCommit := do
  let publicationEpoch ← nextPublicationEpoch paths
  rebuildPoint paths generation publicationEpoch publisher
  rebuildHealth paths generation publicationEpoch publisher
  commitTopologyPublicationUnderGuard paths publicationEpoch publisher

structure ExpectedManifests where
  point : PlaneManifest
  health : PlaneManifest

/-- The planes that a validation has seen and their witness. -/
structure ValidatedPublication where
  point : PlaneFile
  health : PlaneFile
  commit : TopologyPublicationCommit
  deriving DecidableEq

/-- One validation, inside the shared topology lock. -/
def validateTopologyPublication (expected : ExpectedManifests) :
    TopologyProgram ValidatedPublication := do
  acquireAuthorityPair paths
  let point ← openPlane paths .point
  let health ← openPlane paths .health
  if point.header.routingHash ≠ expected.point.layoutHash ∨
      point.header.slotCount.toNat ≠ expected.point.slotCount ∨
      health.header.routingHash ≠ expected.health.layoutHash ∨
      health.header.slotCount.toNat ≠ expected.health.slotCount then
    attempt (.error (transitionError
      "canonical SHM planes do not match the expected topology manifests"))
  else
    let commit ← attempt (← readTopologyPublicationCommit)
    if commit.matchesReaders point health then
      return ⟨point, health, commit⟩
    else
      attempt (.error (transitionError
        "canonical SHM planes do not match the committed publication witness"))

end AetherIot.ShmBridge
