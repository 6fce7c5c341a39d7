import AetherIot.Foundation.Attempt
import AetherIot.ShmBridge.TopologyPublication

/-!
# Coherence of topology publications

The witness on disk is the last committed one.  A plane whose epoch is that of the witness was
written by the publication of the witness; any other plane has a later epoch.
-/

namespace AetherIot.ShmBridge

open Attempt Dataplane Outbox LockedSection GuardedRun TopologyPublicationCommit

theorem World.attempt_cases {α : Type} (world : World) (store : TopologyStore)
    (effect : TopologyStore × Except PortError α) :
    (∃ failure, world.attempt store effect = (store, .error failure)) ∨
      world.attempt store effect = effect := by
  rw [World.attempt]
  cases world.failure with
  | none => exact .inr rfl
  | some failure => exact .inl ⟨failure, rfl⟩

namespace TopologyStore

variable {store : TopologyStore} {plane other : Plane} {file : PlaneFile}

@[simp]
theorem plane_setPlane : (store.setPlane plane file).plane plane = some file := by
  cases plane <;> rfl

theorem plane_setPlane_of_ne (different : other ≠ plane) :
    (store.setPlane plane file).plane other = store.plane other := by
  cases plane <;> cases other <;> first | rfl | exact absurd rfl different

@[simp]
theorem setPlane_setPlane {first : PlaneFile} :
    (store.setPlane plane first).setPlane plane file = store.setPlane plane file := by
  cases plane <;> rfl

@[simp]
theorem committed_setPlane : (store.setPlane plane file).committed = store.committed := by
  cases plane <;> rfl

@[simp]
theorem witness_setPlane : (store.setPlane plane file).witness = store.witness := by
  cases plane <;> rfl

end TopologyStore

open TopologyStore

def TopologyRequest.Reads : TopologyRequest → Prop
  | .beginGenerationSwap _ _ | .restoreGeneration _ _ | .renamePlane _ _ | .writeStaging _
  | .removeStaging | .renameStaging _ _ => False
  | .acquireAuthority _ _ | .planeExists _ | .mapPlane _ | .generationSeed
  | .validateAuthoritativePath _ | .stagePlane _ | .composeGeneration | .readWitness
  | .createDirectory | .syncDirectory => True

theorem TopologyRequest.Reads.unchanged {request : TopologyRequest} (reads : request.Reads)
    (store : TopologyStore) (world : World) : (store.serve world request).1 = store := by
  have kept : ∀ {α : Type} (reply : Except PortError α),
      (world.attempt store (store, reply)).1 = store := by
    intro _ reply
    rcases world.attempt_cases store (store, reply) with ⟨_, failed⟩ | served
    · rw [failed]
    · rw [served]
  cases request with
  | beginGenerationSwap | restoreGeneration | renamePlane | writeStaging
  | removeStaging | renameStaging => exact reads.elim
  | generationSeed => rfl
  | _ => exact kept _

section

variable (store : TopologyStore) (publicationEpoch : UInt64)

/-- The plane was written by the publication with the epoch. -/
def TopologyStore.Wrote (publisher : Nat) (plane : Plane) : Prop :=
  ∃ file, store.plane plane = some file ∧ file.publicationEpoch = publicationEpoch ∧
    file.publisher = some publisher

/-- A plane that may stand beside a witness of a publication. -/
def PlaneFile.Follows (file : PlaneFile) (entry : TopologyPublicationCommit × Nat) : Prop :=
  entry.1.publicationEpoch ≤ file.publicationEpoch ∧
    (file.publicationEpoch = entry.1.publicationEpoch → file.publisher = some entry.2)

structure TopologyStore.Coherent : Prop where
  increasing : store.committed.Pairwise fun earlier later =>
    earlier.1.publicationEpoch < later.1.publicationEpoch
  witness : store.witness = store.committed.getLast?.map fun entry => entry.1.encode
  planes : ∀ entry, store.committed.getLast? = some entry → ∀ plane,
    ∃ file, store.plane plane = some file ∧ file.Follows entry

/-- The epoch is above all committed ones. -/
def TopologyStore.Fresh : Prop :=
  ∀ entry ∈ store.committed, entry.1.publicationEpoch < publicationEpoch

end

namespace TopologyStore

variable {store : TopologyStore} {plane : Plane} {file : PlaneFile}

theorem coherent_initial (point health : Option PlaneFile) : (initial point health).Coherent :=
  ⟨.nil, rfl, fun _ last => (by cases last)⟩

variable {entry : TopologyPublicationCommit × Nat}

theorem Coherent.le_last (coherent : store.Coherent) {last : TopologyPublicationCommit × Nat}
    (ends : store.committed.getLast? = some last) (member : entry ∈ store.committed) :
    entry.1.publicationEpoch ≤ last.1.publicationEpoch := by
  obtain ⟨_, split⟩ := List.getLast?_eq_some_iff.mp ends
  have increasing := coherent.increasing
  rw [split] at member increasing
  rcases List.mem_append.mp member with before | same
  · exact UInt64.le_of_lt
      ((List.pairwise_append.mp increasing).2.2 entry before last (List.mem_singleton_self last))
  · rw [List.mem_singleton.mp same]
    exact UInt64.le_refl _

theorem Coherent.setPlane (coherent : store.Coherent)
    (follows : ∀ entry, store.committed.getLast? = some entry → file.Follows entry) :
    (store.setPlane plane file).Coherent := by
  refine ⟨?_, ?_, fun entry last other => ?_⟩
  · rw [committed_setPlane]
    exact coherent.increasing
  · rw [committed_setPlane, witness_setPlane]
    exact coherent.witness
  · rw [committed_setPlane] at last
    by_cases same : other = plane
    · subst same
      exact ⟨file, plane_setPlane, follows entry last⟩
    · rw [plane_setPlane_of_ne same]
      exact coherent.planes entry last other

/-- Marking a generation keeps the epoch and the publication of a plane. -/
theorem Coherent.setGeneration (coherent : store.Coherent) (found : store.plane plane = some file)
    (generation : UInt64) : (store.setPlane plane (file.withGeneration generation)).Coherent := by
  refine coherent.setPlane fun entry last => ?_
  obtain ⟨_, standing, follows⟩ := coherent.planes entry last plane
  cases found.symm.trans standing
  exact follows

theorem Fresh.setPlane {publicationEpoch : UInt64} (fresh : store.Fresh publicationEpoch) :
    (store.setPlane plane file).Fresh publicationEpoch := by
  intro entry member
  rw [committed_setPlane] at member
  exact fresh entry member

/-- A plane with a fresh epoch may replace any plane. -/
theorem Fresh.follows (fresh : store.Fresh file.publicationEpoch)
    (last : store.committed.getLast? = some entry) :
    file.Follows entry := by
  have above := fresh entry (List.mem_of_getLast? last)
  exact ⟨UInt64.le_of_lt above, fun same => absurd same (UInt64.ne_of_lt above).symm⟩

/-- The publication with the epoch has replaced the plane and nothing else. -/
def Replaces (store : TopologyStore) (publicationEpoch : UInt64) (publisher : Nat) (plane : Plane)
    (later : TopologyStore) : Prop :=
  ∃ file, file.publicationEpoch = publicationEpoch ∧ file.publisher = some publisher ∧
    later = store.setPlane plane file

section Replaced

variable {later : TopologyStore} {publicationEpoch : UInt64} {publisher : Nat}

section

variable (replaces : store.Replaces publicationEpoch publisher plane later)

include replaces

theorem Replaces.coherent (coherent : store.Coherent) (fresh : store.Fresh publicationEpoch) :
    later.Coherent := by
  obtain ⟨_, rfl, _, rfl⟩ := replaces
  exact coherent.setPlane fun entry last => fresh.follows last

theorem Replaces.fresh (fresh : store.Fresh publicationEpoch) : later.Fresh publicationEpoch := by
  obtain ⟨_, _, _, rfl⟩ := replaces
  exact fresh.setPlane

theorem Replaces.wrote : later.Wrote publicationEpoch publisher plane := by
  obtain ⟨file, epoch, by_, rfl⟩ := replaces
  exact ⟨file, plane_setPlane, epoch, by_⟩

theorem Replaces.wrote_of_ne {other : Plane} (different : other ≠ plane)
    (wrote : store.Wrote publicationEpoch publisher other) :
    later.Wrote publicationEpoch publisher other := by
  obtain ⟨_, _, _, rfl⟩ := replaces
  rwa [Wrote, plane_setPlane_of_ne different]

end

end Replaced

theorem Coherent.publishWitness (coherent : store.Coherent) {commit : TopologyPublicationCommit}
    {publisher : Nat} (fresh : store.Fresh commit.publicationEpoch)
    (wrote : ∀ plane, store.Wrote commit.publicationEpoch publisher plane) :
    Coherent { store with
      witness := some commit.encode
      staging := none
      committed := store.committed ++ [(commit, publisher)] } := by
  refine ⟨?_, ?_, fun entry last plane => ?_⟩
  · refine List.pairwise_append.mpr ⟨coherent.increasing, List.pairwise_singleton _ _, ?_⟩
    intro earlier member _ added
    cases List.mem_singleton.mp added
    exact fresh earlier member
  · simp
  · have this : entry = (commit, publisher) := by simpa using last.symm
    subst this
    obtain ⟨file, found, epoch, by_⟩ := wrote plane
    exact ⟨file, found, epoch ▸ UInt64.le_refl _, fun _ => by_⟩

end TopologyStore

/-- A program over the files keeps them coherent, and what it returns satisfies `post`. -/
abbrev Keeps {α : Type} (post : TopologyStore → α → Prop) (program : TopologyProgram α)
    (store : TopologyStore) : Prop :=
  Safe serve TopologyStore.Coherent post program store

abbrev OnlyReads {α : Type} (program : TopologyProgram α) : Prop :=
  ReadOnly serve program

section Reading

variable {paths : TopologyPaths} {store : TopologyStore} {plane : Plane}

theorem onlyReads_request {α : Type} (request : TopologyRequest) (reads : request.Reads)
    {next : request.Reply → TopologyProgram α} (rest : ∀ reply, OnlyReads (next reply)) :
    OnlyReads (ShmBridge.request request >>= next) :=
  ⟨reads.unchanged, rest⟩

theorem keeps_read {α : Type} {post : TopologyStore → α → Prop} (request : TopologyRequest)
    (reads : request.Reads) {next : request.Reply → TopologyProgram α} (coherent : store.Coherent)
    (rest : ∀ world, Keeps post (next (store.serve world request).2) store) :
    Keeps post (ShmBridge.request request >>= next) store :=
  safe_read reads.unchanged coherent rest

theorem onlyReads_attempt {α : Type} (result : Except PortError α) : OnlyReads (attempt result) :=
  Interaction.uses_ofExcept result

theorem onlyReads_acquireAuthorityPair : OnlyReads (acquireAuthorityPair paths) :=
  onlyReads_request (.acquireAuthority _ _) trivial fun _ => (onlyReads_attempt _).bind fun _ =>
    onlyReads_request (.acquireAuthority _ _) trivial fun _ => onlyReads_attempt _

theorem onlyReads_openPlane : OnlyReads (openPlane paths plane) :=
  onlyReads_request (.mapPlane plane) trivial fun _ => (onlyReads_attempt _).bind fun _ =>
    onlyReads_attempt _

theorem onlyReads_readTopologyPublicationCommit : OnlyReads readTopologyPublicationCommit :=
  onlyReads_request .readWitness trivial fun _ => trivial

theorem onlyReads_validateTopologyPublication (expected : ExpectedManifests) :
    OnlyReads (validateTopologyPublication paths expected) := by
  refine onlyReads_acquireAuthorityPair.bind fun _ => onlyReads_openPlane.bind fun _ =>
    onlyReads_openPlane.bind fun _ => ?_
  split
  · exact onlyReads_attempt _
  · refine onlyReads_readTopologyPublicationCommit.bind fun _ => (onlyReads_attempt _).bind
      fun _ => ?_
    split
    · trivial
    · exact onlyReads_attempt _

variable {file : PlaneFile}

theorem eq_of_openReader {path : String} {opened : PlaneFile}
    (accepted : openReader path file = .ok opened) : opened = file := by
  simp only [openReader, bind_eq_ok, refuse_eq_ok] at accepted
  obtain ⟨-, -, -, _, -, ⟨⟩⟩ := accepted
  rfl

theorem plane_of_mapPlane {world : World}
    (mapped : (store.serve world (.mapPlane plane)).2 = .ok file) :
    store.plane plane = some file := by
  simp only [serve] at mapped
  rcases world.attempt_cases store (store, _) with ⟨_, failed⟩ | served
  · rw [failed] at mapped
    cases mapped
  · rw [served] at mapped
    cases found : store.plane plane with
    | none =>
      rw [found] at mapped
      cases mapped
    | some =>
      rw [found] at mapped
      exact congrArg _ (Except.ok.inj mapped)

/-- An opened plane is the one on disk. -/
theorem keeps_openPlane (coherent : store.Coherent) :
    Keeps (fun later file => later = store ∧ store.plane plane = some file)
      (openPlane paths plane) store := by
  refine keeps_read (.mapPlane plane) trivial coherent fun world =>
    safe_ofExcept_bind fun file mapped => ?_
  have standing := plane_of_mapPlane mapped
  cases opened : (openReader (paths.plane plane) file).mapError mapDataplaneError with
  | error => trivial
  | ok =>
    rw [eq_of_openReader (mapError_eq_ok.mp opened)]
    exact ⟨rfl, standing⟩

theorem keeps_observedPlaneEpoch (coherent : store.Coherent) :
    Keeps (fun later epoch => later = store ∧
        ∀ file, store.plane plane = some file → file.publicationEpoch = epoch.getD 0)
      (observedPlaneEpoch paths plane) store := by
  refine keeps_read (.planeExists plane) trivial coherent fun world =>
    safe_ofExcept_bind fun found answered => ?_
  split
  · refine (keeps_openPlane coherent).bind fun later reader ⟨same, standing⟩ => ?_
    subst same
    split
    · rename_i zero
      refine ⟨rfl, fun file current => ?_⟩
      cases standing.symm.trans current
      exact zero
    · refine safe_ofExcept_bind fun _ _ => ⟨rfl, fun file current => ?_⟩
      cases standing.symm.trans current
      rfl
  · rename_i missing
    refine ⟨rfl, fun file current => ?_⟩
    simp only [serve] at answered
    rcases world.attempt_cases store (store, .ok (store.plane plane).isSome) with
      ⟨failure, failed⟩ | served
    · rw [failed] at answered
      cases answered
    · rw [served, current] at answered
      cases answered
      exact absurd rfl missing

theorem le_epochFloor (point health : Option UInt64)
    (witness : Except PortError TopologyPublicationCommit) :
    (point.getD 0).toNat ≤ (epochFloor point health witness).toNat := by
  cases witness with
  | error =>
    change _ ≤ (max (point.getD 0) (health.getD 0)).toNat
    rw [UInt64.toNat_max]
    exact le_max_left _ _
  | ok commit =>
    change _ ≤ (max (max (point.getD 0) (health.getD 0)) commit.publicationEpoch).toNat
    rw [UInt64.toNat_max, UInt64.toNat_max]
    exact (le_max_left _ _).trans (le_max_left _ _)

theorem toNat_add_one_of_ne_reserved {epoch : UInt64} (room : epoch ≠ reservedEpoch) :
    (epoch + 1).toNat = epoch.toNat + 1 := by
  have bound : epoch.toNat ≠ 2 ^ 64 - 1 := fun same => room (UInt64.toNat_inj.mp same)
  have small := epoch.toNat_lt
  rw [UInt64.toNat_add, UInt64.toNat_one, Nat.mod_eq_of_lt (by omega)]

/-- An allocated epoch is above all committed ones, since the planes are. -/
theorem keeps_nextPublicationEpoch (coherent : store.Coherent) :
    Keeps (fun later epoch => later = store ∧ store.Fresh epoch) (nextPublicationEpoch paths)
      store := by
  refine safe_ofExcept_bind fun _ _ => ?_
  refine (onlyReads_acquireAuthorityPair.safe coherent).bind fun later _ same => ?_
  subst same
  refine (keeps_observedPlaneEpoch coherent).bind fun later point ⟨same, observed⟩ => ?_
  subst same
  refine (keeps_observedPlaneEpoch coherent).bind fun later health ⟨same, _⟩ => ?_
  subst same
  refine (onlyReads_readTopologyPublicationCommit.safe coherent).bind fun later witness same => ?_
  subst same
  dsimp only
  split
  · trivial
  · rename_i room
    refine safe_ofExcept_bind fun _ _ => ⟨rfl, fun entry member => ?_⟩
    obtain ⟨last, ends⟩ : ∃ last, later.committed.getLast? = some last :=
      Option.isSome_iff_exists.mp (List.getLast?_isSome.mpr (List.ne_nil_of_mem member))
    obtain ⟨file, standing, follows, _⟩ := coherent.planes last ends .point
    rw [UInt64.lt_iff_toNat_lt, toNat_add_one_of_ne_reserved room, Nat.lt_succ_iff]
    calc entry.1.publicationEpoch.toNat
        ≤ last.1.publicationEpoch.toNat := coherent.le_last ends member
      _ ≤ file.publicationEpoch.toNat := follows
      _ = (point.getD 0).toNat := congrArg _ (observed file standing)
      _ ≤ (epochFloor point health witness).toNat := le_epochFloor point health witness

end Reading

section Writing

variable {paths : TopologyPaths} {store : TopologyStore} {plane : Plane} {file : PlaneFile}
  {publicationEpoch : UInt64} {publisher : Nat}

theorem serve_beginGenerationSwap (world : World) (held : Bool) :
    (store.serve world (.beginGenerationSwap plane held)).1 = store ∨
      ∃ standing generation, store.plane plane = some standing ∧
        (store.serve world (.beginGenerationSwap plane held)).1 =
          store.setPlane plane (standing.withGeneration generation) := by
  simp only [serve]
  rcases world.attempt_cases store (store.beginGenerationSwap plane held) with
    ⟨failure, failed⟩ | served
  · rw [failed]
    exact .inl rfl
  · rw [served, beginGenerationSwap]
    cases found : store.plane plane with
    | none => exact .inl rfl
    | some standing =>
      dsimp only
      split
      · exact .inl rfl
      · exact .inr ⟨standing, _, rfl, rfl⟩

/-- A marked store is coherent, and replacing the marked plane hides the mark. -/
theorem TopologyStore.Coherent.beginGenerationSwap (coherent : store.Coherent)
    (fresh : store.Fresh publicationEpoch) {middle : TopologyStore} {world : World} {held : Bool}
    (served : middle = (store.serve world (.beginGenerationSwap plane held)).1) :
    middle.Coherent ∧ middle.Fresh publicationEpoch ∧
      ∀ file, middle.setPlane plane file = store.setPlane plane file := by
  rcases serve_beginGenerationSwap world held with same | ⟨_, generation, found, marked⟩
  · rw [served, same]
    exact ⟨coherent, fresh, fun _ => rfl⟩
  · rw [served, marked]
    exact ⟨coherent.setGeneration found generation, fresh.setPlane, fun _ => setPlane_setPlane⟩

theorem keeps_restoreGeneration (coherent : store.Coherent) (invalidated : Option UInt64) :
    Keeps (fun _ _ => True) (restoreGeneration plane invalidated) store := by
  cases invalidated with
  | none => trivial
  | some generation =>
    intro _
    refine ⟨?_, trivial⟩
    simp only [serve]
    split
    · exact coherent
    · rename_i found
      exact coherent.setGeneration found generation

theorem keeps_commitGenerationSwap (coherent : store.Coherent)
    (fresh : store.Fresh file.publicationEpoch) (invalidated : Option UInt64) :
    Keeps (fun later _ => later = store.setPlane plane file)
      (commitGenerationSwap plane file invalidated) store := by
  intro world
  simp only [serve]
  rcases world.attempt_cases store (store.setPlane plane file, Except.ok ()) with
    ⟨failure, failed⟩ | renamed
  · rw [failed]
    exact ⟨coherent, (keeps_restoreGeneration coherent invalidated).bind fun _ _ _ => trivial⟩
  · rw [renamed]
    exact ⟨coherent.setPlane fun entry last => fresh.follows last, rfl⟩

theorem eq_of_createAtEpoch {maxSlots : UInt32} {manifest : PlaneManifest}
    {heartbeat clock : UInt64}
    (created : createAtEpoch maxSlots manifest heartbeat publicationEpoch clock publisher =
      .ok file) : file.publicationEpoch = publicationEpoch ∧ file.publisher = some publisher := by
  rw [createAtEpoch] at created
  split at created
  · cases created
  · cases created
    exact ⟨rfl, rfl⟩

section

variable (coherent : store.Coherent)

include coherent

section

variable (fresh : store.Fresh publicationEpoch)

include fresh

theorem keeps_publishPlane (maxSlots : UInt32)
    (manifest : PlaneManifest) (held : Option HeldGeneration) :
    Keeps (fun later _ => store.Replaces publicationEpoch publisher plane later)
      (publishPlane paths plane maxSlots manifest held publicationEpoch publisher) store := by
  refine keeps_read .generationSeed trivial coherent fun _ => ?_
  refine safe_ofExcept_bind fun file created => ?_
  obtain ⟨rfl, by_⟩ := eq_of_createAtEpoch (mapError_eq_ok.mp created)
  refine keeps_read (.stagePlane plane) trivial coherent fun _ => safe_ofExcept_bind fun _ _ => ?_
  intro world
  obtain ⟨kept, above, replaced⟩ := coherent.beginGenerationSwap fresh (Eq.refl
    (store.serve world (.beginGenerationSwap plane held.isSome)).1)
  refine ⟨kept, safe_ofExcept_bind fun invalidated _ => ?_⟩
  refine (keeps_commitGenerationSwap kept above invalidated).bind fun later _ swapped => ?_
  rw [replaced] at swapped
  subst swapped
  have written : (store.setPlane plane file).Coherent :=
    coherent.setPlane fun entry last => fresh.follows last
  refine keeps_read (.mapPlane plane) trivial written fun _ => safe_ofExcept_bind fun _ _ => ?_
  refine ((onlyReads_attempt _).safe written).weaken fun later _ same => ?_
  exact ⟨file, rfl, by_, same⟩

theorem keeps_rebuildPoint (generation : TopologyGeneration) :
    Keeps (fun later _ => store.Replaces publicationEpoch publisher .point later)
      (rebuildPoint paths generation publicationEpoch publisher) store := by
  refine safe_ofExcept_bind fun _ _ => safe_ofExcept_bind fun _ _ => safe_ofExcept_bind
    fun _ _ => ?_
  refine keeps_read (.acquireAuthority .point true) trivial coherent fun _ =>
    safe_ofExcept_bind fun _ _ => ?_
  refine (keeps_publishPlane coherent fresh _ _ _).bind fun later _ replaces => ?_
  have kept := replaces.coherent coherent fresh
  refine keeps_read .composeGeneration trivial kept fun _ => ?_
  exact ((onlyReads_attempt _).safe kept).weaken fun _ _ same => same ▸ replaces

theorem keeps_publishHealthWriter
    (generation : TopologyGeneration) :
    Keeps (fun later _ => store.Replaces publicationEpoch publisher .health later)
      (publishHealthWriter paths generation publicationEpoch publisher) store := by
  rw [publishHealthWriter]
  split
  · trivial
  · exact keeps_publishPlane coherent fresh _ _ _

theorem keeps_rebuildHealth (generation : TopologyGeneration) :
    Keeps (fun later _ => store.Replaces publicationEpoch publisher .health later)
      (rebuildHealth paths generation publicationEpoch publisher) store := by
  refine safe_ofExcept_bind fun _ _ => safe_ofExcept_bind fun _ _ => ?_
  refine keeps_read (.acquireAuthority .health true) trivial coherent fun _ =>
    safe_ofExcept_bind fun _ _ => ?_
  have published : Keeps (fun later _ => store.Replaces publicationEpoch publisher .health later)
      (publishHealthWriter paths generation publicationEpoch publisher >>= fun _ => pure ()) store :=
    (keeps_publishHealthWriter coherent fresh generation).bind fun _ _ replaces => replaces
  dsimp only
  split
  · exact keeps_read (.validateAuthoritativePath .health) trivial coherent fun _ =>
      safe_ofExcept_bind fun _ _ => published
  · exact published

end

end

variable {commit : TopologyPublicationCommit}

theorem keeps_publishWitness (coherent : store.Coherent)
    (fresh : store.Fresh commit.publicationEpoch)
    (wrote : ∀ plane, store.Wrote commit.publicationEpoch publisher plane) :
    Keeps (fun later _ => later.Coherent) (publishWitness commit publisher) store := by
  refine keeps_read .createDirectory trivial coherent fun _ => safe_ofExcept_bind fun _ _ => ?_
  intro _
  simp only [serve]
  split
  · exact ⟨⟨coherent.increasing, coherent.witness, coherent.planes⟩, fun _ =>
      ⟨⟨coherent.increasing, coherent.witness, coherent.planes⟩, trivial⟩⟩
  · refine ⟨⟨coherent.increasing, coherent.witness, coherent.planes⟩, fun next => ?_⟩
    simp only [serve]
    rcases next.attempt_cases { store with staging := some commit.encode } ({ store with
          witness := some commit.encode
          staging := none
          committed := store.committed ++ [(commit, publisher)] }, Except.ok ()) with
      ⟨failure, failed⟩ | renamed
    · rw [failed]
      exact ⟨⟨coherent.increasing, coherent.witness, coherent.planes⟩, fun _ =>
        ⟨⟨coherent.increasing, coherent.witness, coherent.planes⟩, trivial⟩⟩
    · rw [renamed]
      have published := coherent.publishWitness fresh wrote
      refine ⟨published, keeps_read .syncDirectory trivial published fun _ => ?_⟩
      exact ((onlyReads_attempt _).safe published).weaken fun _ _ same => same ▸ published

theorem epoch_of_fromReaders {point health : PlaneFile}
    (made : fromReaders publicationEpoch point health = .ok commit) :
    commit.publicationEpoch = publicationEpoch := by
  obtain ⟨_, -, made⟩ := bind_eq_ok.mp made
  obtain ⟨_, -, made⟩ := bind_eq_ok.mp made
  cases made
  rfl

theorem keeps_commitTopologyPublicationUnderGuard (coherent : store.Coherent)
    (fresh : store.Fresh publicationEpoch)
    (wrote : ∀ plane, store.Wrote publicationEpoch publisher plane) :
    Keeps (fun _ _ => True) (commitTopologyPublicationUnderGuard paths publicationEpoch publisher)
      store := by
  refine safe_ofExcept_bind fun _ _ => safe_ofExcept_bind fun _ _ => ?_
  refine (onlyReads_readTopologyPublicationCommit.safe coherent).bind fun later _ same => ?_
  subst same
  refine safe_ofExcept_bind fun _ _ => ?_
  refine (onlyReads_acquireAuthorityPair.safe coherent).bind fun later _ same => ?_
  subst same
  refine (onlyReads_openPlane.safe coherent).bind fun later point same => ?_
  subst same
  refine (onlyReads_openPlane.safe coherent).bind fun later health same => ?_
  subst same
  refine safe_ofExcept_bind fun commit made => ?_
  obtain rfl := epoch_of_fromReaders made
  refine (keeps_publishWitness coherent fresh wrote).bind fun later _ kept => ?_
  refine (onlyReads_readTopologyPublicationCommit.safe kept).bind fun later _ same => ?_
  refine safe_ofExcept_bind fun _ _ => ?_
  split
  · trivial
  · trivial

theorem keeps_publishTopologyGeneration (coherent : store.Coherent)
    (generation : TopologyGeneration) :
    Keeps (fun _ _ => True) (publishTopologyGeneration paths generation publisher) store := by
  refine (keeps_nextPublicationEpoch coherent).bind fun later epoch ⟨same, fresh⟩ => ?_
  subst same
  refine (keeps_rebuildPoint coherent fresh generation).bind fun rebuilt _ point => ?_
  have kept := point.coherent coherent fresh
  have above := point.fresh fresh
  refine (keeps_rebuildHealth kept above generation).bind fun both _ health => ?_
  refine keeps_commitTopologyPublicationUnderGuard (health.coherent kept above)
    (health.fresh above) fun plane => ?_
  cases plane with
  | point => exact health.wrote_of_ne (by decide) point.wrote
  | health => exact health.wrote

end Writing

/-- What was validated stands on disk and was written by one publication whose witness was
committed. -/
structure ValidatedPublication.Unmixed (validated : ValidatedPublication) (store : TopologyStore)
    (publisher : Nat) : Prop where
  committed : (validated.commit, publisher) ∈ store.committed
  pointStands : store.point = some validated.point
  healthStands : store.health = some validated.health
  pointBy : validated.point.publisher = some publisher
  healthBy : validated.health.publisher = some publisher

section Validation

variable {paths : TopologyPaths} {store : TopologyStore}

theorem keeps_readTopologyPublicationCommit (coherent : store.Coherent) :
    Keeps (fun later witness => later = store ∧ ∀ commit, witness = .ok commit →
        ∃ publisher, store.committed.getLast? = some (commit, publisher))
      readTopologyPublicationCommit store := by
  refine keeps_read .readWitness trivial coherent fun world => ⟨rfl, fun commit read => ?_⟩
  simp only [serve] at read
  rcases world.attempt_cases store (store, _) with ⟨_, failed⟩ | served
  · rw [failed] at read
    cases read
  · rw [served, coherent.witness] at read
    cases last : store.committed.getLast? with
    | none =>
      rw [last] at read
      cases read
    | some entry =>
      rw [last] at read
      obtain ⟨_, ⟨⟩, read⟩ := bind_eq_ok.mp read
      rw [decode_encode] at read
      split at read
      · cases read
      · cases read
        exact ⟨entry.2, rfl⟩

theorem TopologyPublicationCommit.epochs_of_matchesReaders {commit : TopologyPublicationCommit}
    {point health : PlaneFile} (matching : commit.matchesReaders point health = true) :
    point.publicationEpoch = commit.publicationEpoch ∧
      health.publicationEpoch = commit.publicationEpoch := by
  simp only [matchesReaders, Bool.and_eq_true, decide_eq_true_eq] at matching
  exact ⟨matching.1.1.1.1.1.1.1.2, matching.1.1.1.1.1.1.2⟩

theorem keeps_validateTopologyPublication (coherent : store.Coherent)
    (expected : ExpectedManifests) :
    Keeps (fun later validated => ∃ publisher, validated.Unmixed later publisher)
      (validateTopologyPublication paths expected) store := by
  refine (onlyReads_acquireAuthorityPair.safe coherent).bind fun later _ same => ?_
  subst same
  refine (keeps_openPlane coherent).bind fun later point ⟨same, pointFound⟩ => ?_
  subst same
  refine (keeps_openPlane coherent).bind fun later health ⟨same, healthFound⟩ => ?_
  subst same
  split
  · trivial
  refine (keeps_readTopologyPublicationCommit coherent).bind fun later witness ⟨same, known⟩ => ?_
  subst same
  refine safe_ofExcept_bind fun commit read => ?_
  obtain ⟨publisher, last⟩ := known commit read
  split
  · rename_i matching
    obtain ⟨pointEpoch, healthEpoch⟩ := epochs_of_matchesReaders matching
    obtain ⟨_, found, _, pointBy⟩ := coherent.planes _ last .point
    cases pointFound.symm.trans found
    obtain ⟨_, found, _, healthBy⟩ := coherent.planes _ last .health
    cases healthFound.symm.trans found
    exact ⟨publisher, List.mem_of_getLast? last, pointFound, healthFound, pointBy pointEpoch,
      healthBy healthEpoch⟩
  · trivial

def topologyRun (paths : TopologyPaths) (point health : Option PlaneFile)
    (inputs : List (SectionInput TopologyGeneration ExpectedManifests World)) :
    Sections TopologyRequest.Reply PortError TopologyPublicationCommit ValidatedPublication
      TopologyStore :=
  run (Sections.step serve (publishTopologyGeneration paths)
    (validateTopologyPublication paths)) (.initial (.initial point health)) inputs

/-- In every interleaving of publications, which may crash, and validations: a validation sees planes
of one publication whose witness was committed, and the epochs of committed witnesses increase. -/
theorem topology_publications_never_mix (paths : TopologyPaths) (point health : Option PlaneFile)
    (inputs : List (SectionInput TopologyGeneration ExpectedManifests World)) :
    (∀ entry ∈ (topologyRun paths point health inputs).returned,
      ∃ publisher, entry.2.Unmixed entry.1 publisher) ∧
    (topologyRun paths point health inputs).shared.committed.Pairwise fun earlier later =>
      earlier.1.publicationEpoch < later.1.publicationEpoch := by
  have sound : (topologyRun paths point health inputs).Sound serve
      TopologyStore.Coherent fun store validated => ∃ publisher, validated.Unmixed store publisher :=
    sound_run (fun generation _ _ coherent => keeps_publishTopologyGeneration coherent generation)
      (fun expected _ coherent => keeps_validateTopologyPublication coherent expected)
      (fun expected => onlyReads_validateTopologyPublication expected)
      (coherent_initial point health) inputs
  exact ⟨fun entry returned => (sound.returned entry returned).2, sound.shared.increasing⟩

/-- A publication, a second one that dies between its planes, and a third: the last one is
validated under epoch 3. -/
example :
    let generation : TopologyGeneration := ⟨4, none, ⟨2, 7⟩, none, ⟨1, 9⟩⟩
    let publish := .enterWriter generation :: List.replicate 40 (.writer ⟨none, 6⟩)
    let cut := .enterWriter generation :: List.replicate 15 (.writer ⟨none, 8⟩) ++ [.crashWriter]
    let validate := .enterReader ⟨⟨2, 7⟩, ⟨1, 9⟩⟩ :: List.replicate 10 (.reader 0 ⟨none, 0⟩)
    (topologyRun ⟨"point.shm", "health.shm"⟩ none none (publish ++ cut ++ publish ++ validate)
      ).returned.map (fun entry => entry.2.commit.publicationEpoch) = [3] := by
  decide +kernel

end Validation

end AetherIot.ShmBridge
