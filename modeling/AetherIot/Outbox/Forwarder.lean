import AetherIot.Foundation.GuardedRun
import AetherIot.Outbox.CrashConsistency

/-!
# Store-and-forward delivery

A drain pass reads the oldest entries of the outbox and then publishes and acknowledges them one by
one.  Passes interleave with enqueues, compactions and restarts.  No accepted entry is lost before
it has been published, and entries are published for the first time in the order of their
identifiers.
-/

namespace AetherIot.Outbox

open MachineText OrderedMap Bytes FramedLog GuardedRun

/-- Result of one bounded outbox drain pass. -/
structure DrainReport where
  examined : Nat
  delivered : Nat
  deriving DecidableEq

/-- The point a drain pass has reached: the call it is waiting for, or its result. -/
inductive DrainPass where
  | publishing (report : DrainReport) (entry : OutboxEntry) (remaining : List OutboxEntry)
  | acknowledging (report : DrainReport) (entry : OutboxEntry) (remaining : List OutboxEntry)
  | returned (result : Except PortError DrainReport)

def ensureAcknowledged (id : UInt64) (acknowledged : Except PortError Nat) :
    Except PortError Unit := do
  let removed ← acknowledged
  if removed ≠ 1 then
    .error ⟨.conflict, "outbox entry " ++ toString id ++
      " was published but acknowledgement removed " ++ toString removed ++ " entries"⟩
  else return ()

namespace DrainPass

/-- Turn to the next entry of the pass. -/
def advance (report : DrainReport) : List OutboxEntry → DrainPass
  | [] => .returned (.ok report)
  | entry :: remaining => .publishing report entry remaining

/-- A pass whose entries have been read. -/
def peeked : Except PortError (List OutboxEntry) → DrainPass
  | .error failure => .returned (.error failure)
  | .ok entries => advance ⟨entries.length, 0⟩ entries

section

variable (report : DrainReport) (entry : OutboxEntry) (remaining : List OutboxEntry)

def published : Except PortError Unit → DrainPass
  | .error failure => .returned (.error failure)
  | .ok () => .acknowledging report entry remaining

def acknowledged (result : Except PortError Nat) : DrainPass :=
  match ensureAcknowledged entry.id result with
  | .error failure => .returned (.error failure)
  | .ok () => advance { report with delivered := report.delivered + 1 } remaining

end

end DrainPass

/-- The outbox of a process: an open journal, or a file that could not be opened. -/
inductive OutboxState where
  | opened (journal : Journal)
  | closed (file : List UInt8)

namespace OutboxState

def file : OutboxState → List UInt8
  | .opened journal => journal.file
  | .closed file => file

/-- Open the journal of a restarted process. -/
def reopen (file : List UInt8) (capacity : Nat) : OutboxState :=
  match Journal.openJournal file capacity with
  | .ok journal => .opened journal
  | .error _ => .closed file

/-- The entry is live in an open outbox. -/
def Holds (id : UInt64) : OutboxState → Prop
  | .opened journal => id ∈ journal.contents.entries
  | .closed _ => False

instance (id : UInt64) (outbox : OutboxState) : Decidable (outbox.Holds id) :=
  match outbox with
  | .opened journal => inferInstanceAs (Decidable (id ∈ journal.contents.entries))
  | .closed _ => isFalse fun held => held

end OutboxState

/-- An outbox and the passes of its forwarder, together with the identifiers returned by enqueues
and the identifiers published so far. -/
structure Delivery where
  outbox : OutboxState
  passes : List DrainPass
  accepted : List UInt64
  publications : List UInt64

/-- One step of a producer or of the pass with the given index. -/
inductive DeliveryAction where
  | enqueue (message : OutboxMessage) (outcome : AppendOutcome)
  | compact (outcome : CompactOutcome)
  | drain (limit : Nat)
  | publish (index : Nat) (result : Except PortError Unit)
  | acknowledge (index : Nat) (outcome : AppendOutcome)

/-- A step, a restart between steps, or a crash in the middle of a step and a restart. -/
inductive DeliveryEvent where
  | live (action : DeliveryAction)
  | restart (capacity : Nat)
  | crash (action : DeliveryAction) (capacity : Nat)

namespace Delivery

/-- A fresh outbox. -/
def created (capacity : Nat) : Delivery := ⟨.reopen [] capacity, [], [], []⟩

variable (state : Delivery)

/-- One step with an open journal. -/
def act (journal : Journal) : DeliveryAction → Delivery
  | .enqueue message outcome =>
    let (next, result) := journal.enqueue message outcome
    { state with
      outbox := .opened next
      accepted := state.accepted ++ result.toOption.toList }
  | .compact outcome => { state with outbox := .opened (journal.compact outcome).1 }
  | .drain limit => { state with passes := state.passes ++ [.peeked (journal.peek limit)] }
  | .publish index result =>
    match state.passes[index]? with
    | some (.publishing report entry remaining) =>
      { state with
        passes := state.passes.set index (.published report entry remaining result)
        publications := state.publications ++ (result.toOption.map fun () => entry.id).toList }
    | _ => state
  | .acknowledge index outcome =>
    match state.passes[index]? with
    | some (.acknowledging report entry remaining) =>
      let (next, result) := journal.acknowledge [entry.id] outcome
      { state with
        outbox := .opened next
        passes := state.passes.set index (.acknowledged report entry remaining result) }
    | _ => state

def perform (action : DeliveryAction) : Delivery :=
  match state.outbox with
  | .opened journal => state.act journal action
  | .closed _ => state

/-- Restarting drops the passes and opens the journal again. -/
def restart (capacity : Nat) : Delivery :=
  { state with outbox := .reopen state.outbox.file capacity, passes := [] }

/-- An interrupted step reaches the file and the transport, but its caller sees no result. -/
def step : DeliveryEvent → Delivery
  | .live action => state.perform action
  | .restart capacity => state.restart capacity
  | .crash action capacity =>
    { (state.perform action).restart capacity with accepted := state.accepted }

end Delivery

def DeliveryAction.RollsBack : DeliveryAction → Prop
  | .enqueue _ outcome => outcome.RollsBack
  | .acknowledge _ outcome => outcome.RollsBack
  | .compact _ => True
  | .drain _ => True
  | .publish _ _ => True

/-- Failed appends are rolled back while the process lives. -/
def DeliveryEvent.RollsBack : DeliveryEvent → Prop
  | .live action => action.RollsBack
  | .restart _ => True
  | .crash _ _ => True

/-- A change of the contents by which new entries get new identifiers, and only published entries
disappear. -/
structure Progress (publications : List UInt64) (before after : OutboxContents) : Prop where
  advances : before.nextId ≤ after.nextId
  fresh : ∀ id ∈ after.entries, id ∈ before.entries ∨ before.nextId ≤ id
  retained : ∀ id ∈ before.entries, id ∈ after.entries ∨ id ∈ publications

variable (contents : OutboxContents)

section

variable (publications : List UInt64)

/-- What the published identifiers say about the entries still to be published. -/
structure InOrder : Prop where
  assigned : ∀ id ∈ publications, id < contents.nextId
  ordered : ∀ id ∈ contents.entries, ∀ later ∈ publications, id < later → id ∈ publications
  ascending : publications.eraseDups.Pairwise (· < ·)

/-- Entries that a pass may publish one after another: every unpublished entry of the outbox is
among them or comes after all of them. -/
structure Queued (remaining : List OutboxEntry) : Prop where
  ascending : remaining.Pairwise fun left right => left.id < right.id
  assigned : ∀ entry ∈ remaining, entry.id < contents.nextId
  known : ∀ entry ∈ remaining, entry.id ∈ contents.entries ∨ entry.id ∈ publications
  covers : ∀ id ∈ contents.entries, id ∉ publications →
    (∃ entry ∈ remaining, entry.id = id) ∨ ∀ entry ∈ remaining, entry.id < id

/-- The pass may continue. -/
def DrainPass.Fits : DrainPass → Prop
  | .publishing _ entry remaining => Queued contents publications (entry :: remaining)
  | .acknowledging _ entry remaining =>
    entry.id ∈ publications ∧ Queued contents publications remaining
  | .returned _ => True

theorem Progress.refl (contents : OutboxContents) : Progress publications contents contents where
  advances := UInt64.le_refl _
  fresh _ member := .inl member
  retained _ member := .inl member

end

section Progress

variable {publications : List UInt64} {before after : OutboxContents}

theorem InOrder.progress (inOrder : InOrder before publications)
    (progress : Progress publications before after) : InOrder after publications where
  assigned id member := UInt64.lt_of_lt_of_le (inOrder.assigned id member) progress.advances
  ordered id member later published below := by
    rcases progress.fresh id member with earlier | _
    · exact inOrder.ordered id earlier later published below
    · have := inOrder.assigned later published
      grind
  ascending := inOrder.ascending

theorem Queued.progress {remaining : List OutboxEntry}
    (queued : Queued before publications remaining)
    (progress : Progress publications before after) : Queued after publications remaining where
  ascending := queued.ascending
  assigned entry member := UInt64.lt_of_lt_of_le (queued.assigned entry member) progress.advances
  known entry member := by
    rcases queued.known entry member with live | published
    · exact progress.retained entry.id live
    · exact .inr published
  covers id member unpublished := by
    rcases progress.fresh id member with earlier | new
    · exact queued.covers id earlier unpublished
    · exact .inr fun entry waiting => UInt64.lt_of_lt_of_le (queued.assigned entry waiting) new

theorem DrainPass.Fits.progress {pass : DrainPass} (fits : pass.Fits before publications)
    (progress : Progress publications before after) : pass.Fits after publications := by
  cases pass with
  | publishing => exact Queued.progress fits progress
  | acknowledging => exact ⟨fits.1, fits.2.progress progress⟩
  | returned => trivial

end Progress

section Publication

variable {contents : OutboxContents} {publications : List UInt64} {entry : OutboxEntry}
  {remaining : List OutboxEntry}

/-- The head of a queue may be published next. -/
theorem InOrder.publish (inOrder : InOrder contents publications)
    (queued : Queued contents publications (entry :: remaining)) :
    InOrder contents (publications ++ [entry.id]) where
  assigned id member := by
    rcases List.mem_append.mp member with earlier | last
    · exact inOrder.assigned id earlier
    · rw [List.mem_singleton.mp last]
      exact queued.assigned entry List.mem_cons_self
  ordered id member later published below := by
    rw [List.mem_append] at published ⊢
    rcases published with earlier | last
    · exact .inl (inOrder.ordered id member later earlier below)
    · by_contra unpublished
      rw [not_or] at unpublished
      rw [List.mem_singleton.mp last] at below
      rcases queued.covers id member unpublished.1 with ⟨_, waiting, rfl⟩ | above
      · rcases List.mem_cons.mp waiting with rfl | behind
        · exact UInt64.lt_irrefl _ below
        · have := List.rel_of_pairwise_cons queued.ascending behind
          grind
      · have := above entry List.mem_cons_self
        grind
  ascending := by
    by_cases repeated : entry.id ∈ publications
    · simpa [List.eraseDups_append, List.removeAll, repeated] using inOrder.ascending
    · have extended : (publications ++ [entry.id]).eraseDups =
          publications.eraseDups ++ [entry.id] := by
        simp [List.eraseDups_append, List.removeAll, repeated, List.eraseDups_cons]
      rw [extended, List.pairwise_append]
      refine ⟨inOrder.ascending, List.pairwise_singleton _ _, fun earlier published last same => ?_⟩
      rw [List.mem_eraseDups] at published
      rw [List.mem_singleton.mp same]
      have live := (queued.known entry List.mem_cons_self).resolve_right repeated
      by_contra notBelow
      have distinct : earlier ≠ entry.id := by
        rintro rfl
        exact repeated published
      exact repeated (inOrder.ordered entry.id live earlier published (by grind))

theorem Queued.publish (queued : Queued contents publications remaining) (id : UInt64) :
    Queued contents (publications ++ [id]) remaining where
  ascending := queued.ascending
  assigned := queued.assigned
  known entry member := (queued.known entry member).imp_right (List.mem_append_left _)
  covers other member unpublished :=
    queued.covers other member fun published => unpublished (List.mem_append_left _ published)

theorem DrainPass.Fits.publish {pass : DrainPass} (fits : pass.Fits contents publications)
    (id : UInt64) : pass.Fits contents (publications ++ [id]) := by
  cases pass with
  | publishing => exact Queued.publish fits id
  | acknowledging =>
    exact ⟨List.mem_append_left _ fits.1, fits.2.publish id⟩
  | returned => trivial

theorem Queued.tail (queued : Queued contents publications (entry :: remaining))
    (published : entry.id ∈ publications) : Queued contents publications remaining where
  ascending := queued.ascending.of_cons
  assigned other member := queued.assigned other (List.mem_cons_of_mem _ member)
  known other member := queued.known other (List.mem_cons_of_mem _ member)
  covers id member unpublished := by
    rcases queued.covers id member unpublished with ⟨other, waiting, rfl⟩ | above
    · rcases List.mem_cons.mp waiting with rfl | behind
      · exact absurd published unpublished
      · exact .inl ⟨other, behind, rfl⟩
    · exact .inr fun other waiting => above other (List.mem_cons_of_mem _ waiting)

theorem DrainPass.Fits.advance (queued : Queued contents publications remaining)
    (report : DrainReport) :
    (DrainPass.advance report remaining).Fits contents publications := by
  cases remaining with
  | nil => trivial
  | cons => exact queued

theorem pairwise_id_valueList (sound : contents.Sound) :
    (valueList contents.entries).Pairwise fun left right => left.id < right.id := by
  rw [← List.pairwise_map (f := OutboxEntry.id) (R := (· < ·)), map_key_valueList sound.keyed]
  exact Std.ExtTreeMap.ordered_keys.imp Std.compare_eq_lt.mp

theorem Queued.oldest (sound : contents.Sound) (publications : List UInt64) (limit : Nat) :
    Queued contents publications ((valueList contents.entries).take limit) := by
  have ascending := pairwise_id_valueList sound
  have live : ∀ entry ∈ valueList contents.entries, entry.id ∈ contents.entries := by
    intro entry member
    obtain ⟨id, present⟩ := mem_valueList.mp member
    rw [sound.keyed id entry present, Std.ExtTreeMap.mem_iff_isSome_getElem?, present]
    rfl
  refine ⟨ascending.sublist (List.take_sublist _ _), fun entry member => ?_,
    fun entry member => .inl (live entry (List.mem_of_mem_take member)),
    fun id member _ => ?_⟩
  · exact sound.below _ (live entry (List.mem_of_mem_take member))
  · rw [Std.ExtTreeMap.mem_iff_isSome_getElem?, Option.isSome_iff_exists] at member
    obtain ⟨entry, present⟩ := member
    have named := sound.keyed id entry present
    have listed := mem_valueList.mpr ⟨id, present⟩
    rw [← List.take_append_drop limit (valueList contents.entries), List.pairwise_append]
      at ascending
    rw [← List.take_append_drop limit (valueList contents.entries), List.mem_append] at listed
    rcases listed with taken | behind
    · exact .inl ⟨entry, taken, named⟩
    · exact .inr fun other waiting => named ▸ ascending.2.2 other waiting entry behind

end Publication

/-- Only published identifiers are acknowledged. -/
def OutboxOperation.Settles (publications : List UInt64) : OutboxOperation → Prop
  | .acknowledge ids _ => ∀ id ∈ ids, id ∈ publications
  | .enqueue _ _ => True
  | .compact _ => True

theorem Progress.of_apply {publications : List UInt64} {before after : OutboxContents}
    {operation : OutboxOperation} (settles : operation.Settles publications)
    (applied : before.apply operation = some after) : Progress publications before after := by
  refine ⟨OutboxContents.nextId_apply applied, fun id member => ?_, fun id member => ?_⟩
  · cases operation with
    | enqueue =>
      obtain ⟨_, _, rfl⟩ := Option.map_eq_some_iff.mp applied
      rw [Std.ExtTreeMap.mem_insert, Std.compare_eq_iff_eq] at member
      rcases member with rfl | earlier
      · exact .inr (UInt64.le_refl _)
      · exact .inl earlier
    | acknowledge =>
      cases applied
      rw [Std.ExtTreeMap.mem_iff_isSome_getElem?, getElem?_removeAll] at member
      split at member
      · cases member
      · exact .inl (Std.ExtTreeMap.mem_iff_isSome_getElem?.mpr member)
    | compact =>
      cases applied
      exact .inl member
  · cases operation with
    | enqueue =>
      obtain ⟨_, _, rfl⟩ := Option.map_eq_some_iff.mp applied
      exact .inl (Std.ExtTreeMap.mem_insert.mpr (.inr member))
    | acknowledge ids =>
      cases applied
      rw [Std.ExtTreeMap.mem_iff_isSome_getElem?, getElem?_removeAll]
      by_cases removed : id ∈ ids
      · exact .inr (settles id removed)
      · rw [if_neg removed]
        exact .inl (Std.ExtTreeMap.mem_iff_isSome_getElem?.mp member)
    | compact =>
      cases applied
      exact .inl member

namespace Journal

variable {journal : Journal} {publications : List UInt64}

theorem perform_progress (records : Records journal.file journal.contents)
    (operation : OutboxOperation) (rollsBack : operation.RollsBack) (settles : operation.Settles publications) :
    Records (journal.perform operation).1.file (journal.perform operation).1.contents ∧
      Progress publications journal.contents (journal.perform operation).1.contents := by
  have effect := perform_effect records operation
  generalize journal.perform operation = result at effect ⊢
  cases effect with
  | succeeded applied records => exact ⟨records, .of_apply settles applied⟩
  | refused _ records => exact ⟨records, .refl _ _⟩
  | torn _ kept | unacknowledged _ kept =>
    exact absurd rollsBack kept

theorem reopen_progress (records : Records journal.file journal.contents)
    (operation : OutboxOperation) (settles : operation.Settles publications) (capacity : Nat) :
    ∃ next, OutboxState.reopen (journal.perform operation).1.file capacity = .opened next ∧
      Records next.file next.contents ∧
      Progress publications journal.contents next.contents := by
  obtain ⟨next, opened, sound, permitted⟩ := openJournal_crashed records operation capacity
  refine ⟨next, by simp [OutboxState.reopen, opened], sound, ?_⟩
  generalize next.contents = recovered at permitted
  cases permitted with
  | lost => exact .refl _ _
  | kept _ applied => exact .of_apply settles applied

theorem mem_of_enqueue {message : OutboxMessage} {outcome : AppendOutcome} {id : UInt64}
    (accepted : id ∈ (journal.enqueue message outcome).2.toOption.toList) :
    id ∈ (journal.enqueue message outcome).1.contents.entries := by
  have returned : (journal.enqueue message outcome).2 = .ok id := by
    generalize (journal.enqueue message outcome).2 = result at accepted
    cases result with
    | error => simp [Except.toOption] at accepted
    | ok => simpa [Except.toOption, eq_comm] using accepted
  simp only [enqueue] at returned ⊢
  split at returned
  · cases returned
  split at returned
  · cases returned
  · cases returned
    simp

end Journal

namespace Delivery

/-- The outbox is open and sound, its passes may continue, and accepted entries are accounted
for. -/
structure Sound (state : Delivery) (journal : Journal) : Prop where
  opened : state.outbox = .opened journal
  records : Records journal.file journal.contents
  inOrder : InOrder journal.contents state.publications
  fits : ∀ pass ∈ state.passes, pass.Fits journal.contents state.publications
  delivered : ∀ id ∈ state.accepted, id ∈ journal.contents.entries ∨ id ∈ state.publications

/-- A state that some open journal accounts for. -/
def Reliable (state : Delivery) : Prop := ∃ journal, state.Sound journal

theorem sound_created (capacity : Nat) :
    (created capacity).Sound ⟨fileHeader, capacity, .empty, none⟩ where
  opened := rfl
  records := .created
  inOrder := ⟨by simp [created], by simp [created], by simp [created]⟩
  fits := by simp [created]
  delivered := by simp [created]

namespace Sound

variable {state : Delivery} {journal next : Journal}

section

variable (sound : state.Sound journal)

include sound

theorem progress (records : Records next.file next.contents)
    (progress : Progress state.publications journal.contents next.contents) :
    { state with outbox := .opened next }.Sound next where
  opened := rfl
  records := records
  inOrder := sound.inOrder.progress progress
  fits pass member := (sound.fits pass member).progress progress
  delivered id member := by
    rcases sound.delivered id member with live | published
    · exact progress.retained id live
    · exact .inr published

theorem accept {ids : List UInt64} (live : ∀ id ∈ ids, id ∈ journal.contents.entries) :
    { state with accepted := state.accepted ++ ids }.Sound journal where
  __ := sound
  delivered id member := by
    rcases List.mem_append.mp member with earlier | new
    · exact sound.delivered id earlier
    · exact .inl (live id new)

theorem replacePass (index : Nat) (pass : DrainPass)
    (fits : pass.Fits journal.contents state.publications) :
    { state with passes := state.passes.set index pass }.Sound journal where
  __ := sound
  fits other member := by
    rcases List.mem_or_eq_of_mem_set member with kept | rfl
    · exact sound.fits other kept
    · exact fits

theorem addPass {pass : DrainPass} (fits : pass.Fits journal.contents state.publications) :
    { state with passes := state.passes ++ [pass] }.Sound journal where
  __ := sound
  fits other member := by
    rcases List.mem_append.mp member with kept | new
    · exact sound.fits other kept
    · rwa [List.mem_singleton.mp new]

end

variable {entry : OutboxEntry} {remaining : List OutboxEntry} {accepted : List UInt64}

theorem publish (sound : state.Sound journal)
    (queued : Queued journal.contents state.publications (entry :: remaining)) :
    { state with publications := state.publications ++ [entry.id] }.Sound journal where
  opened := sound.opened
  records := sound.records
  inOrder := sound.inOrder.publish queued
  fits pass member := (sound.fits pass member).publish entry.id
  delivered id member := (sound.delivered id member).imp_right (List.mem_append_left _)

/-- Passes are dropped and accepted entries forgotten when a process restarts. -/
theorem reopened (sound : state.Sound journal) (records : Records next.file next.contents)
    (progress : Progress state.publications journal.contents next.contents)
    (known : ∀ id ∈ accepted, id ∈ state.accepted) :
    (⟨.opened next, [], accepted, state.publications⟩ : Delivery).Sound next where
  opened := rfl
  records := records
  inOrder := sound.inOrder.progress progress
  fits := by simp
  delivered id member := (sound.progress records progress).delivered id (known id member)

theorem peeked (sound : state.Sound journal) (limit : Nat) :
    (DrainPass.peeked (journal.peek limit)).Fits journal.contents state.publications := by
  simp only [Journal.peek, bind, Except.bind]
  cases journal.ensureHealthy with
  | error => trivial
  | ok => exact .advance (.oldest sound.records.sound _ _) _

theorem acknowledged (queued : Queued journal.contents state.publications remaining)
    (report : DrainReport) (result : Except PortError Nat) :
    (DrainPass.acknowledged report entry remaining result).Fits journal.contents
      state.publications := by
  simp only [DrainPass.acknowledged]
  cases ensureAcknowledged entry.id result with
  | error => trivial
  | ok => exact .advance queued _

section

variable (sound : state.Sound journal)

include sound

/-- A publication that fails ends its pass; one that succeeds is recorded. -/
theorem published (index : Nat) (result : Except PortError Unit) :
    (state.act journal (.publish index result)).Sound journal := by
  simp only [act]
  split
  · rename_i report entry remaining waiting
    have queued := sound.fits _ (List.mem_of_getElem? waiting)
    cases result with
    | error failure =>
      have ended := sound.replacePass index (.returned (.error failure)) trivial
      simpa [Except.toOption, DrainPass.published] using ended
    | ok =>
      have announced : entry.id ∈ state.publications ++ [entry.id] := by simp
      exact (sound.publish queued).replacePass index (.acknowledging report entry remaining)
        ⟨announced, (Queued.publish queued entry.id).tail announced⟩
  · exact sound

theorem settles {index : Nat} {report : DrainReport}
    (waiting : state.passes[index]? = some (.acknowledging report entry remaining))
    (outcome : AppendOutcome) :
    (OutboxOperation.acknowledge [entry.id] outcome).Settles state.publications := by
  intro _ member
  rw [List.mem_singleton.mp member]
  exact (sound.fits _ (List.mem_of_getElem? waiting)).1

theorem acted {action : DeliveryAction} (rollsBack : action.RollsBack) :
    ∃ next, (state.act journal action).Sound next := by
  cases action with
  | enqueue message outcome =>
    have settles : (OutboxOperation.enqueue message outcome).Settles state.publications := trivial
    obtain ⟨records, progress⟩ := Journal.perform_progress sound.records (.enqueue message outcome)
      rollsBack settles
    exact ⟨_, (sound.progress records progress).accept fun _ => Journal.mem_of_enqueue⟩
  | compact outcome =>
    have settles : (OutboxOperation.compact outcome).Settles state.publications := trivial
    obtain ⟨records, progress⟩ := Journal.perform_progress sound.records (.compact outcome)
      rollsBack settles
    exact ⟨_, sound.progress records progress⟩
  | drain limit => exact ⟨journal, sound.addPass (sound.peeked limit)⟩
  | publish index result => exact ⟨journal, sound.published index result⟩
  | acknowledge index outcome =>
    simp only [act]
    split
    · rename_i report entry _ waiting
      obtain ⟨_, queued⟩ := sound.fits _ (List.mem_of_getElem? waiting)
      obtain ⟨records, progress⟩ := Journal.perform_progress sound.records
        (.acknowledge [entry.id] outcome) rollsBack (sound.settles waiting outcome)
      exact ⟨_, (sound.progress records progress).replacePass index _
        (acknowledged (queued.progress progress) report _)⟩
    · exact ⟨journal, sound⟩

theorem restarted (capacity : Nat) (known : ∀ id ∈ accepted, id ∈ state.accepted) :
    ∃ next, { state.restart capacity with accepted }.Sound next := by
  have opened := Journal.openJournal_whole sound.records capacity
  refine ⟨⟨journal.file, capacity, journal.contents, none⟩, ?_⟩
  simp only [restart, sound.opened, OutboxState.file, OutboxState.reopen, opened]
  refine sound.reopened ?_ ?_ known
  · exact sound.records
  · exact .refl _ _

/-- A process that dies during an operation restarts with or without it. -/
theorem interrupted (operation : OutboxOperation) (settles : operation.Settles state.publications)
    (capacity : Nat) :
    ∃ next, (⟨.reopen (journal.perform operation).1.file capacity, [], state.accepted,
      state.publications⟩ : Delivery).Sound next := by
  obtain ⟨next, reopened, records, progress⟩ :=
    Journal.reopen_progress sound.records operation settles capacity
  refine ⟨next, ?_⟩
  rw [reopened]
  exact sound.reopened records progress fun _ member => member

theorem crashed (action : DeliveryAction) (capacity : Nat) :
    ∃ next, { (state.act journal action).restart capacity with
      accepted := state.accepted }.Sound next := by
  cases action with
  | enqueue message outcome => exact sound.interrupted (.enqueue message outcome) trivial capacity
  | compact outcome => exact sound.interrupted (.compact outcome) trivial capacity
  | drain limit =>
    exact (sound.addPass (sound.peeked limit)).restarted capacity fun _ member => member
  | publish index result =>
    refine (sound.published index result).restarted capacity fun id member => ?_
    simp only [act]
    split <;> exact member
  | acknowledge _ outcome =>
    simp only [act]
    split
    · rename_i entry _ waiting
      exact sound.interrupted (.acknowledge [entry.id] outcome) (sound.settles waiting outcome)
        capacity
    · exact sound.restarted capacity fun _ member => member

theorem step {event : DeliveryEvent} (rollsBack : event.RollsBack) :
    (state.step event).Reliable := by
  cases event with
  | live =>
    simp only [Delivery.step, perform, sound.opened]
    exact sound.acted rollsBack
  | restart capacity => exact sound.restarted capacity fun _ member => member
  | crash action capacity =>
    simp only [Delivery.step, perform, sound.opened]
    exact sound.crashed action capacity

end

end Sound

end Delivery

/-- While failed appends are rolled back, every accepted entry is live or has been published, and
entries are published for the first time in ascending order. -/
theorem store_and_forward_in_order (capacity : Nat) (events : List DeliveryEvent)
    (rollsBack : ∀ event ∈ events, event.RollsBack) :
    let final := run Delivery.step (.created capacity) events
    (∀ id ∈ final.accepted, final.outbox.Holds id ∨ id ∈ final.publications) ∧
      final.publications.eraseDups.Pairwise (· < ·) := by
  have reached : (run Delivery.step (.created capacity) events).Reliable := by
    refine invariant_of_mem ?_ ⟨_, Delivery.sound_created capacity⟩
    rintro _ event member ⟨_, sound⟩
    exact sound.step (rollsBack event member)
  obtain ⟨_, sound⟩ := reached
  refine ⟨fun id member => ?_, sound.inOrder.ascending⟩
  rw [sound.opened]
  exact sound.delivered id member

/-- Two entries; a publication and an acknowledgement fail, and the process crashes while it
acknowledges the first entry. -/
def retriedDelivery : List DeliveryEvent :=
  [.live (.enqueue sampleMessage .synced),
    .live (.drain 2),
    .live (.enqueue sampleMessage .synced),
    .live (.publish 0 (.error ⟨.timeout, "uplink did not answer"⟩)),
    .live (.drain 2),
    .live (.publish 1 (.ok ())),
    .live (.acknowledge 1 (.failed 9 writeFailure true)),
    .live (.drain 2),
    .live (.publish 2 (.ok ())),
    .crash (.acknowledge 2 (.failed 9 writeFailure false)) 4,
    .live (.drain 2),
    .live (.publish 0 (.ok ())),
    .live (.acknowledge 0 .synced),
    .live (.publish 0 (.ok ()))]

theorem store_and_forward_in_order_retried : (∀ event ∈ retriedDelivery, event.RollsBack) ∧
      let final := run Delivery.step (.created 4) retriedDelivery
      final.publications = [1, 1, 1, 2] ∧
        (∀ id ∈ final.accepted, final.outbox.Holds id ∨ id ∈ final.publications) ∧
        final.publications.eraseDups.Pairwise (· < ·) := by
  have rollsBack : ∀ event ∈ retriedDelivery, event.RollsBack := by
    simp [retriedDelivery, DeliveryEvent.RollsBack, DeliveryAction.RollsBack,
      AppendOutcome.RollsBack]
  exact ⟨rollsBack, by decide +kernel, store_and_forward_in_order 4 retriedDelivery rollsBack⟩

/-- An acknowledgement fails after four bytes and its rollback fails as well; the next entry is
appended behind the torn record. -/
def tornDelivery : List DeliveryEvent :=
  [.live (.enqueue sampleMessage .synced),
    .live (.drain 1),
    .live (.publish 0 (.ok ())),
    .live (.acknowledge 0 (.failed 4 writeFailure false)),
    .live (.enqueue sampleMessage .synced),
    .restart 4]

/-- The accepted second entry was never published, and the journal does not open again. -/
theorem torn_acknowledgement_strands_entry :
    let final := run Delivery.step (.created 4) tornDelivery
    2 ∈ final.accepted ∧ ¬ final.outbox.Holds 2 ∧ 2 ∉ final.publications := by
  decide +kernel

end AetherIot.Outbox
