import AetherIot.IntegrationControl.ReceiptDelivery

/-!
# The ledger file loads to the state in memory

Loading checks the jobs, deliveries, positions and the last acknowledgement of a document against
each other.  A *sound* state passes all of these checks, so that the document written for it loads
to the same state.  Operations keep a state sound as long as no job is completed with the receipt
identifier of another job.
-/

namespace AetherIot.IntegrationControl

open MachineText OrderedMap CloudLink Bytes GuardedRun LoadedDeliveries LedgerState

/-- What the constructors of keys and claims promise. -/
structure LedgerClaim.WellFormed (claim : LedgerClaim) : Prop where
  key : LedgerJobKey.new claim.key.gatewayId claim.key.jobId = .ok claim.key
  fields : LedgerClaim.new claim.key claim.intentDigest claim.target claim.value
    claim.auditRecordId = .ok claim

variable (digests : CanonicalDigests)

/-- The delivery is the sealed form of its receipt. -/
def SpooledActionReceipt.Sealed (delivery : SpooledActionReceipt) : Prop :=
  SpooledActionReceipt.new digests delivery.position delivery.payload = .ok delivery

/-- Some job has the receipt as its terminal receipt. -/
def MemoryState.Terminal (state : MemoryState) (receipt : ActionReceiptPayload) : Prop :=
  ∃ key intentDigest, state.Completed key intentDigest receipt

/-- The last acknowledgement and the delivery it named. -/
structure LedgerState.Acknowledged (state : LedgerState) (ack : CloudLinkDurableAck)
    (named : SpooledActionReceipt) : Prop where
  last : state.lastAck = some ack
  lastTerminal : state.lastAckTerminal = some named
  agrees : validateAckAgainstTerminal ack named = .ok ()
  sealed : named.Sealed digests
  terminal : state.Terminal named.payload

/-- States whose document loads. -/
structure LedgerState.Sound (state : LedgerState) : Prop where
  spooled : state.Spooled
  positive : 0 < state.nextPosition
  bounded : state.jobs.size ≤ maxJobs
  entries : ∀ (key : LedgerJobKey) (entry : LedgerEntry),
    state.jobs[key]? = some entry → validateFileJob ⟨key, entry⟩ = .ok ()
  sealed : ∀ (id : String) (delivery : SpooledActionReceipt),
    state.deliveries[id]? = some delivery → delivery.Sealed digests
  terminal : ∀ (id : String) (delivery : SpooledActionReceipt),
    state.deliveries[id]? = some delivery → state.Terminal delivery.payload
  acknowledged : state.lastAck = none ∧ state.lastAckTerminal = none ∨
    ∃ ack named, state.Acknowledged digests ack named

section Checks

variable {digests : CanonicalDigests} {delivery : SpooledActionReceipt} {key : LedgerJobKey}

theorem SpooledActionReceipt.Sealed.validate (sealed : delivery.Sealed digests) :
    delivery.validate digests = .ok () := by
  rw [SpooledActionReceipt.Sealed] at sealed
  simp [SpooledActionReceipt.validate, sealed, bind, Except.bind, pure, Except.pure]

theorem SpooledActionReceipt.Sealed.position_pos (sealed : delivery.Sealed digests) :
    0 < delivery.position :=
  UInt64.pos_iff_ne_zero.mpr (SpooledActionReceipt.new_eq_ok sealed).2.2.1

theorem LedgerClaim.WellFormed.validateFileJob {claim : LedgerClaim} (formed : claim.WellFormed) :
    validateFileJob ⟨claim.key, .inProgress claim⟩ = .ok () := by
  simp [IntegrationControl.validateFileJob, LedgerEntry.inProgress, formed.key, formed.fields,
    storeResult, bind, Except.bind, pure, Except.pure]

/-- A job that passes the check has a well-formed key. -/
theorem key_of_validateFileJob {entry : LedgerEntry} (valid : validateFileJob ⟨key, entry⟩ = .ok ()) :
    LedgerJobKey.new key.gatewayId key.jobId = .ok key := by
  simp only [validateFileJob, bind, Except.bind] at valid
  cases rebuilt : LedgerJobKey.new key.gatewayId key.jobId with
  | error => simp [rebuilt, storeResult] at valid
  | ok found =>
    by_cases same : found = key
    · rw [same]
    · simp [rebuilt, storeResult, same] at valid

theorem validateFileJob_complete {intentDigest : String} {receipt : ActionReceiptPayload}
    (formed : LedgerJobKey.new key.gatewayId key.jobId = .ok key)
    (contract : receipt.validateContract = .ok ())
    (names : receipt.jobId = key.jobId ∧ receipt.intentDigest = intentDigest) :
    validateFileJob ⟨key, .complete intentDigest receipt⟩ = .ok () := by
  simp [validateFileJob, LedgerEntry.complete, formed, contract, names, storeResult, bind,
    Except.bind, pure, Except.pure]

theorem position_of_agrees {ack : CloudLinkDurableAck} {named : SpooledActionReceipt}
    (agrees : validateAckAgainstTerminal ack named = .ok ()) :
    named.position = ack.acknowledgedPosition := by
  simp only [validateAckAgainstTerminal, Attempt.bind_eq_ok, Attempt.refuse_eq_ok] at agrees
  obtain ⟨_, -, accepted, -⟩ := agrees
  simp only [Bool.or_eq_true, decide_eq_true_eq, not_or, not_not] at accepted
  exact accepted.1.1

end Checks

/-- The deliveries that loading has collected after some entries of the map. -/
def LoadedDeliveries.ofEntries (entries : List (String × SpooledActionReceipt)) :
    LoadedDeliveries where
  byReceipt := (∅ : BTreeMap String SpooledActionReceipt).insertMany entries
  byPosition := (∅ : BTreeMap UInt64 SpooledActionReceipt).insertMany
    (entries.map fun entry => (entry.2.position, entry.2))

/-- The deliveries by position, as loading collects them. -/
def MemoryState.byPosition (state : MemoryState) : BTreeMap UInt64 SpooledActionReceipt :=
  (ofEntries state.deliveries.toList).byPosition

variable {state : MemoryState}

theorem MemoryState.Spooled.nodup_positions (spooled : state.Spooled) :
    ((state.deliveries.toList.map fun entry => (entry.2.position, entry.2)).map
      Prod.fst).Nodup := by
  have distinct := nodup_map_valueList spooled.distinct
  rw [valueList, List.map_map] at distinct
  rw [List.map_map]
  exact distinct

theorem MemoryState.Spooled.byPosition_eq_some (spooled : state.Spooled) {position : UInt64}
    {delivery : SpooledActionReceipt} :
    state.byPosition[position]? = some delivery ↔ delivery.position = position ∧
        state.deliveries[delivery.payload.receiptId]? = some delivery := by
  rw [byPosition, ofEntries, getElem?_insertMany_empty spooled.nodup_positions]
  simp only [List.mem_map, Prod.mk.injEq, Prod.exists, Std.ExtTreeMap.mem_toList_iff_getElem?_eq_some]
  constructor
  · rintro ⟨id, found, present, position, rfl⟩
    exact ⟨position, spooled.keyed id found present ▸ present⟩
  · rintro ⟨position, present⟩
    exact ⟨_, delivery, present, position, rfl⟩

namespace LedgerState.Sound

variable {digests : CanonicalDigests} {state : LedgerState}

section

variable (sound : state.Sound digests)

include sound

/-- Every delivery belongs to a job of its own. -/
theorem size_deliveries_le : state.deliveries.size ≤ maxJobs := by
  have nodup : ((valueList state.deliveries).map fun delivery =>
      LedgerEntryState.complete delivery.payload).Nodup := by
    apply nodup_map_valueList
    intro id other left right leftPresent rightPresent same
    rw [LedgerEntryState.complete.injEq] at same
    rw [← sound.spooled.keyed id left leftPresent, ← sound.spooled.keyed other right rightPresent,
      same]
  have owned : ((valueList state.deliveries).map fun delivery =>
      LedgerEntryState.complete delivery.payload) ⊆
        (valueList state.jobs).map LedgerEntry.state := by
    intro _ member
    obtain ⟨delivery, held, rfl⟩ := List.mem_map.mp member
    obtain ⟨id, present⟩ := mem_valueList.mp held
    obtain ⟨key, _, stored⟩ := sound.terminal id delivery present
    exact List.mem_map.mpr ⟨_, mem_valueList.mpr ⟨key, stored⟩, rfl⟩
  have count := (nodup.subperm owned).length_le
  rw [List.length_map, List.length_map, length_valueList, length_valueList] at count
  exact count.trans sound.bounded

theorem load_jobs : state.document.jobs.foldlM loadJob ∅ = .ok state.jobs := by
  refine foldlM_insert fun grown key entry present absent => ?_
  simp [loadJob, sound.entries key entry present, absent, bind, Except.bind, pure, Except.pure]

theorem load_deliveries : state.document.deliveries.foldlM (loadDelivery digests) ⟨∅, ∅⟩ =
      .ok ⟨state.deliveries, state.byPosition⟩ := by
  have steps : ∀ (front : List (String × SpooledActionReceipt))
      (entry : String × SpooledActionReceipt) (back : List (String × SpooledActionReceipt)),
      state.deliveries.toList = front ++ entry :: back →
        loadDelivery digests (.ofEntries front) entry.2 = .ok (.ofEntries (front ++ [entry])) := by
    rintro front ⟨id, delivery⟩ _ whole
    have present : state.deliveries[id]? = some delivery := by
      rw [← Std.ExtTreeMap.mem_toList_iff_getElem?_eq_some, whole]
      simp
    have named : delivery.payload.receiptId = id := sound.spooled.keyed id delivery present
    have receipts := nodup_keys_toList state.deliveries
    have positions := sound.spooled.nodup_positions
    rw [whole] at receipts positions
    rw [List.map_append, List.map_cons] at positions
    have freshReceipt : id ∉ (ofEntries front).byReceipt := not_mem_insertMany receipts
    have freshPosition : delivery.position ∉ (ofEntries front).byPosition :=
      not_mem_insertMany positions
    simp only [loadDelivery, (sound.sealed id delivery present).validate, bind, Except.bind, named]
    rw [if_neg (not_or.mpr ⟨freshPosition, freshReceipt⟩)]
    simp [ofEntries, Std.ExtTreeMap.insertMany_append,
      Std.ExtTreeMap.insertMany_list_singleton, pure, Except.pure]
  have folded := foldlM_images ofEntries steps
  have whole : ofEntries state.deliveries.toList = ⟨state.deliveries, state.byPosition⟩ := by
    rw [MemoryState.byPosition, ofEntries, insertMany_toList]
  rw [whole] at folded
  exact folded

theorem load_pending : state.document.pendingPositions.foldlM (loadPending state.byPosition) ∅ =
      .ok state.pending := by
  rw [document, ← Std.ExtTreeMap.map_fst_toList_eq_keys]
  refine foldlM_insert fun grown position delivery pending absent => ?_
  obtain ⟨same, present, -⟩ := (sound.spooled.queued position delivery).mp pending
  have found := sound.spooled.byPosition_eq_some.mpr ⟨same, present⟩
  simp only [loadPending, found]
  rw [if_neg absent]

theorem positions_assigned :
    (state.byPosition.keys.getLast?.any fun position => position ≥ state.nextPosition) = false := by
  rw [Option.any_eq_false]
  intro position last
  have member : position ∈ state.byPosition :=
    Std.ExtTreeMap.mem_keys.mp (List.mem_of_getLast? last)
  rw [Std.ExtTreeMap.mem_iff_isSome_getElem?, Option.isSome_iff_exists] at member
  obtain ⟨delivery, found⟩ := member
  obtain ⟨same, present⟩ := sound.spooled.byPosition_eq_some.mp found
  have assigned := sound.spooled.assigned _ delivery present
  rw [same] at assigned
  simpa using assigned

theorem all_hasDelivery : (valueList state.jobs).all (hasDelivery state.deliveries) = true := by
  rw [List.all_eq_true]
  intro entry member
  obtain ⟨key, present⟩ := mem_valueList.mp member
  obtain ⟨intentDigest, status⟩ := entry
  cases status with
  | inProgress => rfl
  | complete receipt =>
    obtain ⟨_, held, contents⟩ := sound.spooled.delivered key intentDigest receipt present
    simp [hasDelivery, held, contents]

theorem validateLastAck_ok :
    validateLastAck digests state.nextPosition state.deliveries state.pending state.lastAck
      state.lastAckTerminal = .ok () := by
  rcases sound.acknowledged with ⟨last, terminal⟩ | ⟨ack, named, acked⟩
  · rw [last, terminal]
    rfl
  · have assigned : ¬ named.position ≥ state.nextPosition := by
      rw [position_of_agrees acked.agrees, ge_iff_le, UInt64.not_le]
      exact sound.spooled.behind ack acked.last
    obtain ⟨key, intentDigest, stored⟩ := acked.terminal
    obtain ⟨_, held, contents⟩ := sound.spooled.delivered key intentDigest _ stored
    have above : (firstKey state.pending).any (fun position =>
        position ≤ ack.acknowledgedPosition) = false := by
      rw [Option.any_eq_false]
      intro position first
      have member := (firstKey_eq_some_iff.mp first).1
      rw [Std.ExtTreeMap.mem_iff_isSome_getElem?, Option.isSome_iff_exists] at member
      obtain ⟨queued, pending⟩ := member
      have beyond := ((sound.spooled.queued position queued).mp pending).2.2
      simpa using MemoryState.acknowledges_eq_false.mp beyond ack acked.last
    rw [acked.last, acked.lastTerminal]
    simp [validateLastAck, acked.sealed.validate, acked.agrees, assigned, held, contents, above,
      bind, Except.bind, pure, Except.pure]

theorem pendingAgrees_ok : pendingAgrees state.byPosition state.pending
      ((state.lastAck.map fun ack => ack.acknowledgedPosition).getD 0) = true := by
  rw [pendingAgrees, List.all_eq_true]
  rintro ⟨position, delivery⟩ member
  rw [Std.ExtTreeMap.mem_toList_iff_getElem?_eq_some] at member
  obtain ⟨same, present⟩ := sound.spooled.byPosition_eq_some.mp member
  have positive := (sound.sealed _ delivery present).position_pos
  rw [same] at positive
  have above : (state.lastAck.map fun ack => ack.acknowledgedPosition).getD 0 < position ↔
      state.acknowledges position = false := by
    rw [MemoryState.acknowledges_eq_false]
    cases state.lastAck with
    | none => simpa using positive
    | some => simp
  simp only [decide_eq_true_eq, sound.spooled.queued position delivery, same, present, true_and,
    above]

/-- The document of a sound state loads to the state. -/
theorem loadDocument_document : loadDocument digests state.document = .ok state := by
  have jobs : ¬ state.document.jobs.length > maxJobs := by
    rw [document, List.length_map, Std.ExtTreeMap.length_toList, not_lt]
    exact sound.bounded
  have deliveries : ¬ state.document.deliveries.length > maxJobs := by
    rw [document, length_valueList, not_lt]
    exact sound.size_deliveries_le
  have positive : state.document.nextPosition ≠ 0 := (UInt64.ne_of_lt sound.positive).symm
  have schema : state.document.schema = fileSchema := rfl
  simp only [loadDocument, schema, jobs, deliveries, positive, ne_eq, not_true_eq_false,
    decide_false, Bool.or_self, Bool.false_eq_true, if_false, sound.load_jobs,
    sound.load_deliveries, bind, Except.bind]
  simp only [show state.document.nextPosition = state.nextPosition from rfl,
    show state.document.lastAck = state.lastAck from rfl,
    show state.document.lastAckTerminal = state.lastAckTerminal from rfl,
    sound.positions_assigned, sound.all_hasDelivery, sound.load_pending, sound.validateLastAck_ok,
    sound.pendingAgrees_ok, Bool.not_true, Bool.false_eq_true, if_false]
  rfl

end

end LedgerState.Sound

theorem LedgerState.sound_empty (digests : CanonicalDigests) : empty.Sound digests where
  spooled := MemoryState.spooled_empty
  positive := by decide
  bounded := by decide
  entries key entry present := by simp [empty, MemoryState.empty] at present
  sealed id delivery present := by simp [empty, MemoryState.empty] at present
  terminal id delivery present := by simp [empty, MemoryState.empty] at present
  acknowledged := .inl ⟨rfl, rfl⟩

/-- The operation does not claim a malformed job and does not complete a job with a receipt
identifier that is taken. -/
structure LedgerState.Accepts (state : LedgerState) (operation : LedgerOperation) : Prop where
  admits : state.Admits operation
  formed : ∀ claim, operation = .claim claim → claim.WellFormed

namespace LedgerState.Sound

variable {digests : CanonicalDigests} {state next : LedgerState} {operation : LedgerOperation}
  {reply : LedgerReply}

theorem sealed_step (sound : state.Sound digests)
    (computes : Computes digests state operation next reply) (id : String)
    (delivery : SpooledActionReceipt) (present : next.deliveries[id]? = some delivery) :
    delivery.Sealed digests := by
  rcases computes.effect.delivery_cases present with old | new
  · exact sound.sealed id delivery old
  · exact new.sealed

theorem terminal_mono {receipt : ActionReceiptPayload}
    (computes : Computes digests state operation next reply) (terminal : state.Terminal receipt) :
    next.Terminal receipt := by
  obtain ⟨key, intentDigest, stored⟩ := terminal
  exact ⟨key, intentDigest, computes.effect.completed_mono stored⟩

section

variable (sound : state.Sound digests) (accepts : state.Accepts operation)
  (computes : Computes digests state operation next reply)

include sound accepts computes in
theorem entries_step (key : LedgerJobKey)
    (entry : LedgerEntry) (present : next.jobs[key]? = some entry) :
    validateFileJob ⟨key, entry⟩ = .ok () := by
  rcases computes.effect.entry_cases present with
    old | ⟨claim, claims, rfl, rfl⟩ | ⟨intentDigest, receipt, inProgress, names, rfl⟩
  · exact sound.entries key entry old
  · exact (accepts.formed claim claims).validateFileJob
  · obtain ⟨_, claimed⟩ := inProgress
    have spooled := computes.effect.keeps_spooled sound.spooled accepts.admits
    obtain ⟨delivery, held, contents⟩ := spooled.delivered key intentDigest receipt present
    have sealed := sound.sealed_step computes _ delivery held
    have contract := (SpooledActionReceipt.new_eq_ok sealed).2.2.2
    rw [contents] at contract
    exact validateFileJob_complete (key_of_validateFileJob (sound.entries key _ claimed)) contract
      names

include sound computes in
theorem acknowledged_step : next.lastAck = none ∧ next.lastAckTerminal = none ∨
      ∃ ack named, next.Acknowledged digests ack named := by
  rcases computes.terminal with
    ⟨last, lastTerminal⟩ | ⟨ack, named, last, lastTerminal, agrees, deliveries, pending⟩
  · rcases sound.acknowledged with ⟨none, noTerminal⟩ | ⟨ack, named, acked⟩
    · exact .inl ⟨last.trans none, lastTerminal.trans noTerminal⟩
    · exact .inr ⟨ack, named, last.trans acked.last, lastTerminal.trans acked.lastTerminal,
        acked.agrees, acked.sealed, terminal_mono computes acked.terminal⟩
  · obtain ⟨-, present, -⟩ := (sound.spooled.queued named.position named).mp pending
    exact .inr ⟨ack, named, last, lastTerminal, agrees, sound.sealed _ named present,
      terminal_mono computes (sound.terminal _ named present)⟩

include sound accepts computes in
theorem step : next.Sound digests where
  spooled := computes.effect.keeps_spooled sound.spooled accepts.admits
  positive := UInt64.lt_of_lt_of_le sound.positive computes.effect.nextPosition_le
  bounded := computes.bounded sound.bounded
  entries := sound.entries_step accepts computes
  sealed := sound.sealed_step computes
  terminal id delivery present := by
    rcases computes.effect.delivery_cases present with old | new
    · exact terminal_mono computes (sound.terminal id delivery old)
    · exact new.terminal
  acknowledged := sound.acknowledged_step computes

end

end LedgerState.Sound

section File

variable {digests : CanonicalDigests} {codec : Codec FileDocument} {state : LedgerState}
  {file written : Option (List UInt8)} {outcome : PersistOutcome}

theorem load_persisted (sound : state.Sound digests)
    (persisted : persist codec file state outcome = (written, .ok ())) :
    load digests codec written = .ok state := by
  simp only [persist] at persisted
  cases encoded : codec.encode state.document with
  | error => simp [encoded] at persisted
  | ok bytes =>
    simp only [encoded] at persisted
    split at persisted
    · simp at persisted
    · rename_i fits
      simp only [Bool.or_eq_true, List.isEmpty_iff, decide_eq_true_eq, not_or] at fits
      have bounds : ¬ (bytes.length = 0 ∨ bytes.length > maxFileBytes) := by
        rw [List.length_eq_zero_iff]
        exact not_or.mpr fits
      cases outcome with
      | failed => simp at persisted
      | written =>
        simp only [Prod.mk.injEq, and_true] at persisted
        subst persisted
        rw [load, if_neg bounds, codec.decode_encode _ _ encoded]
        exact sound.loadDocument_document

/-- A failed replacement that was not carried out leaves the file. -/
theorem file_of_persist_failed {failure : ControlStoreError}
    (persisted : persist codec file state outcome = (written, .error failure))
    (intact : outcome ≠ .failed true) : written = file := by
  simp only [persist] at persisted
  split at persisted
  · simp only [Prod.mk.injEq] at persisted
    exact persisted.1.symm
  · split at persisted
    · simp only [Prod.mk.injEq] at persisted
      exact persisted.1.symm
    · cases outcome with
      | written => simp at persisted
      | failed replaced =>
        cases replaced with
        | true => exact absurd rfl intact
        | false =>
          simp only [Bool.false_eq_true, if_false, Prod.mk.injEq] at persisted
          exact persisted.1.symm

namespace FileLedger

/-- The state in memory is sound and the file loads to it. -/
structure Faithful (digests : CanonicalDigests) (codec : Codec FileDocument)
    (ledger : FileLedger) : Prop where
  sound : ledger.state.Sound digests
  loads : load digests codec ledger.file = .ok ledger.state

/-- The condition under which a call keeps the file loadable: its operation is accepted, and the
replacement of the file does not fail after it was carried out. -/
structure Safe (ledger : FileLedger) (input : LedgerOperation × PersistOutcome) : Prop where
  accepts : ledger.state.Accepts input.1
  intact : input.2 ≠ .failed true

variable {ledger : FileLedger}

theorem faithful_open (opened : openLedger digests codec none outcome = (file, .ok ledger)) :
    ledger.Faithful digests codec := by
  have sound := sound_empty digests
  simp only [openLedger, load] at opened
  cases persisted : persist codec none .empty outcome with
  | mk _ result =>
    cases result with
    | error => simp [persisted] at opened
    | ok =>
      simp only [persisted, Prod.mk.injEq, Except.ok.injEq] at opened
      obtain ⟨-, rfl⟩ := opened
      exact ⟨sound, load_persisted sound persisted⟩

/-- A safe call keeps the file loadable. -/
theorem Faithful.step {input : LedgerOperation × PersistOutcome}
    (faithful : ledger.Faithful digests codec) (safe : ledger.Safe input) :
    ((fileLedger digests codec).step ledger input).Faithful digests codec := by
  change (ledger.perform digests codec input.1 input.2).1.Faithful digests codec
  simp only [perform, mutate]
  cases computed : ledger.state.compute digests input.1 with
  | error => exact faithful
  | ok result =>
    obtain ⟨next, _⟩ := result
    have sound := faithful.sound.step safe.accepts (compute_computes computed)
    by_cases same : next = ledger.state
    · simp only [same, if_true]
      exact faithful
    · simp only [same, if_false]
      cases persisted : persist codec ledger.file next input.2 with
      | mk file result =>
        cases result with
        | error =>
          refine ⟨faithful.sound, ?_⟩
          change load digests codec file = .ok ledger.state
          rw [file_of_persist_failed persisted safe.intact]
          exact faithful.loads
        | ok => exact ⟨sound, load_persisted sound persisted⟩

end FileLedger

end File

/-- In every run of safe calls on a fresh ledger, the file loads to exactly the state in memory after
each call. -/
theorem ledger_file_stays_loadable (digests : CanonicalDigests) (codec : Codec FileDocument)
    (outcome : PersistOutcome) (file : Option (List UInt8)) (ledger : FileLedger)
    (inputs : List (LedgerOperation × PersistOutcome))
    (opened : FileLedger.openLedger digests codec none outcome = (file, .ok ledger))
    (safe : Guarded (fileLedger digests codec).step FileLedger.Safe ledger inputs) :
    load digests codec (run (fileLedger digests codec).step ledger inputs).file =
      .ok (run (fileLedger digests codec).step ledger inputs).state :=
  (invariant (fun _ _ faithful safe => FileLedger.Faithful.step faithful safe)
    (FileLedger.faithful_open opened) safe).loads

theorem bedroomClaim_wellFormed : bedroomClaim.WellFormed := ⟨by decide +kernel, by decide +kernel⟩

theorem admits_of_fresh {key : LedgerJobKey} {intentDigest : String}
    {receipt : ActionReceiptPayload} (fresh : state.deliveries[receipt.receiptId]? = none) :
    state.Admits (.complete key intentDigest receipt) := by
  intro _ _ present
  cases fresh.symm.trans present

theorem ledger_file_stays_loadable_bedroom :
    load sampleDigests bedroomCodec (run (fileLedger sampleDigests bedroomCodec).step
        freshLedger (written bedroomOperations)).file =
      .ok (run (fileLedger sampleDigests bedroomCodec).step freshLedger
        (written bedroomOperations)).state := by
  refine ledger_file_stays_loadable sampleDigests bedroomCodec .written freshLedger.file
    freshLedger (written bedroomOperations) (by decide +kernel) ?_
  refine ⟨⟨⟨trivial, ?_⟩, by simp⟩, ⟨⟨?_, by simp⟩, by simp⟩, ⟨⟨trivial, by simp⟩, by simp⟩,
    ⟨⟨trivial, by simp⟩, by simp⟩, trivial⟩
  · rintro _ ⟨⟩
    exact bedroomClaim_wellFormed
  · exact admits_of_fresh (by decide +kernel)

/-- The replies of a run, in order. -/
def LedgerMachine.replies {digests : CanonicalDigests} {σ ι : Type}
    (machine : LedgerMachine digests σ ι) : σ → List ι → List (Except ControlStoreError LedgerReply)
  | _, [] => []
  | state, input :: inputs =>
    (machine.perform state input).2 :: replies machine (machine.step state input) inputs

def clashingKey : LedgerJobKey := ⟨bedroomKey.gatewayId, clashingReceipt.jobId⟩

def clashingOperations : List LedgerOperation :=
  [.claim bedroomClaim, .complete bedroomKey bedroomDigest bedroomReceipt,
    .claim { bedroomClaim with key := clashingKey },
    .complete clashingKey bedroomDigest clashingReceipt]

def clashingCodec : Codec FileDocument :=
  FileDocument.codec (runDocuments clashingOperations) (by decide +kernel)

/-- Completing two jobs with different receipts of one identifier is accepted, and leaves a file that
does not load. -/
theorem reused_receipt_id_strands_ledger :
    FileLedger.openLedger sampleDigests clashingCodec none .written =
        (freshLedger.file, .ok freshLedger) ∧
      (fileLedger sampleDigests clashingCodec).replies freshLedger (written clashingOperations) =
        [.ok (.claim .claimed), .ok .completed, .ok (.claim .claimed), .ok .completed] ∧
      load sampleDigests clashingCodec (run (fileLedger sampleDigests clashingCodec).step
        freshLedger (written clashingOperations)).file = .error {} := by
  decide +kernel

end AetherIot.IntegrationControl
