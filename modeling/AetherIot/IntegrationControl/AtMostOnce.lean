import AetherIot.Foundation.CallPool
import AetherIot.IntegrationControl.LedgerEffect
import AetherIot.IntegrationControl.ProcessorTrace

/-!
# A job is executed at most once

Any number of calls of processors run over one file ledger, interleaved at every call of an injected
component, with crashes, failed writes and lost audit records anywhere.  The provider is called at
most once for a job, with the target and value of the offer that the job is bound to, and only after
the dispatch was audited and the claim is in the file.
-/

namespace AetherIot.IntegrationControl

open MachineText OrderedMap CloudLink Bytes GuardedRun CallPool LedgerState Attempt

/-- What the injected components other than the ledger answer at some moment, and how a replacement
of the ledger file ends then. -/
structure ControlWorld where
  verify : String → String → List UInt8 → Except ControlDependencyError Bool
  now : UInt64
  nextReceiptId : String
  resolve : String → ActionTarget → Except ControlDependencyError ResolvedControlTarget
  evaluate : ActionOffer → ResolvedControlTarget →
    Except ControlDependencyError LocalAuthorityDecision
  record : AuditEvent → Except ControlDependencyError AuditRecord
  execute : Nat → IntegrationPowerAction → Option ProviderExecutionResult
  persist : PersistOutcome

/-- The ledger file, and the state in memory while the ledger is open. -/
structure ControlHost where
  file : Option (List UInt8)
  state : Option LedgerState

namespace ControlHost

/-- Change the ledger. -/
def mutate {α : Type} (codec : Codec FileDocument) (host : ControlHost)
    (operation : LedgerState → Except ControlStoreError (LedgerState × α))
    (outcome : PersistOutcome) : ControlHost × Except ControlStoreError α :=
  match host.state with
  | none => (host, .error {})
  | some state =>
    let (ledger, result) := FileLedger.mutate codec ⟨host.file, state⟩ (operation state) outcome
    (⟨ledger.file, some ledger.state⟩, result)

def read {α : Type} (host : ControlHost) (query : LedgerState → α) : Except ControlStoreError α :=
  match host.state with
  | none => .error {}
  | some state => .ok (query state)

def serve (digests : CanonicalDigests) (codec : Codec FileDocument) (host : ControlHost)
    (world : ControlWorld) : (request : ControlRequest) → ControlHost × request.Reply
  | .verify keyId signature signingBytes => (host, world.verify keyId signature signingBytes)
  | .now => (host, world.now)
  | .nextReceiptId => (host, world.nextReceiptId)
  | .resolve gatewayId target => (host, world.resolve gatewayId target)
  | .evaluate offer target => (host, world.evaluate offer target)
  | .record event => (host, world.record event)
  | .find key => (host, host.read fun state => state.jobs[key]?)
  | .claim claim => host.mutate codec (fun state => state.claim claim) world.persist
  | .complete key intentDigest receipt =>
    host.mutate codec (fun state => state.complete digests key intentDigest receipt) world.persist
  | .requeue key => host.mutate codec (fun state => state.requeue digests key) world.persist
  | .interrupted => (host, host.read fun state => state.interrupted)
  | .execute timeout action => (host, world.execute timeout action)

def acknowledge (codec : Codec FileDocument) (host : ControlHost)
    (input : CloudLinkDurableAck × PersistOutcome) : ControlHost :=
  (host.mutate codec (fun state => state.acknowledge input.1) input.2).1

/-- Open the ledger again after a crash. -/
def reopen (digests : CanonicalDigests) (codec : Codec FileDocument) (host : ControlHost)
    (outcome : PersistOutcome) : ControlHost :=
  let (file, opened) := FileLedger.openLedger digests codec host.file outcome
  ⟨file, opened.toOption.map FileLedger.state⟩

end ControlHost

open ControlHost

/-- The components as the calls see them. -/
def controlService (digests : CanonicalDigests) (codec : Codec FileDocument) :
    Service ControlRequest.Reply ControlHost ControlWorld (CloudLinkDurableAck × PersistOutcome)
      PersistOutcome where
  serve := serve digests codec
  interfere := acknowledge codec
  restart := reopen digests codec

/-- The job is bound to the digest in memory. -/
def MemoryState.Binds (state : MemoryState) (key : LedgerJobKey) (intentDigest : String) : Prop :=
  ∃ entry, state.jobs[key]? = some entry ∧ entry.intentDigest = intentDigest

/-- The job is bound to the digest in the file. -/
def FileBinds (codec : Codec FileDocument) (file : Option (List UInt8)) (key : LedgerJobKey)
    (intentDigest : String) : Prop :=
  ∃ bytes document entry, file = some bytes ∧ codec.decode bytes = .ok document ∧
    ⟨key, entry⟩ ∈ document.jobs ∧ entry.intentDigest = intentDigest

/-- The job is bound to the digest in the file, and in memory while the ledger is open. -/
structure ControlHost.Bound (codec : Codec FileDocument) (host : ControlHost) (key : LedgerJobKey)
    (intentDigest : String) : Prop where
  persisted : FileBinds codec host.file key intentDigest
  remembered : ∀ state, host.state = some state → state.Binds key intentDigest

section Bound

variable {digests : CanonicalDigests} {codec : Codec FileDocument} {key : LedgerJobKey}
  {intentDigest : String}

/-- No operation unbinds a job or binds it to another digest. -/
theorem LedgerEffect.binds_mono {before : MemoryState} {operation : LedgerOperation}
    {result : MemoryState × Except ControlStoreError LedgerReply}
    (effect : LedgerEffect digests before operation result)
    (binds : before.Binds key intentDigest) : result.1.Binds key intentDigest := by
  obtain ⟨entry, present, bound⟩ := binds
  have finished : ∀ {state : MemoryState} {other : LedgerJobKey} {claimed : String}
      {receipt : ActionReceiptPayload}, state.jobs = before.jobs →
      before.InProgress other claimed →
        (state.finish other claimed receipt).Binds key intentDigest := by
    intro _ other claimed receipt same inProgress
    obtain ⟨claim, found⟩ := inProgress
    by_cases equal : other = key
    · subst equal
      cases found.symm.trans present
      exact ⟨.complete claimed receipt, by simp [MemoryState.finish], bound⟩
    · refine ⟨entry, ?_, bound⟩
      simp [MemoryState.finish, same, Std.ExtTreeMap.getElem?_insert, equal, present]
  cases effect with
  | refused | known | repeated | requeued
  | renewed | duplicate | applied =>
    exact ⟨entry, present, bound⟩
  | @claimed claim fresh =>
    refine ⟨entry, ?_, bound⟩
    have different : claim.key ≠ key := by
      rintro rfl
      cases fresh.symm.trans present
    simp [Std.ExtTreeMap.getElem?_insert, different, present]
  | completed inProgress | joined inProgress =>
    exact finished rfl inProgress

variable {state next : LedgerState} {jobs loaded : BTreeMap LedgerJobKey LedgerEntry}
  {claim : LedgerClaim} {outcome : PersistOutcome}

theorem fileBinds_document {bytes : List UInt8} (encoded : codec.encode state.document = .ok bytes)
    (binds : state.Binds key intentDigest) :
    FileBinds codec (some bytes) key intentDigest := by
  obtain ⟨entry, present, bound⟩ := binds
  refine ⟨bytes, state.document, entry, rfl, codec.decode_encode _ _ encoded, ?_, bound⟩
  have member : (key, entry) ∈ state.jobs.toList :=
    Std.ExtTreeMap.mem_toList_iff_getElem?_eq_some.mpr present
  exact List.mem_map.mpr ⟨(key, entry), member, rfl⟩

/-- The file after a replacement is the old one or the new document. -/
theorem persist_cases (codec : Codec FileDocument) (file : Option (List UInt8))
    (state : LedgerState) (outcome : PersistOutcome) :
    persist codec file state outcome = (file, .error {}) ∨
      ∃ bytes result, codec.encode state.document = .ok bytes ∧
        persist codec file state outcome = (some bytes, result) := by
  rw [persist]
  cases encoded : codec.encode state.document with
  | error => exact .inl rfl
  | ok bytes =>
    dsimp only
    split
    · exact .inl rfl
    · cases outcome with
      | written => exact .inr ⟨bytes, _, rfl, rfl⟩
      | failed replaced =>
        cases replaced with
        | true => exact .inr ⟨bytes, _, rfl, rfl⟩
        | false => exact .inl rfl

theorem FileLedger.mutate_binds {α : Type} (ledger : FileLedger)
    {operation : Except ControlStoreError (LedgerState × α)} (outcome : PersistOutcome)
    (keeps : ∀ next result, operation = .ok (next, result) → next.Binds key intentDigest)
    (persisted : FileBinds codec ledger.file key intentDigest)
    (remembered : ledger.state.Binds key intentDigest) :
    FileBinds codec (ledger.mutate codec operation outcome).1.file key intentDigest ∧
      (ledger.mutate codec operation outcome).1.state.Binds key intentDigest := by
  cases operation with
  | error => exact ⟨persisted, remembered⟩
  | ok computed =>
    obtain ⟨next, result⟩ := computed
    have binds := keeps next result rfl
    simp only [mutate]
    split
    · exact ⟨persisted, remembered⟩
    · rcases persist_cases codec ledger.file next outcome with
        failed | ⟨bytes, done, encoded, replaced⟩
      · rw [failed]
        exact ⟨persisted, remembered⟩
      · rw [replaced]
        have written := fileBinds_document encoded binds
        cases done with
        | error => exact ⟨written, remembered⟩
        | ok => exact ⟨written, binds⟩

theorem LedgerState.binds_compute (digests : CanonicalDigests) (operation : LedgerOperation)
    {reply : LedgerReply} (computed : state.compute digests operation = .ok (next, reply))
    (binds : state.Binds key intentDigest) : next.Binds key intentDigest :=
  (compute_computes computed).effect.binds_mono binds

theorem loadJob_eq_ok {fileJob : FileJob} (accepted : loadJob jobs fileJob = .ok loaded) :
    fileJob.key ∉ jobs ∧ loaded = jobs.insert fileJob.key fileJob.entry := by
  simp only [loadJob, bind_eq_ok, refuse_eq_ok] at accepted
  obtain ⟨_, -, absent, inserted⟩ := accepted
  cases inserted
  exact ⟨absent, rfl⟩

/-- Loading jobs keeps the jobs there were and adds every job of the document. -/
theorem foldlM_loadJob {fileJobs : List FileJob}
    (accepted : fileJobs.foldlM loadJob jobs = .ok loaded) (job : LedgerJobKey)
    (entry : LedgerEntry) (present : jobs[job]? = some entry ∨ ⟨job, entry⟩ ∈ fileJobs) :
    loaded[job]? = some entry := by
  induction fileJobs generalizing jobs with
  | nil =>
    cases accepted
    simpa using present
  | cons first _ ih =>
    rw [List.foldlM_cons, bind_eq_ok] at accepted
    obtain ⟨_, inserted, accepted⟩ := accepted
    obtain ⟨absent, rfl⟩ := loadJob_eq_ok inserted
    refine ih accepted ?_
    rw [Std.ExtTreeMap.getElem?_insert]
    rcases present with held | listed
    · have different : first.key ≠ job := by
        rintro rfl
        rw [Std.ExtTreeMap.mem_iff_isSome_getElem?, held] at absent
        exact absent rfl
      exact .inl (by simpa [different] using held)
    · rcases List.mem_cons.mp listed with rfl | later
      · exact .inl (by simp)
      · exact .inr later

theorem loadDocument_jobs {document : FileDocument}
    (accepted : loadDocument digests document = .ok state) :
    document.jobs.foldlM loadJob ∅ = .ok state.jobs := by
  simp only [loadDocument, bind_eq_ok, refuse_eq_ok] at accepted
  obtain ⟨-, _, folded, _, -, -, -, _, -, _, -, -, loaded⟩ := accepted
  cases loaded
  exact folded

/-- A job bound in the file is bound in the loaded state. -/
theorem FileBinds.load {file : Option (List UInt8)} (binds : FileBinds codec file key intentDigest)
    (accepted : load digests codec file = .ok state) : state.Binds key intentDigest := by
  obtain ⟨_, _, entry, rfl, decoded, listed, bound⟩ := binds
  rw [IntegrationControl.load] at accepted
  split at accepted
  · cases accepted
  simp only [decoded] at accepted
  exact ⟨entry, foldlM_loadJob (loadDocument_jobs accepted) key entry (.inr listed), bound⟩

namespace ControlHost.Bound

variable {host : ControlHost}

section

variable (bound : host.Bound codec key intentDigest)

include bound

theorem mutate {α : Type} {operation : LedgerState → Except ControlStoreError (LedgerState × α)}
    (keeps : ∀ state next result, operation state = .ok (next, result) →
      state.Binds key intentDigest → next.Binds key intentDigest) (outcome : PersistOutcome) :
    (host.mutate codec operation outcome).1.Bound codec key intentDigest := by
  rw [ControlHost.mutate]
  split
  · exact bound
  · rename_i state opened
    have remembered := bound.remembered state opened
    obtain ⟨file, memory⟩ := FileLedger.mutate_binds ⟨host.file, state⟩ outcome
      (fun next result computed => keeps state next result computed remembered)
      bound.persisted remembered
    refine ⟨file, ?_⟩
    rintro _ ⟨⟩
    exact memory

/-- Serving a request keeps bound jobs bound. -/
theorem serve (world : ControlWorld) (request : ControlRequest) :
    (host.serve digests codec world request).1.Bound codec key intentDigest := by
  cases request with
  | claim claim =>
    refine bound.mutate (fun state next result computed => ?_) world.persist
    exact binds_compute digests (.claim claim) (by rw [compute, computed]; rfl)
  | complete job boundTo receipt =>
    refine bound.mutate (fun state next result computed => ?_) world.persist
    exact binds_compute digests (.complete job boundTo receipt) (by rw [compute, computed]; rfl)
  | requeue job =>
    refine bound.mutate (fun state next result computed => ?_) world.persist
    exact binds_compute digests (.requeue job) (by rw [compute, computed]; rfl)
  | _ => exact bound

theorem acknowledge (digests : CanonicalDigests) (input : CloudLinkDurableAck × PersistOutcome) :
    (host.acknowledge codec input).Bound codec key intentDigest := by
  refine bound.mutate (fun state next result computed => ?_) input.2
  exact binds_compute digests (.acknowledge input.1) (by rw [compute, computed]; rfl)

theorem reopen (digests : CanonicalDigests) (outcome : PersistOutcome) :
    (host.reopen digests codec outcome).Bound codec key intentDigest := by
  have persisted := bound.persisted
  obtain ⟨_, -, -, present, -⟩ := bound.persisted
  rw [ControlHost.reopen, FileLedger.openLedger]
  cases loaded : load digests codec host.file with
  | error => exact ⟨persisted, by simp [Except.toOption]⟩
  | ok =>
    have remembered := persisted.load loaded
    rw [present] at persisted ⊢
    refine ⟨persisted, ?_⟩
    rintro _ ⟨⟩
    exact remembered

end

end ControlHost.Bound

/-- A claim that succeeds was of a job the state did not know, and adds it. -/
theorem LedgerState.claim_eq_claimed (computed : state.claim claim = .ok (next, .claimed)) :
    state.jobs[claim.key]? = none ∧ next.Binds claim.key claim.intentDigest := by
  rw [LedgerState.claim] at computed
  split at computed
  · rename_i existing found
    simp only [Except.ok.injEq, Prod.mk.injEq] at computed
    obtain ⟨-, outcome⟩ := computed
    split at outcome
    · cases outcome
    · cases outcome
  · rename_i absent
    split at computed
    · cases computed
    · simp only [Except.ok.injEq, Prod.mk.injEq, and_true] at computed
      subst computed
      exact ⟨absent, .inProgress claim, by simp, rfl⟩

/-- An operation that succeeds leaves the computed state, and its document in the file unless
nothing changed. -/
theorem FileLedger.mutate_eq_ok {α : Type} {ledger : FileLedger}
    {operation : Except ControlStoreError (LedgerState × α)} {result : α}
    (accepted : (ledger.mutate codec operation outcome).2 = .ok result) :
    ∃ next, operation = .ok (next, result) ∧
      (ledger.mutate codec operation outcome).1.state = next ∧
      (next = ledger.state ∨ ∃ bytes, codec.encode next.document = .ok bytes ∧
        (ledger.mutate codec operation outcome).1.file = some bytes) := by
  cases operation with
  | error => cases accepted
  | ok computed =>
    obtain ⟨next, _⟩ := computed
    simp only [mutate] at accepted ⊢
    by_cases same : next = ledger.state
    · rw [if_pos same] at accepted ⊢
      cases accepted
      exact ⟨next, rfl, same.symm, .inl same⟩
    · rw [if_neg same] at accepted ⊢
      rcases persist_cases codec ledger.file next outcome with
        failed | ⟨bytes, done, encoded, replaced⟩
      · rw [failed] at accepted
        cases accepted
      · rw [replaced] at accepted ⊢
        cases done with
        | error => cases accepted
        | ok =>
          cases accepted
          exact ⟨next, rfl, rfl, .inr ⟨bytes, encoded, rfl⟩⟩

/-- A successful claim was of a job that was not in memory, and the job is now in the file. -/
theorem ControlHost.mutate_claimed {host : ControlHost}
    (claimed : (host.mutate codec (fun state => state.claim claim) outcome).2 = .ok .claimed) :
    (∃ state, host.state = some state ∧ state.jobs[claim.key]? = none) ∧
      (host.mutate codec (fun state => state.claim claim) outcome).1.Bound codec claim.key
        claim.intentDigest := by
  rw [mutate] at claimed ⊢
  split at claimed
  · cases claimed
  rename_i state opened
  obtain ⟨_, computed, memory, written⟩ := FileLedger.mutate_eq_ok claimed
  obtain ⟨absent, binds⟩ := claim_eq_claimed computed
  refine ⟨⟨state, opened, absent⟩, ?_, ?_⟩
  · rcases written with same | ⟨_, encoded, file⟩
    · obtain ⟨_, present, -⟩ := binds
      rw [same] at present
      cases absent.symm.trans present
    · have persisted := fileBinds_document encoded binds
      rw [← file] at persisted
      exact persisted
  · rintro _ ⟨⟩
    rw [← memory] at binds
    exact binds

end Bound

def claimedKey : ControlExchange → Option LedgerJobKey
  | ⟨.claim claim, .ok .claimed⟩ => some claim.key
  | _ => none

/-- The job for which an exchange called the provider. -/
def executedKey (call : ControlCall) : ControlExchange → Option LedgerJobKey
  | ⟨.execute _ action, _⟩ => some ⟨call.gatewayId, action.jobId⟩
  | _ => none

variable {exchange : ControlExchange} {key : LedgerJobKey} {call : ControlCall}
  {digests : CanonicalDigests} {parse : List UInt8 → Option ActionOffer} {offer : ActionOffer}

theorem claimedKey_eq_some (granted : claimedKey exchange = some key) :
    ∃ claim, exchange = ⟨.claim claim, .ok .claimed⟩ ∧ claim.key = key := by
  rw [claimedKey.eq_def] at granted
  split at granted
  · rename_i claim
    exact ⟨claim, rfl, Option.some.inj granted⟩
  · cases granted

theorem reply_of_claimedKey {claim : LedgerClaim}
    {reply : Except ControlStoreError LedgerClaimOutcome}
    (granted : claimedKey ⟨.claim claim, reply⟩ = some key) :
    reply = .ok .claimed ∧ claim.key = key := by
  obtain ⟨_, same, named⟩ := claimedKey_eq_some granted
  cases same
  exact ⟨rfl, named⟩

theorem executedKey_eq_some (executed : executedKey call exchange = some key) :
    ∃ timeout action, exchange.1 = .execute timeout action ∧
      (⟨call.gatewayId, action.jobId⟩ : LedgerJobKey) = key := by
  rw [executedKey.eq_def] at executed
  split at executed
  · rename_i timeout action _
    exact ⟨timeout, action, rfl, Option.some.inj executed⟩
  · cases executed

/-- Handing out a job: it was not in memory before, and it is in the file afterwards. -/
theorem ControlHost.serve_claimed {codec : Codec FileDocument} {host : ControlHost}
    {world : ControlWorld} {request : ControlRequest}
    (granted : claimedKey ⟨request, (host.serve digests codec world request).2⟩ = some key) :
    ∃ claim, request = .claim claim ∧ claim.key = key ∧
      (∃ state, host.state = some state ∧ state.jobs[claim.key]? = none) ∧
      (host.serve digests codec world request).1.Bound codec claim.key claim.intentDigest := by
  cases request with
  | claim claim =>
    obtain ⟨claimed, named⟩ := reply_of_claimedKey granted
    obtain ⟨fresh, bound⟩ := mutate_claimed claimed
    exact ⟨claim, rfl, named, fresh, bound⟩
  | _ => cases granted

/-- The ledger hands out a job at most once, and remembers it in its file. -/
def ledgerOffice (digests : CanonicalDigests) (codec : Codec FileDocument) :
    TicketOffice (controlService digests codec) LedgerJobKey where
  ticket := claimedKey
  held host exchange :=
    ∀ claim, exchange.1 = .claim claim → host.Bound codec claim.key claim.intentDigest
  granted host world request key granted := by
    obtain ⟨claim, rfl, -, -, bound⟩ := serve_claimed granted
    rintro other ⟨⟩
    exact bound
  fresh host world request key granted exchange earlier held := by
    obtain ⟨claim, -, named, ⟨state, opened, absent⟩, -⟩ := serve_claimed granted
    obtain ⟨other, rfl, same⟩ := claimedKey_eq_some earlier
    obtain ⟨entry, present, -⟩ := (held other rfl).remembered state opened
    rw [same, ← named, absent] at present
    cases present
  served host world request exchange held claim same := (held claim same).serve world request
  interfered host input exchange held claim same := (held claim same).acknowledge digests input
  restarted host outcome exchange held claim same := (held claim same).reopen digests outcome

theorem ControlCall.Offered.gatewayId (offered : call.Offered digests parse offer) :
    offer.gatewayId = call.gatewayId := by
  obtain ⟨_, _, rfl, -, -, checked⟩ := offered
  rw [validateSession] at checked
  split at checked
  · cases checked
  · rename_i accepted
    simp only [Bool.or_eq_true, decide_eq_true_eq, not_or, not_not] at accepted
    exact accepted.1.1.1

section

variable (digests) (parse)

/-- An execution redeems the claim that the same call made just before. -/
def executionRedemption : Redemption claimedKey (Permits digests parse) where
  spend := executedKey
  redeems call earlier exchange key permitted executed := by
    obtain ⟨timeout, action, asked, rfl⟩ := executedKey_eq_some executed
    obtain ⟨offer, record, dispatches⟩ := permitted timeout action asked
    obtain ⟨front, rfl⟩ := dispatches.authorized
    refine ⟨front ++ [authorizedExchange offer record], claimedExchange offer record, by simp, ?_⟩
    rw [dispatches.job, ← dispatches.offered.gatewayId]
    rfl
  exclusive call exchange key granted := by
    obtain ⟨claim, rfl, -⟩ := claimedKey_eq_some granted
    rfl

abbrev ControlPool : Type :=
  Pool ControlRequest.Reply IntegrationControlError ControlOutcome ControlHost ControlCall

abbrev ControlInput : Type :=
  PoolInput ControlCall ControlWorld (CloudLinkDurableAck × PersistOutcome) PersistOutcome

/-- The jobs for which the provider was called, in order. -/
def executions (log : List (LogEntry ControlRequest.Reply ControlCall)) : List LedgerJobKey :=
  log.filterMap fun entry => executedKey entry.label entry.exchange

/-- The calls in any interleaving with acknowledgements, crashes and failures. -/
def runControl (codec : Codec FileDocument) (host : ControlHost) (inputs : List ControlInput) : ControlPool :=
  run (Pool.step (controlService digests codec) (ControlCall.program digests parse))
    (Pool.initial host) inputs

/-- What holds whenever a call is about to call the provider. -/
structure MayExecute (codec : Codec FileDocument) (pool : ControlPool) (call : Nat) (label : ControlCall)
    (action : IntegrationPowerAction) (offer : ActionOffer) (record : AuditRecord) : Prop where
  /-- The action is that of the offer, audited and claimed by the same call. -/
  dispatches : Dispatches digests parse label (history pool.log call) action offer record
  /-- The key counted for this execution is that of the offer. -/
  key : (⟨label.gatewayId, action.jobId⟩ : LedgerJobKey) = .fromOffer offer
  /-- The digest is that of the offered intent. -/
  digest : digests.offerIntentDigest offer.intent = .ok offer.intentDigest
  /-- The job is bound to the digest in the file and in memory. -/
  bound : pool.shared.Bound codec (.fromOffer offer) offer.intentDigest
  /-- The provider was not called for the job before. -/
  first : LedgerJobKey.fromOffer offer ∉ executions pool.log

end

theorem CanonicalDigests.decodeOffer_digest {bytes : List UInt8}
    (decoded : digests.decodeOffer parse bytes = .ok offer) :
    digests.offerIntentDigest offer.intent = .ok offer.intentDigest := by
  obtain ⟨-, decoded⟩ := refuse_eq_ok.mp decoded
  split at decoded
  · cases decoded
  simp only [bind_eq_ok, refuse_eq_ok] at decoded
  obtain ⟨_, -, _, canonical, same, accepted⟩ := decoded
  cases accepted
  rw [canonical, not_ne_iff.mp same]

/-- In every interleaving of any number of calls with provider timeouts, audit failures, failed
writes and crashes, the provider is called at most once for each job, and only for the offer the job
is bound to, after the dispatch was audited and the claim was persisted. -/
theorem provider_called_at_most_once (digests : CanonicalDigests)
    (parse : List UInt8 → Option ActionOffer) (codec : Codec FileDocument) (host : ControlHost)
    (inputs : List ControlInput) :
    (executions (runControl digests parse codec host inputs).log).Nodup ∧
      ∀ call label timeout action next, (runControl digests parse codec host inputs).calls[call]? =
            some (label, some (.ask (.execute timeout action) next)) →
          ∃ offer record, MayExecute digests parse codec
            (runControl digests parse codec host inputs) call label action offer record := by
  have redeemed : (ledgerOffice digests codec).Redeemed (executionRedemption digests parse)
      (runControl digests parse codec host inputs) :=
    TicketOffice.Redeemed.run always_program host inputs
  refine ⟨redeemed.once, fun call label timeout action next pending => ?_⟩
  obtain ⟨offer, record, dispatches⟩ :=
    (redeemed.follows.running call label _ pending).1 timeout action rfl
  obtain ⟨front, ends⟩ := dispatches.authorized
  have member : claimedExchange offer record ∈
      history (runControl digests parse codec host inputs).log call := by simp [ends]
  obtain ⟨entry, listed, -, same⟩ := mem_log_of_history member
  have bound := redeemed.held entry listed (.fromOffer offer) (by rw [same]; rfl)
  have first := redeemed.unspent call (front ++ [authorizedExchange offer record])
    (claimedExchange offer record) (.fromOffer offer) (by simpa using ends) rfl
  obtain ⟨_, _, -, -, decoded, -⟩ := dispatches.offered
  refine ⟨offer, record, dispatches, ?_, CanonicalDigests.decodeOffer_digest decoded, ?_, first⟩
  · rw [dispatches.job, ← dispatches.offered.gatewayId]
    rfl
  · rw [same] at bound
    exact bound _ rfl

end AetherIot.IntegrationControl
