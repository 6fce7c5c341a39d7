import AetherIot.CloudLink.ChallengeEffect
import AetherIot.Foundation.GuardedRun

/-!
# Replays against the challenge ledger

A host calls the ledger and restarts it at any time.  The file can be ahead of the open ledger by
one call, whose replacement of the file was reported as failed.  While a record is neither expired
nor consumed, the open ledger and the file both continue it.
-/

namespace AetherIot.CloudLink.ChallengeLedger

open MachineText Bytes KeyedList GuardedRun

variable {transcriptDigest : List UInt8 → String}

/-- The ledger file, the open ledger and the latest evaluation time. -/
structure LedgerHost where
  file : Option (List UInt8)
  ledger : Option LedgerState
  clock : UInt64
  deriving DecidableEq

inductive LedgerInput where
  | call (call : LedgerCall) (outcome : WriteOutcome)
  | restart (capacity : Nat) (environment : Except CloudLinkChallengeLedgerError Unit)
      (outcome : WriteOutcome)

namespace LedgerHost

/-- A host that has not opened its ledger. -/
def closed (file : Option (List UInt8)) : LedgerHost := ⟨file, none, 0⟩

variable (codec : Codec LedgerState)

def stored (host : LedgerHost) : Option LedgerState :=
  host.file.bind fun bytes => (codec.decode bytes).toOption

/-- The records of the open ledger. -/
def records (host : LedgerHost) : List ChallengeRecord :=
  (host.ledger.map (·.records)).getD []

section

variable (transcriptDigest : List UInt8 → String) (host : LedgerHost)

/-- Perform one input.  A crash during a call is a failed write followed by a restart. -/
def perform : LedgerInput → LedgerHost × Option (Except CloudLinkChallengeLedgerError LedgerReply)
  | .call call outcome =>
    match host.ledger with
    | none => ({ host with clock := call.evaluationTime.getD host.clock }, none)
    | some current =>
      let result := mutate codec host.file current (current.compute transcriptDigest call) outcome
      (⟨result.1.1, some result.1.2, call.evaluationTime.getD host.clock⟩, some result.2)
  | .restart capacity environment outcome =>
    let result := openLedger codec host.file capacity environment outcome
    (⟨result.1, result.2.toOption, host.clock⟩, none)

def step (input : LedgerInput) : LedgerHost :=
  (host.perform codec transcriptDigest input).1

/-- Evaluation times do not decrease. -/
def OnTime : LedgerInput → Prop
  | .call call _ => ∀ time, call.evaluationTime = some time → host.clock ≤ time
  | .restart _ _ _ => True

end

instance (host : LedgerHost) : ∀ input, Decidable (host.OnTime input)
  | .call call _ =>
    decidable_of_iff (call.evaluationTime.all fun time => host.clock ≤ time) (by
      simp [OnTime, Option.all_eq_true])
  | .restart _ _ _ => inferInstanceAs (Decidable True)

end LedgerHost

open LedgerHost

/-- What an input does to the file and the open ledger. -/
inductive HostEffect (codec : Codec LedgerState) (transcriptDigest : List UInt8 → String)
    (host : LedgerHost) : LedgerInput →
      LedgerHost × Option (Except CloudLinkChallengeLedgerError LedgerReply) → Prop
  | idle {call : LedgerCall} {outcome : WriteOutcome}
      {reply : Option (Except CloudLinkChallengeLedgerError LedgerReply)}
      (silent : ∀ answer, reply ≠ some (.ok answer)) :
      HostEffect codec transcriptDigest host (.call call outcome)
        ({ host with clock := call.evaluationTime.getD host.clock }, reply)
  | answered {call : LedgerCall} {outcome : WriteOutcome} {current : LedgerState}
      {answer : LedgerReply} (opened : host.ledger = some current)
      (effect : LedgerEffect transcriptDigest current call current answer) :
      HostEffect codec transcriptDigest host (.call call outcome)
        ({ host with clock := call.evaluationTime.getD host.clock }, some (.ok answer))
  | stranded {call : LedgerCall} {outcome : WriteOutcome} {current next : LedgerState}
      {answer : LedgerReply} {bytes : List UInt8} {failure : CloudLinkChallengeLedgerError}
      (opened : host.ledger = some current)
      (effect : LedgerEffect transcriptDigest current call next answer)
      (decoded : codec.decode bytes = .ok next) :
      HostEffect codec transcriptDigest host (.call call outcome)
        (⟨some bytes, host.ledger, call.evaluationTime.getD host.clock⟩, some (.error failure))
  | advanced {call : LedgerCall} {outcome : WriteOutcome} {current next : LedgerState}
      {answer : LedgerReply} {bytes : List UInt8} (opened : host.ledger = some current)
      (effect : LedgerEffect transcriptDigest current call next answer)
      (distinct : Distinct next.records) (decoded : codec.decode bytes = .ok next) :
      HostEffect codec transcriptDigest host (.call call outcome)
        (⟨some bytes, some next, call.evaluationTime.getD host.clock⟩, some (.ok answer))
  | shut {capacity : Nat} {environment : Except CloudLinkChallengeLedgerError Unit}
      {outcome : WriteOutcome} :
      HostEffect codec transcriptDigest host (.restart capacity environment outcome)
        ({ host with ledger := none }, none)
  | reopened {capacity : Nat} {environment : Except CloudLinkChallengeLedgerError Unit}
      {outcome : WriteOutcome} {state : LedgerState} (stored : host.stored codec = some state)
      (distinct : Distinct state.records) :
      HostEffect codec transcriptDigest host (.restart capacity environment outcome)
        ({ host with ledger := some state }, none)
  | created {capacity : Nat} {environment : Except CloudLinkChallengeLedgerError Unit}
      {outcome : WriteOutcome} {bytes : List UInt8} {ledger : Option LedgerState}
      (absent : host.file = none) (decoded : codec.decode bytes = .ok (.empty capacity))
      (opened : ∀ state, ledger = some state → state = .empty capacity) :
      HostEffect codec transcriptDigest host (.restart capacity environment outcome)
        (⟨some bytes, ledger, host.clock⟩, none)

variable {codec : Codec LedgerState} {state : LedgerState} {host : LedgerHost} {call : LedgerCall}
  {bytes hello : List UInt8} {record : ChallengeRecord} {input : LedgerInput}
  {outcome : WriteOutcome} {challengeId : String} {expiresAtMs : UInt64}

theorem distinct_of_validate {capacity : Nat} (valid : state.validate capacity = .ok ()) :
    Distinct state.records := by
  unfold LedgerState.validate at valid
  split at valid
  · rename_i checks
    exact checks.2.2.2.2.2.1
  · cases valid

/-- A write leaves the file alone, or replaces it by the encoded state. -/
theorem writeState_cases (codec : Codec LedgerState) (file : Option (List UInt8)) (state : LedgerState)
    (outcome : WriteOutcome) :
    (∃ failure, writeState codec file state outcome = (file, .error failure)) ∨
      ∃ bytes, codec.decode bytes = .ok state ∧
        ((∃ failure, writeState codec file state outcome = (some bytes, .error failure)) ∨
          writeState codec file state outcome = (some bytes, .ok ())) := by
  unfold writeState
  split
  · exact .inl ⟨_, rfl⟩
  · rename_i bytes encoded
    have decoded := codec.decode_encode state bytes encoded
    split
    · exact .inl ⟨_, rfl⟩
    · cases outcome with
      | written => exact .inr ⟨bytes, decoded, .inr rfl⟩
      | failed replaced failure =>
        cases replaced with
        | true => exact .inr ⟨bytes, decoded, .inl ⟨failure, rfl⟩⟩
        | false => exact .inl ⟨failure, rfl⟩

theorem call_effect (host : LedgerHost) (call : LedgerCall) (outcome : WriteOutcome) :
    HostEffect codec transcriptDigest host (.call call outcome)
      (host.perform codec transcriptDigest (.call call outcome)) := by
  simp only [perform]
  split
  · exact .idle (fun answer => by simp)
  · rename_i current opened
    have same : (⟨host.file, some current, call.evaluationTime.getD host.clock⟩ : LedgerHost) =
        { host with clock := call.evaluationTime.getD host.clock } := by rw [← opened]
    cases computed : current.compute transcriptDigest call with
    | error =>
      simp only [mutate, same]
      exact .idle (fun answer => by simp)
    | ok result =>
      obtain ⟨next, answer⟩ := result
      have effect := effect_of_compute computed
      simp only [mutate]
      cases valid : next.validate current.capacity with
      | error =>
        simp only [same]
        exact .idle (fun answer => by simp)
      | ok =>
        by_cases unchanged : next = current
        · rw [unchanged] at effect
          simp only [unchanged, if_true, same]
          exact .answered opened effect
        · simp only [unchanged, if_false]
          obtain ⟨_, written⟩ | ⟨_, decoded, ⟨_, written⟩ | written⟩ :=
            writeState_cases codec host.file next outcome
          · simp only [written, same]
            exact .idle (fun answer => by simp)
          · simp only [written, ← opened]
            exact .stranded opened effect decoded
          · simp only [written]
            exact .advanced opened effect (distinct_of_validate valid) decoded

theorem restart_effect (host : LedgerHost) (capacity : Nat)
    (environment : Except CloudLinkChallengeLedgerError Unit) (outcome : WriteOutcome) :
    HostEffect codec transcriptDigest host (.restart capacity environment outcome)
      (host.perform codec transcriptDigest (.restart capacity environment outcome)) := by
  simp only [perform, openLedger]
  split
  · exact .shut
  split
  · exact .shut
  split
  · rename_i bytes file
    split
    · exact .shut
    cases decoded : codec.decode bytes with
    | error => exact .shut
    | ok state =>
      cases valid : state.validate capacity with
      | error =>
        simp only [valid]
        exact .shut
      | ok =>
        simp only [valid]
        refine .reopened ?_ (distinct_of_validate valid)
        simp [stored, file, decoded, Except.toOption]
  · rename_i absent
    obtain ⟨_, written⟩ | ⟨_, decoded, ⟨_, written⟩ | written⟩ :=
      writeState_cases codec none (.empty capacity) outcome
    · simp only [written]
      rw [← absent]
      exact .shut
    · simp only [written]
      exact .created absent decoded (fun state opened => by cases opened)
    · simp only [written]
      exact .created absent decoded (fun state opened => by cases opened; rfl)

theorem perform_effect (codec : Codec LedgerState) (transcriptDigest : List UInt8 → String)
    (host : LedgerHost) (input : LedgerInput) :
    HostEffect codec transcriptDigest host input (host.perform codec transcriptDigest input) := by
  cases input with
  | call call outcome => exact call_effect host call outcome
  | restart capacity environment outcome => exact restart_effect host capacity environment outcome

/-- The open ledger has distinct records, and the file continues the pending ones. -/
structure LedgerHost.Coherent (codec : Codec LedgerState) (host : LedgerHost) : Prop where
  distinct : ∀ state, host.ledger = some state → Distinct state.records
  ahead : ∀ state, host.ledger = some state → ∃ stored, host.stored codec = some stored ∧
    ∀ record ∈ state.records, record.status = .pending → Carries record host.clock stored.records

/-- The open ledger and the file both continue the record. -/
structure LedgerHost.Carries (codec : Codec LedgerState) (record : ChallengeRecord)
    (host : LedgerHost) : Prop where
  ledger : ∀ state, host.ledger = some state →
    ChallengeLedger.Carries record host.clock state.records
  file : ∃ stored, host.stored codec = some stored ∧
    ChallengeLedger.Carries record host.clock stored.records

theorem le_clock (onTime : ∀ time, call.evaluationTime = some time → host.clock ≤ time) :
    host.clock ≤ call.evaluationTime.getD host.clock := by
  cases timed : call.evaluationTime with
  | none => exact UInt64.le_refl _
  | some time => exact onTime time timed

theorem stored_of_decode (file : host.file = some bytes) (decoded : codec.decode bytes = .ok state) :
    host.stored codec = some state := by
  simp [stored, file, decoded, Except.toOption]

theorem unconsumed_of_distinct {records : List ChallengeRecord} (distinct : Distinct records)
    (member : record ∈ records) (open_ : record.status = .pending) (expiresAtMs : UInt64) :
    Unconsumed record.challengeId expiresAtMs records := by
  intro _ otherMember same _
  rwa [eq_of_distinct distinct member otherMember same]

theorem coherent_step (transcriptDigest : List UInt8 → String) (onTime : host.OnTime input)
    (coherent : host.Coherent codec) :
    (host.step codec transcriptDigest input).Coherent codec := by
  unfold step
  generalize result : host.perform codec transcriptDigest input = performed
  have performed_effect := perform_effect codec transcriptDigest host input
  rw [result] at performed_effect
  cases performed_effect with
  | idle | answered opened =>
    refine ⟨coherent.distinct, fun state opened => ?_⟩
    obtain ⟨stored, file, carried⟩ := coherent.ahead state opened
    exact ⟨stored, file, fun record member open_ =>
      (carried record member open_).later (le_clock onTime)⟩
  | @stranded _ _ current next _ _ _ opened effect decoded =>
    refine ⟨coherent.distinct, fun state stateOpened => ?_⟩
    cases Option.some.inj (opened.symm.trans stateOpened)
    have distinct := coherent.distinct current opened
    refine ⟨next, stored_of_decode rfl decoded, fun record member open_ => ?_⟩
    exact (carries_self distinct member host.clock).effect effect distinct
      (unconsumed_of_distinct distinct member open_ _) onTime
  | @advanced _ _ _ next _ _ opened _ distinct decoded =>
    refine ⟨fun state opened => ?_, fun state opened => ?_⟩
    · cases opened
      exact distinct
    · cases opened
      exact ⟨next, stored_of_decode rfl decoded, fun record member _ =>
        carries_self distinct member _⟩
  | shut => exact ⟨fun state opened => (by cases opened), fun state opened => (by cases opened)⟩
  | @reopened _ _ _ state stored distinct =>
    refine ⟨fun state opened => ?_, fun state opened => ?_⟩
    · cases opened
      exact distinct
    · cases opened
      exact ⟨state, stored, fun record member _ => carries_self distinct member _⟩
  | @created capacity _ _ _ ledger _ decoded opened =>
    refine ⟨fun state ledger => ?_, fun state ledger => ?_⟩
    · rw [opened state ledger]
      exact List.nodup_nil
    · rw [opened state ledger]
      exact ⟨.empty capacity, stored_of_decode rfl decoded, fun record member => by cases member⟩

/-- What the open ledger and the file both satisfy stays true of both when later times and the
effects of calls on the open ledger keep it. -/
theorem held_step (holds : UInt64 → LedgerState → Prop)
    (ledger : ∀ state, host.ledger = some state → holds host.clock state)
    (file : ∃ stored, host.stored codec = some stored ∧ holds host.clock stored)
    (onTime : host.OnTime input)
    (later : ∀ state time, host.clock ≤ time → holds host.clock state → holds time state)
    (kept : ∀ call outcome current next answer, input = .call call outcome →
      host.ledger = some current → LedgerEffect transcriptDigest current call next answer →
        holds (call.evaluationTime.getD host.clock) next) :
    (∀ state, (host.step codec transcriptDigest input).ledger = some state →
      holds (host.step codec transcriptDigest input).clock state) ∧
      ∃ stored, (host.step codec transcriptDigest input).stored codec = some stored ∧
        holds (host.step codec transcriptDigest input).clock stored := by
  unfold step
  have effect := perform_effect codec transcriptDigest host input
  generalize host.perform codec transcriptDigest input = performed at effect ⊢
  obtain ⟨stored, read, fileHolds⟩ := file
  cases effect with
  | idle | answered =>
    have lasts := fun state => later state _ (le_clock onTime)
    exact ⟨fun state opened => lasts state (ledger state opened), stored, read,
      lasts stored fileHolds⟩
  | stranded opened effect decoded =>
    exact ⟨fun state opened => later state _ (le_clock onTime) (ledger state opened),
      _, stored_of_decode rfl decoded, kept _ _ _ _ _ rfl opened effect⟩
  | advanced opened effect _ decoded =>
    have nextHolds := kept _ _ _ _ _ rfl opened effect
    refine ⟨fun state opened => ?_, _, stored_of_decode rfl decoded, nextHolds⟩
    cases opened
    exact nextHolds
  | shut => exact ⟨fun state opened => (by cases opened), stored, read, fileHolds⟩
  | reopened reread =>
    cases Option.some.inj (read.symm.trans reread)
    refine ⟨fun state opened => ?_, stored, read, fileHolds⟩
    cases opened
    exact fileHolds
  | created absent =>
    rw [LedgerHost.stored, absent] at read
    cases read

/-- An input continues every record that has not been consumed. -/
theorem carries_step (transcriptDigest : List UInt8 → String) (onTime : host.OnTime input)
    (coherent : host.Coherent codec)
    (unconsumed : Unconsumed record.challengeId record.expiresAtMs host.records)
    (carries : host.Carries codec record) :
    (host.step codec transcriptDigest input).Carries codec record := by
  refine and_imp.mpr LedgerHost.Carries.mk (held_step
    (fun clock state => ChallengeLedger.Carries record clock state.records) carries.ledger
    carries.file onTime (fun _ _ later carries => carries.later later) ?_)
  rintro _ _ current _ _ rfl opened effect
  exact (carries.ledger current opened).effect effect (coherent.distinct current opened)
    (by simpa [records, opened] using unconsumed) onTime

section

variable (codec : Codec LedgerState) (transcriptDigest : List UInt8 → String)

def hostAfter (file : Option (List UInt8)) (inputs : List LedgerInput) : LedgerHost :=
  run (step codec transcriptDigest) (.closed file) inputs

/-- The records for the challenge stay unconsumed before every input. -/
def StaysUnconsumed (challengeId : String) (expiresAtMs : UInt64) (host : LedgerHost)
    (inputs : List LedgerInput) : Prop :=
  Guarded (step codec transcriptDigest)
    (fun host _ => Unconsumed challengeId expiresAtMs host.records) host inputs

/-- The input returns the hello of the challenge with the given deadline. -/
inductive ReturnsHello (host : LedgerHost) (challengeId : String) (expiresAtMs : UInt64)
    (hello : List UInt8) :
    LedgerInput → Prop
  | stored {bytes : List UInt8} {outcome : WriteOutcome} {state : LedgerState}
      {record : ChallengeRecord} (opened : host.ledger = some state)
      (found : state.find challengeId = some record) (deadline : record.expiresAtMs = expiresAtMs)
      (reply : (host.perform codec transcriptDigest
        (.call (.storeHello challengeId bytes) outcome)).2 = some (.ok (.stored hello))) :
      ReturnsHello host challengeId expiresAtMs hello
        (.call (.storeHello challengeId bytes) outcome)
  | retried {challenge request : List UInt8} {evaluationTimeMs : UInt64} {outcome : WriteOutcome}
      (reply : (host.perform codec transcriptDigest
        (.call (.reserve challengeId expiresAtMs challenge request evaluationTimeMs) outcome)).2 =
          some (.ok (.reserved (.retryHello hello)))) :
      ReturnsHello host challengeId expiresAtMs hello
        (.call (.reserve challengeId expiresAtMs challenge request evaluationTimeMs) outcome)

/-- The input is a successful completion of the challenge. -/
def Completes (host : LedgerHost) (challengeId : String) (input : LedgerInput) : Prop :=
  (∃ outcome, input = .call (.complete challengeId) outcome) ∧
    (host.perform codec transcriptDigest input).2 = some (.ok .completed)

/-- The input prepares a request where none was pending, and the file holds it afterwards. -/
inductive StoresRequest (host : LedgerHost) : LedgerInput → Prop
  | intro {request : List UInt8} {expiresAtMs evaluationTimeMs : UInt64} {outcome : WriteOutcome}
      {before after : LedgerState} {text : String} (opened : host.ledger = some before)
      (vacant : before.pendingRequest = none) (decoded : fromUtf8 request = some text)
      (stored : (host.step codec transcriptDigest (.call
        (.prepareRequest request expiresAtMs evaluationTimeMs) outcome)).stored codec = some after)
      (pending : after.pendingRequest = some ⟨expiresAtMs, text⟩) :
      StoresRequest host
        (.call (.prepareRequest request expiresAtMs evaluationTimeMs) outcome)

end

/-- A call that returns a result has its effect on the open ledger, and on the file unless nothing
changed. -/
theorem effect_of_reply {answer : LedgerReply}
    (reply : (host.perform codec transcriptDigest (.call call outcome)).2 = some (.ok answer)) :
    ∃ before after, host.ledger = some before ∧
      LedgerEffect transcriptDigest before call after answer ∧
      (host.step codec transcriptDigest (.call call outcome)).ledger = some after ∧
      (after = before ∨
        (host.step codec transcriptDigest (.call call outcome)).stored codec = some after) := by
  unfold step
  have effect := perform_effect codec transcriptDigest host (.call call outcome)
  generalize host.perform codec transcriptDigest (.call call outcome) = performed at reply effect ⊢
  cases effect with
  | idle silent => exact absurd reply (silent answer)
  | answered opened effect =>
    cases reply
    exact ⟨_, _, opened, effect, opened, .inl rfl⟩
  | stranded => cases reply
  | advanced opened effect _ decoded =>
    cases reply
    exact ⟨_, _, opened, effect, rfl, .inr (stored_of_decode rfl decoded)⟩

theorem reservation_eq_retryHello (returned : record.reservation = .ok (.retryHello hello)) :
    ∃ text, record.hello = some text ∧ utf8 text = hello := by
  unfold ChallengeRecord.reservation at returned
  split at returned
  · split at returned
    · rename_i text kept
      cases returned
      exact ⟨text, kept, rfl⟩
    · cases returned
  · cases returned

theorem ReturnsHello.pending
    (returns : ReturnsHello codec transcriptDigest host challengeId expiresAtMs hello input) :
    (∃ record ∈ host.records, record.challengeId = challengeId ∧ record.status = .pending) ∧
      ∃ record ∈ (host.step codec transcriptDigest input).records,
        record.challengeId = challengeId ∧ record.expiresAtMs = expiresAtMs ∧
        record.status = .pending ∧ ∃ text, record.hello = some text ∧ utf8 text = hello := by
  cases returns with
  | @stored _ _ _ record opened found deadline reply =>
    obtain ⟨_, _, openedBefore, effect, openedAfter, -⟩ := effect_of_reply reply
    cases Option.some.inj (opened.symm.trans openedBefore)
    obtain ⟨member, named⟩ := find_eq_some found
    cases effect with
    | @helloKept _ _ _ text search open_ hasHello =>
      cases Option.some.inj (found.symm.trans search)
      refine ⟨⟨record, by simpa [records, opened], named, open_⟩, record, ?_⟩
      exact ⟨by simpa [records, openedAfter], named, deadline, open_, text,
        hasHello, rfl⟩
    | @helloStored _ _ _ text search open_ =>
      cases Option.some.inj (found.symm.trans search)
      refine ⟨⟨record, by simpa [records, opened], named, open_⟩,
        { record with hello := some text }, ?_⟩
      refine ⟨?_, named, deadline, open_, text, rfl, rfl⟩
      rw [records, openedAfter]
      exact change_mem_updateFirst found
  | @retried _ _ _ _ reply =>
    obtain ⟨_, _, opened, effect, openedAfter, -⟩ := effect_of_reply reply
    cases effect with
    | @retried _ _ _ _ _ record _ _ found deadline open_ _ returned =>
      obtain ⟨member, named⟩ := find_eq_some found
      refine ⟨⟨record, ?_, named, open_⟩, record, ?_, named, deadline, open_,
        reservation_eq_retryHello returned⟩
      · simpa [records, opened] using (mem_purge.mp member).1
      · rw [records, openedAfter]
        exact member

/-- What the ledger guarantees about a run. -/
structure ReplaySafe (codec : Codec LedgerState) (transcriptDigest : List UInt8 → String)
    (file : Option (List UInt8)) (inputs : List LedgerInput) : Prop where
  /-- A challenge has one hello until it is consumed. -/
  hello_stable : ∀ front first middle second back challengeId expiresAtMs hello other,
    inputs = front ++ first :: (middle ++ second :: back) →
    ReturnsHello codec transcriptDigest (hostAfter codec transcriptDigest file front) challengeId
      expiresAtMs hello first →
    StaysUnconsumed codec transcriptDigest challengeId expiresAtMs
      (hostAfter codec transcriptDigest file (front ++ [first])) middle →
    ReturnsHello codec transcriptDigest
      (hostAfter codec transcriptDigest file (front ++ first :: middle)) challengeId expiresAtMs
      other second →
    hello = other
  /-- A pending record stays in the ledger until it expires or is consumed. -/
  pending_kept : ∀ front middle back record, inputs = front ++ (middle ++ back) →
    record ∈ (hostAfter codec transcriptDigest file front).records → record.status = .pending →
    StaysUnconsumed codec transcriptDigest record.challengeId record.expiresAtMs
      (hostAfter codec transcriptDigest file front) middle →
    (hostAfter codec transcriptDigest file (front ++ middle)).clock < record.expiresAtMs →
    (hostAfter codec transcriptDigest file (front ++ middle)).ledger ≠ none →
    ∃ later ∈ (hostAfter codec transcriptDigest file (front ++ middle)).records,
      record.Continues later
  /-- Between two completions a new request was stored. -/
  completions_separated : ∀ front first middle second back challengeId otherId,
    inputs = front ++ first :: (middle ++ second :: back) →
    Completes codec transcriptDigest (hostAfter codec transcriptDigest file front) challengeId
      first →
    Completes codec transcriptDigest
      (hostAfter codec transcriptDigest file (front ++ first :: middle)) otherId second →
    ∃ before input after, middle = before ++ input :: after ∧ StoresRequest codec transcriptDigest
        (hostAfter codec transcriptDigest file (front ++ first :: before)) input
  /-- A completed record was reserved with the request that is pending. -/
  completion_matches : ∀ front input back challengeId, inputs = front ++ input :: back →
    Completes codec transcriptDigest (hostAfter codec transcriptDigest file front) challengeId
      input →
    ∃ state record pending, (hostAfter codec transcriptDigest file front).ledger = some state ∧
      record ∈ state.records ∧ record.challengeId = challengeId ∧
      state.pendingRequest = some pending ∧ record.request = some pending.request

section Run

variable {file : Option (List UInt8)}

theorem hostAfter_append (front back : List LedgerInput) :
    hostAfter codec transcriptDigest file (front ++ back) =
      run (step codec transcriptDigest) (hostAfter codec transcriptDigest file front) back :=
  run_append _ _ _

theorem hostAfter_snoc (front : List LedgerInput) (input : LedgerInput) :
    hostAfter codec transcriptDigest file (front ++ [input]) =
      (hostAfter codec transcriptDigest file front).step codec transcriptDigest input :=
  run_snoc _ _ _

variable {inputs middle : List LedgerInput} {second : LedgerInput}

theorem coherent_run (onTime : Guarded (step codec transcriptDigest) LedgerHost.OnTime host inputs)
    (coherent : host.Coherent codec) :
    (run (step codec transcriptDigest) host inputs).Coherent codec :=
  invariant (fun _ _ coherent onTime => coherent_step transcriptDigest onTime coherent) coherent
    onTime

theorem carries_run (onTime : Guarded (step codec transcriptDigest) LedgerHost.OnTime host inputs)
    (unconsumed : StaysUnconsumed codec transcriptDigest record.challengeId record.expiresAtMs host
      inputs) (coherent : host.Coherent codec) (carries : host.Carries codec record) :
    (run (step codec transcriptDigest) host inputs).Carries codec record := by
  have preserved : ∀ (host : LedgerHost) (input : LedgerInput),
      host.Coherent codec ∧ host.Carries codec record →
      host.OnTime input ∧ Unconsumed record.challengeId record.expiresAtMs host.records →
      (host.step codec transcriptDigest input).Coherent codec ∧
        (host.step codec transcriptDigest input).Carries codec record := by
    rintro _ _ ⟨coherent, carries⟩ ⟨onTime, unconsumed⟩
    exact ⟨coherent_step transcriptDigest onTime coherent,
      carries_step transcriptDigest onTime coherent unconsumed carries⟩
  exact (invariant preserved ⟨coherent, carries⟩ (guarded_and onTime unconsumed)).2

theorem coherent_closed : (closed file).Coherent codec :=
  ⟨fun state opened => (by cases opened), fun state opened => (by cases opened)⟩

theorem mem_records (member : record ∈ host.records) :
    ∃ state, host.ledger = some state ∧ record ∈ state.records := by
  unfold records at member
  cases opened : host.ledger with
  | none =>
    rw [opened] at member
    cases member
  | some state =>
    rw [opened] at member
    exact ⟨state, rfl, member⟩

theorem LedgerHost.Coherent.carries (coherent : host.Coherent codec)
    (member : record ∈ host.records) (open_ : record.status = .pending) :
    host.Carries codec record := by
  obtain ⟨state, opened, listed⟩ := mem_records member
  obtain ⟨stored, file, carried⟩ := coherent.ahead state opened
  refine ⟨fun other otherOpened => ?_, stored, file, carried record listed open_⟩
  cases Option.some.inj (opened.symm.trans otherOpened)
  exact carries_self (coherent.distinct state opened) listed _

theorem ReturnsHello.unconsumed
    (returns : ReturnsHello codec transcriptDigest host challengeId expiresAtMs hello input)
    (coherent : host.Coherent codec) : Unconsumed challengeId expiresAtMs host.records := by
  obtain ⟨_, member, rfl, open_⟩ := returns.pending.1
  obtain ⟨state, opened, listed⟩ := mem_records member
  have distinct := coherent.distinct state opened
  simpa [records, opened] using unconsumed_of_distinct distinct listed open_ expiresAtMs

theorem hello_eq {first : LedgerInput} {other : List UInt8}
    (onTime : Guarded (step codec transcriptDigest) LedgerHost.OnTime host
      (first :: (middle ++ [second]))) (coherent : host.Coherent codec)
    (returns : ReturnsHello codec transcriptDigest host challengeId expiresAtMs hello first)
    (unconsumed : StaysUnconsumed codec transcriptDigest challengeId expiresAtMs
      (host.step codec transcriptDigest first) middle)
    (returnsAgain : ReturnsHello codec transcriptDigest
      (run (step codec transcriptDigest) (host.step codec transcriptDigest first) middle)
      challengeId expiresAtMs other second) : hello = other := by
  obtain ⟨firstOnTime, restOnTime⟩ := onTime
  obtain ⟨middleOnTime, secondOnTime, -⟩ := guarded_append.mp restOnTime
  obtain ⟨_, member, rfl, rfl, open_, _, kept, rfl⟩ := returns.pending.2
  have coherentFirst := coherent_step transcriptDigest firstOnTime coherent
  have coherentMiddle := coherent_run middleOnTime coherentFirst
  have carriesMiddle := carries_run middleOnTime unconsumed coherentFirst
    (coherentFirst.carries member open_)
  have carriesSecond := carries_step transcriptDigest secondOnTime coherentMiddle
    (returnsAgain.unconsumed coherentMiddle) carriesMiddle
  obtain ⟨later, laterMember, sameId, sameDeadline, laterOpen, _, laterKept, rfl⟩ :=
    returnsAgain.pending.2
  obtain ⟨state, opened, listed⟩ := mem_records laterMember
  have continues := (carriesSecond.ledger state opened).continues later listed
    ⟨sameId, sameDeadline⟩
  rcases continues.transcript with completed | ⟨-, -, missing | same⟩
  · rw [laterOpen] at completed
    cases completed
  · rw [kept] at missing
    cases missing
  · rw [kept, laterKept] at same
    rw [Option.some.inj same]

/-- No request is pending, in the open ledger or in the file. -/
structure LedgerHost.NoRequest (codec : Codec LedgerState) (host : LedgerHost) : Prop where
  ledger : ∀ state, host.ledger = some state → state.pendingRequest = none
  file : ∀ state, host.stored codec = some state → state.pendingRequest = none

theorem effect_without_request {before after : LedgerState} {call : LedgerCall}
    {reply : LedgerReply} (effect : LedgerEffect transcriptDigest before call after reply)
    (vacant : before.pendingRequest = none) :
    after.pendingRequest = none ∨ ∃ request expiresAtMs evaluationTimeMs text,
        call = .prepareRequest request expiresAtMs evaluationTimeMs ∧
        fromUtf8 request = some text ∧ after.pendingRequest = some ⟨expiresAtMs, text⟩ := by
  cases effect with
  | requested decoded => exact .inr ⟨_, _, _, _, rfl, decoded, rfl⟩
  | recalled live | retried _ _ _ live | reserved _ _ live
  | completed _ _ live => cases vacant.symm.trans live
  | helloKept | helloStored => exact .inl vacant

/-- An input that stores no request leaves none pending. -/
theorem noRequest_step (vacant : host.NoRequest codec)
    (quiet : ¬ StoresRequest codec transcriptDigest host input) :
    (host.step codec transcriptDigest input).NoRequest codec := by
  have storing : ∀ (call : LedgerCall) (outcome : WriteOutcome) (current next : LedgerState)
      (answer : LedgerReply), input = .call call outcome → host.ledger = some current →
      LedgerEffect transcriptDigest current call next answer →
      (host.step codec transcriptDigest input).stored codec = some next →
      next.pendingRequest = none := by
    rintro call outcome current next answer rfl opened effect stored
    have free := vacant.ledger current opened
    obtain kept | ⟨_, _, _, _, rfl, decoded, pending⟩ := effect_without_request effect free
    · exact kept
    · exact absurd (.intro opened free decoded stored pending) quiet
  clear quiet
  unfold step at storing ⊢
  have effect := perform_effect codec transcriptDigest host input
  generalize host.perform codec transcriptDigest input = performed at storing effect ⊢
  cases effect with
  | idle | answered => exact ⟨vacant.ledger, vacant.file⟩
  | @stranded call outcome current next answer _ _ opened effect decoded =>
    refine ⟨vacant.ledger, fun state stored => ?_⟩
    cases Option.some.inj ((stored_of_decode rfl decoded).symm.trans stored)
    exact storing call outcome current next answer rfl opened effect stored
  | @advanced call outcome current next answer bytes opened effect _ decoded =>
    have stored : (⟨some bytes, some next, call.evaluationTime.getD host.clock⟩ :
        LedgerHost).stored codec = some next := stored_of_decode rfl decoded
    have free := storing call outcome current next answer rfl opened effect stored
    refine ⟨fun state ledger => ?_, fun state file => ?_⟩
    · cases ledger
      exact free
    · cases Option.some.inj (stored.symm.trans file)
      exact free
  | shut => exact ⟨fun state opened => (by cases opened), vacant.file⟩
  | reopened stored =>
    refine ⟨fun state opened => ?_, vacant.file⟩
    cases opened
    exact vacant.file _ stored
  | created _ decoded opened =>
    refine ⟨fun state ledger => ?_, fun state stored => ?_⟩
    · rw [opened state ledger]
      rfl
    · cases Option.some.inj ((stored_of_decode rfl decoded).symm.trans stored)
      rfl

theorem Completes.effect (completes : Completes codec transcriptDigest host challengeId input) :
    (∃ state record pending, host.ledger = some state ∧ record ∈ state.records ∧
      record.challengeId = challengeId ∧ state.pendingRequest = some pending ∧
      record.request = some pending.request) ∧
      (host.step codec transcriptDigest input).NoRequest codec := by
  obtain ⟨⟨_, rfl⟩, reply⟩ := completes
  obtain ⟨before, _, opened, effect, openedAfter, unchanged | stored⟩ := effect_of_reply reply
  · cases effect with
    | completed _ _ live =>
      rw [← unchanged] at live
      cases live
  · cases effect with
    | @completed _ record pending _ found _ live requested =>
      obtain ⟨member, named⟩ := find_eq_some found
      refine ⟨⟨before, record, pending, opened, member, named, live, requested⟩, ?_, ?_⟩
      · intro _ ledger
        cases Option.some.inj (openedAfter.symm.trans ledger)
        rfl
      · intro _ file
        cases Option.some.inj (stored.symm.trans file)
        rfl

theorem exists_storesRequest (vacant : host.NoRequest codec)
    (completes : Completes codec transcriptDigest
      (run (step codec transcriptDigest) host middle) challengeId second) :
    ∃ before input after, middle = before ++ input :: after ∧ StoresRequest codec transcriptDigest
        (run (step codec transcriptDigest) host before) input := by
  have violated : ¬ Guarded (step codec transcriptDigest)
      (fun host input => ¬ StoresRequest codec transcriptDigest host input) host middle := by
    intro quiet
    have free := invariant (fun _ _ vacant quiet => noRequest_step vacant quiet) vacant quiet
    obtain ⟨⟨state, _, _, opened, -, -, live, -⟩, -⟩ := completes.effect
    cases (free.ledger state opened).symm.trans live
  obtain ⟨before, input, after, split, -, stores⟩ := exists_first_violation violated
  exact ⟨before, input, after, split, not_not.mp stores⟩

end Run

/-- On every run with non-decreasing evaluation times the ledger guards against replays. -/
theorem challenge_ledger_replay_safe (codec : Codec LedgerState)
    (transcriptDigest : List UInt8 → String) (file : Option (List UInt8))
    (inputs : List LedgerInput)
    (onTime : Guarded (step codec transcriptDigest) LedgerHost.OnTime (.closed file) inputs) :
    ReplaySafe codec transcriptDigest file inputs where
  hello_stable := by
    rintro _ first middle second back _ _ _ _ rfl returns unconsumed returnsAgain
    obtain ⟨frontOnTime, restOnTime⟩ := guarded_append.mp onTime
    have shorter : first :: (middle ++ second :: back) = first :: (middle ++ [second]) ++ back := by
      simp
    rw [shorter] at restOnTime
    rw [hostAfter_snoc] at unconsumed
    rw [hostAfter_append, run_cons] at returnsAgain
    exact hello_eq (guarded_append.mp restOnTime).1 (coherent_run frontOnTime coherent_closed)
      returns unconsumed returnsAgain
  pending_kept := by
    rintro _ _ _ _ rfl member open_ unconsumed unexpired opened
    obtain ⟨frontOnTime, restOnTime⟩ := guarded_append.mp onTime
    have coherent := coherent_run frontOnTime coherent_closed
    have carries := carries_run (guarded_append.mp restOnTime).1 unconsumed coherent
      (coherent.carries member open_)
    rw [hostAfter_append] at unexpired opened ⊢
    obtain ⟨state, ledger⟩ := Option.ne_none_iff_exists'.mp opened
    obtain ⟨later, listed, same⟩ := (carries.ledger state ledger).kept unexpired
    refine ⟨later, ?_, (carries.ledger state ledger).continues later listed same⟩
    rwa [records, ledger]
  completions_separated := by
    rintro _ _ _ _ _ _ _ rfl completes completesAgain
    rw [hostAfter_append, run_cons] at completesAgain
    obtain ⟨before, input, after, split, _⟩ :=
      exists_storesRequest completes.effect.2 completesAgain
    refine ⟨before, input, after, split, ?_⟩
    rwa [hostAfter_append, run_cons]
  completion_matches := by
    rintro _ _ _ _ rfl completes
    exact completes.effect.1

def firstChallenge : String := "22222222-2222-4222-8222-222222222222"

def secondChallenge : String := "55555555-5555-4555-8555-555555555555"

/-- The SHA-256 of the two challenges. -/
def sampleDigest (bytes : List UInt8) : String :=
  if bytes = utf8 "challenge-one" then
    "55f3bbfb95a3918a522b9db2a66a07ba6dfc0e0d76c103fdd1238920fa884ed0"
  else "8c3ce4278163f0cdbb75af416ff9f90664964a02a57e76310da2080c345fb3e0"

/-- The calls of the first session up to its hello. -/
def firstSession : List LedgerCall :=
  [.prepareRequest (utf8 "request-one") 1900 1000,
    .reserve firstChallenge 2000 (utf8 "challenge-one") (utf8 "request-one") 1000]

def firstHello : LedgerCall := .storeHello firstChallenge (utf8 "hello-one")

/-- The calls of the second session, which completes. -/
def secondSession : List LedgerCall :=
  [.prepareRequest (utf8 "request-two") 1900 1001,
    .reserve secondChallenge 2000 (utf8 "challenge-two") (utf8 "request-two") 1001,
    .storeHello secondChallenge (utf8 "hello-two")]

/-- The first challenge, replayed in a third session. -/
def thirdSession : List LedgerCall :=
  [.prepareRequest (utf8 "request-three") 1900 1002,
    .reserve firstChallenge 2000 (utf8 "challenge-one") (utf8 "request-three") 1002]

def thirdHello : LedgerCall := .storeHello firstChallenge (utf8 "hello-three")

def sampleCalls : List LedgerCall :=
  firstSession ++ firstHello :: .complete firstChallenge ::
    (secondSession ++ .complete secondChallenge :: (thirdSession ++ [thirdHello]))

theorem distinct_sampleStates :
    ((LedgerState.empty 1).along sampleDigest sampleCalls |>.map LedgerState.json).Nodup := by
  decide +kernel

/-- The file format on the states of the sample calls. -/
def sampleCodec : Codec LedgerState :=
  LedgerState.codec ((LedgerState.empty 1).along sampleDigest sampleCalls) distinct_sampleStates

/-- Calls whose writes succeed. -/
def written (calls : List LedgerCall) : List LedgerInput := calls.map fun call => .call call .written

def reopen : LedgerInput := .restart 1 (.ok ()) .written

theorem returnsHello_of_find
    (found : ((host.ledger.bind fun state => state.find challengeId).map (·.expiresAtMs)) =
      some expiresAtMs) (reply : (host.perform codec transcriptDigest
      (.call (.storeHello challengeId bytes) outcome)).2 = some (.ok (.stored hello))) :
    ReturnsHello codec transcriptDigest host challengeId expiresAtMs hello
      (.call (.storeHello challengeId bytes) outcome) := by
  obtain ⟨_, search, deadline⟩ := Option.map_eq_some_iff.mp found
  obtain ⟨_, opened, located⟩ := Option.bind_eq_some_iff.mp search
  exact .stored opened located deadline reply

/-- The hello of the first session is returned again after a restart, and both sessions complete. -/
theorem challenge_ledger_replay_safe_restarted : ReplaySafe sampleCodec sampleDigest none
      (reopen :: (written (firstSession ++ [firstHello]) ++ reopen ::
        written (firstSession.drop 1 ++ .complete firstChallenge ::
          (secondSession ++ [.complete secondChallenge])))) ∧
      ReturnsHello sampleCodec sampleDigest
        (hostAfter sampleCodec sampleDigest none (reopen :: written firstSession)) firstChallenge
        2000 (utf8 "hello-one") (.call firstHello .written) ∧
      ReturnsHello sampleCodec sampleDigest (hostAfter sampleCodec sampleDigest none
          (reopen :: (written (firstSession ++ [firstHello]) ++ [reopen]))) firstChallenge
        2000 (utf8 "hello-one")
        (.call (.reserve firstChallenge 2000 (utf8 "challenge-one") (utf8 "request-one") 1000)
          .written) ∧
      Completes sampleCodec sampleDigest (hostAfter sampleCodec sampleDigest none
          (reopen :: (written (firstSession ++ [firstHello]) ++ reopen ::
            written (firstSession.drop 1 ++ .complete firstChallenge :: secondSession))))
        secondChallenge (.call (.complete secondChallenge) .written) := by
  refine ⟨challenge_ledger_replay_safe _ _ _ _ (by decide +kernel), ?_, ?_, ⟨_, rfl⟩, ?_⟩
  · exact returnsHello_of_find (by decide +kernel) (by decide +kernel)
  · exact .retried (by decide +kernel)
  · decide +kernel

/-- A consumed challenge can be given up before its deadline; replaying it then gets a new hello. -/
theorem evicted_challenge_gets_second_hello :
    Guarded (step sampleCodec sampleDigest) LedgerHost.OnTime (.closed none)
      (reopen :: written sampleCalls) ∧
      ReturnsHello sampleCodec sampleDigest
        (hostAfter sampleCodec sampleDigest none (reopen :: written firstSession)) firstChallenge
        2000 (utf8 "hello-one") (.call firstHello .written) ∧
      ReturnsHello sampleCodec sampleDigest
        (hostAfter sampleCodec sampleDigest none (reopen :: written
          (firstSession ++ firstHello :: .complete firstChallenge ::
            (secondSession ++ .complete secondChallenge :: thirdSession)))) firstChallenge
        2000 (utf8 "hello-three") (.call thirdHello .written) ∧
      utf8 "hello-one" ≠ utf8 "hello-three" := by
  refine ⟨by decide +kernel, ?_, ?_, by decide⟩
  · exact returnsHello_of_find (by decide +kernel) (by decide +kernel)
  · exact returnsHello_of_find (by decide +kernel) (by decide +kernel)

end AetherIot.CloudLink.ChallengeLedger
