import AetherIot.CloudLink.ChallengeLedger
import AetherIot.Foundation.Attempt

/-!
# Effects of challenge ledger calls

`LedgerEffect` lists what a successful call does.  It follows from this list alone that every call
continues a record that has not been consumed until its deadline: the record may get its hello, be
consumed, or expire, but it is not evicted.
-/

namespace AetherIot.CloudLink.ChallengeLedger

open MachineText Bytes KeyedList LedgerState Attempt

/-- The change of the state by a successful call, and the reply. -/
inductive LedgerEffect (transcriptDigest : List UInt8 → String) (before : LedgerState) :
    LedgerCall → LedgerState → LedgerReply → Prop
  | requested {request : List UInt8} {expiresAtMs evaluationTimeMs : UInt64} {text : String}
      (decoded : fromUtf8 request = some text)
      (vacant : (before.pendingRequest.filter fun pending =>
        evaluationTimeMs < pending.expiresAtMs) = none) :
      LedgerEffect transcriptDigest before (.prepareRequest request expiresAtMs evaluationTimeMs)
        { before with pendingRequest := some ⟨expiresAtMs, text⟩ }
        (.prepared ⟨utf8 text, expiresAtMs⟩)
  | recalled {request : List UInt8} {expiresAtMs evaluationTimeMs : UInt64}
      {pending : PendingRequest} (live : before.pendingRequest = some pending) :
      LedgerEffect transcriptDigest before (.prepareRequest request expiresAtMs evaluationTimeMs)
        before (.prepared ⟨utf8 pending.request, pending.expiresAtMs⟩)
  | retried {challengeId : String} {expiresAtMs evaluationTimeMs : UInt64}
      {challenge request : List UInt8} {record : ChallengeRecord} {pending : PendingRequest}
      {reservation : CloudLinkChallengeReservation}
      (found : (before.purge evaluationTimeMs).find challengeId = some record)
      (deadline : record.expiresAtMs = expiresAtMs) (open_ : record.status = .pending)
      (live : before.pendingRequest = some pending)
      (returned : record.reservation = .ok reservation) :
      LedgerEffect transcriptDigest before
        (.reserve challengeId expiresAtMs challenge request evaluationTimeMs)
        { before.purge evaluationTimeMs with pendingRequest := some { pending with expiresAtMs } }
        (.reserved reservation)
  | reserved {challengeId : String} {expiresAtMs evaluationTimeMs : UInt64}
      {challenge request : List UInt8} {pending : PendingRequest}
      {challengeDigest challengeText requestText : String}
      (unexpired : evaluationTimeMs < expiresAtMs)
      (absent : (before.purge evaluationTimeMs).find challengeId = none)
      (live : before.pendingRequest = some pending) :
      LedgerEffect transcriptDigest before
        (.reserve challengeId expiresAtMs challenge request evaluationTimeMs)
        (({ before.purge evaluationTimeMs with
            pendingRequest := some { pending with expiresAtMs } } : LedgerState).makeRoom.store
          (.reserved challengeId expiresAtMs challengeDigest challengeText requestText))
        (.reserved (.prepare (utf8 challengeText) (utf8 requestText)))
  | helloKept {challengeId : String} {hello : List UInt8} {record : ChallengeRecord}
      {text : String} (found : before.find challengeId = some record)
      (open_ : record.status = .pending) (kept : record.hello = some text) :
      LedgerEffect transcriptDigest before (.storeHello challengeId hello) before
        (.stored (utf8 text))
  | helloStored {challengeId : String} {hello : List UInt8} {record : ChallengeRecord}
      {text : String} (found : before.find challengeId = some record)
      (open_ : record.status = .pending) (missing : record.hello = none) :
      LedgerEffect transcriptDigest before (.storeHello challengeId hello)
        (before.update challengeId fun record => { record with hello := some text })
        (.stored (utf8 text))
  | completed {challengeId : String} {record : ChallengeRecord} {pending : PendingRequest}
      {next : UInt64} (found : before.find challengeId = some record)
      (open_ : record.status = .pending) (live : before.pendingRequest = some pending)
      (requested : record.request = some pending.request) :
      LedgerEffect transcriptDigest before (.complete challengeId)
        { before.update challengeId (·.consumed before.nextCompletionOrder) with
          nextCompletionOrder := next
          pendingRequest := none } .completed

variable {transcriptDigest : List UInt8 → String} {record found other : ChallengeRecord}
  {state after before : LedgerState} {request : List UInt8}
  {expiresAtMs evaluationTimeMs clock : UInt64} {reply : LedgerReply} {challengeId : String}
  {call : LedgerCall} {records : List ChallengeRecord}

theorem pending_of_not_completed (open_ : ¬ record.status = .completed) :
    record.status = .pending := by
  cases status : record.status with
  | pending => rfl
  | completed => exact absurd status open_

theorem extendRequest_eq_ok {request : String}
    (extended : state.extendRequest request expiresAtMs evaluationTimeMs = .ok after) :
    ∃ pending, state.pendingRequest = some pending ∧
      after = { state with pendingRequest := some { pending with expiresAtMs } } := by
  unfold extendRequest at extended
  split at extended
  · cases extended
  · rename_i pending live
    obtain ⟨-, ⟨⟩⟩ := refuse_eq_ok.mp extended
    exact ⟨pending, (Option.filter_eq_some_iff.mp live).1, rfl⟩

theorem prepareRequest_effect {reply : CloudLinkPendingChallengeRequest}
    (result : before.prepareRequest request expiresAtMs evaluationTimeMs = .ok (after, reply)) :
    LedgerEffect transcriptDigest before (.prepareRequest request expiresAtMs evaluationTimeMs)
      after (.prepared reply) := by
  simp only [prepareRequest, refuse_eq_ok] at result
  obtain ⟨-, -, result⟩ := result
  split at result
  · cases result
  rename_i decoded
  split at result
  · rename_i pending live
    have stored : before.pendingRequest = some pending := (Option.filter_eq_some_iff.mp live).1
    cases result
    rw [← stored]
    exact .recalled stored
  · rename_i vacant
    cases result
    exact .requested decoded vacant

theorem reserve_effect {challenge : List UInt8} {reply : CloudLinkChallengeReservation}
    (result : before.reserve transcriptDigest challengeId expiresAtMs challenge request
      evaluationTimeMs = .ok (after, reply)) :
    LedgerEffect transcriptDigest before
      (.reserve challengeId expiresAtMs challenge request evaluationTimeMs) after
      (.reserved reply) := by
  simp only [reserve, refuse_eq_ok] at result
  obtain ⟨-, unexpired, result⟩ := result
  split at result
  · split at result
    · rename_i record found
      simp only [bind_eq_ok, refuse_eq_ok] at result
      obtain ⟨agrees, open_, _, extension, _, returned, ⟨⟩⟩ := result
      obtain ⟨_, live, rfl⟩ := extendRequest_eq_ok extension
      have deadline : record.expiresAtMs = expiresAtMs := by
        by_contra other
        exact agrees (.inl other)
      exact .retried found deadline (pending_of_not_completed open_) live returned
    · rename_i absent
      simp only [bind_eq_ok, refuse_eq_ok] at result
      obtain ⟨_, extension, -, ⟨⟩⟩ := result
      obtain ⟨_, live, rfl⟩ := extendRequest_eq_ok extension
      exact .reserved (UInt64.not_le.mp unexpired) absent live
  · cases result

theorem storeHello_effect {hello reply : List UInt8}
    (result : before.storeHello challengeId hello = .ok (after, reply)) :
    LedgerEffect transcriptDigest before (.storeHello challengeId hello) after (.stored reply) := by
  obtain ⟨-, result⟩ := refuse_eq_ok.mp result
  split at result
  · cases result
  split at result
  · cases result
  rename_i found
  obtain ⟨open_, result⟩ := refuse_eq_ok.mp result
  split at result
  · rename_i kept
    split at result
    · cases result
      exact .helloKept found (pending_of_not_completed open_) kept
    · cases result
  · rename_i missing
    cases result
    exact .helloStored found (pending_of_not_completed open_) missing

theorem complete_effect (result : before.complete challengeId = .ok (after, ())) :
    LedgerEffect transcriptDigest before (.complete challengeId) after .completed := by
  obtain ⟨-, result⟩ := refuse_eq_ok.mp result
  split at result
  · cases result
  rename_i found
  simp only [refuse_eq_ok] at result
  obtain ⟨open_, -, result⟩ := result
  split at result
  · cases result
  rename_i recordRequest requested
  obtain ⟨matching, result⟩ := refuse_eq_ok.mp result
  split at result
  · cases result
  cases result
  obtain ⟨pending, live, same⟩ : ∃ pending, before.pendingRequest = some pending ∧
      pending.request = recordRequest := by
    simpa [Option.any_eq_true] using matching
  exact .completed found (pending_of_not_completed open_) live (by rw [requested, same])

/-- A successful call has one of the listed effects. -/
theorem effect_of_compute (result : before.compute transcriptDigest call = .ok (after, reply)) :
    LedgerEffect transcriptDigest before call after reply := by
  cases call with
  | prepareRequest =>
    obtain ⟨_, computed, ⟨⟩⟩ := map_eq_ok.mp result
    exact prepareRequest_effect computed
  | reserve =>
    obtain ⟨_, computed, ⟨⟩⟩ := map_eq_ok.mp result
    exact reserve_effect computed
  | storeHello =>
    obtain ⟨_, computed, ⟨⟩⟩ := map_eq_ok.mp result
    exact storeHello_effect computed
  | complete =>
    obtain ⟨_, computed, ⟨⟩⟩ := map_eq_ok.mp result
    exact complete_effect computed

/-- Both records are for one challenge with one deadline. -/
def ChallengeRecord.SameChallenge (record other : ChallengeRecord) : Prop :=
  other.challengeId = record.challengeId ∧ other.expiresAtMs = record.expiresAtMs

/-- `later` is the record after further calls: it may have got its hello and been consumed. -/
structure ChallengeRecord.Continues (record later : ChallengeRecord) : Prop where
  same : record.SameChallenge later
  digest : later.challengeDigest = record.challengeDigest
  transcript : later.status = .completed ∨
    later.challenge = record.challenge ∧ later.request = record.request ∧
      (record.hello = none ∨ later.hello = record.hello)

theorem ChallengeRecord.Continues.refl (record : ChallengeRecord) : record.Continues record :=
  ⟨⟨rfl, rfl⟩, rfl, .inr ⟨rfl, rfl, .inr rfl⟩⟩

theorem ChallengeRecord.Continues.with_hello (continues : record.Continues found)
    (open_ : found.status = .pending) (missing : found.hello = none) (text : String) :
    record.Continues { found with hello := some text } := by
  obtain completed | ⟨challenge, request, hello⟩ := continues.transcript
  · rw [open_] at completed
    cases completed
  · refine ⟨continues.same, continues.digest, .inr ⟨challenge, request, .inl ?_⟩⟩
    rcases hello with none | kept
    · exact none
    · rw [← kept, missing]

theorem ChallengeRecord.Continues.consumed (continues : record.Continues found) (order : UInt64) :
    record.Continues (found.consumed order) :=
  ⟨continues.same, continues.digest, .inl rfl⟩

section

variable (record) (clock) (records)

/-- Every record for the challenge continues `record`, and there is one until the deadline. -/
structure Carries : Prop where
  continues : ∀ other ∈ records, record.SameChallenge other → record.Continues other
  kept : clock < record.expiresAtMs → ∃ other ∈ records, record.SameChallenge other

/-- Challenge identities do not repeat. -/
def Distinct : Prop := (records.map (·.challengeId)).Nodup

end

/-- No record for the challenge has been consumed. -/
def Unconsumed (challengeId : String) (expiresAtMs : UInt64) (records : List ChallengeRecord) :
    Prop :=
  ∀ record ∈ records, record.challengeId = challengeId → record.expiresAtMs = expiresAtMs →
    record.status = .pending

theorem eq_of_distinct (distinct : Distinct records) (member : record ∈ records)
    (otherMember : other ∈ records) (same : other.challengeId = record.challengeId) :
    other = record :=
  List.inj_on_of_nodup_map distinct otherMember member same

theorem carries_self (distinct : Distinct records) (member : record ∈ records) (clock : UInt64) :
    Carries record clock records where
  continues other otherMember same := by
    rw [eq_of_distinct distinct member otherMember same.1]
    exact .refl record
  kept _ := ⟨record, member, rfl, rfl⟩

theorem Carries.later {later : UInt64} (carries : Carries record clock records)
    (advances : clock ≤ later) : Carries record later records where
  continues := carries.continues
  kept unexpired := carries.kept (UInt64.lt_of_le_of_lt advances unexpired)

theorem mem_purge : record ∈ (state.purge evaluationTimeMs).records ↔ record ∈ state.records ∧
        (record.status = .completed ∨ evaluationTimeMs < record.expiresAtMs) := by
  simp [purge, List.mem_filter]

theorem find_eq_some (found : state.find challengeId = some record) :
    record ∈ state.records ∧ record.challengeId = challengeId :=
  ⟨List.mem_of_find?_eq_some found, by simpa using List.find?_some found⟩

theorem Carries.purge (carries : Carries record clock state.records)
    (onTime : clock ≤ evaluationTimeMs) :
    Carries record evaluationTimeMs (state.purge evaluationTimeMs).records where
  continues other member same := carries.continues other (mem_purge.mp member).1 same
  kept unexpired := by
    obtain ⟨other, member, same⟩ := (carries.later onTime).kept unexpired
    exact ⟨other, mem_purge.mpr ⟨member, .inr (by rwa [same.2])⟩, same⟩

theorem mem_makeRoom (member : record ∈ state.records) (open_ : record.status = .pending) :
    record ∈ state.makeRoom.records := by
  unfold makeRoom
  split
  · split
    · rename_i oldest
      obtain ⟨_, chosen, rfl⟩ := Option.map_eq_some_iff.mp oldest
      have listed := List.argmin_mem chosen
      obtain ⟨located, completed⟩ := List.mem_filter.mp listed
      have there := List.getElem?_eq_some_iff.mp (List.mem_zipIdx_iff_getElem?.mp located)
      obtain ⟨position, inside, same⟩ := List.getElem_of_mem member
      refine List.mem_eraseIdx_iff_getElem.mpr ⟨position, inside, ?_, same⟩
      rintro rfl
      obtain ⟨_, entry_eq⟩ := there
      rw [← same, entry_eq] at open_
      simp [open_] at completed
    · exact member
  · exact member

theorem of_mem_makeRoom (member : record ∈ state.makeRoom.records) : record ∈ state.records := by
  unfold makeRoom at member
  split at member
  · split at member
    · exact List.mem_of_mem_eraseIdx member
    · exact member
  · exact member

theorem mem_store :
    other ∈ (state.store record).records ↔ other ∈ state.records ∨ other = record := by
  simp [store]

theorem Carries.reserve (carries : Carries record clock state.records) (fresh : ChallengeRecord)
    (unexpired : clock < fresh.expiresAtMs)
    (unconsumed : Unconsumed record.challengeId record.expiresAtMs state.records)
    (absent : state.find fresh.challengeId = none) :
    Carries record clock (state.makeRoom.store fresh).records where
  continues other member same := by
    rcases mem_store.mp member with member | rfl
    · exact carries.continues other (of_mem_makeRoom member) same
    · obtain ⟨earlier, earlierMember, sameEarlier⟩ := carries.kept (by rwa [← same.2])
      have missed := List.find?_eq_none.mp absent earlier earlierMember
      exact absurd (by simp [sameEarlier.1, same.1]) missed
  kept live := by
    obtain ⟨other, member, same⟩ := carries.kept live
    have open_ := unconsumed other member same.1 same.2
    exact ⟨other, mem_store.mpr (.inl (mem_makeRoom member open_)), same⟩

theorem Carries.update {change : ChallengeRecord → ChallengeRecord}
    (carries : Carries record clock state.records) (distinct : Distinct state.records)
    (search : state.find challengeId = some found) (keeps : found.SameChallenge (change found))
    (extends_ : record.Continues found → record.Continues (change found)) :
    Carries record clock (state.update challengeId change).records where
  continues other member same := by
    rcases mem_updateFirst member with member | ⟨_, location, rfl⟩
    · exact carries.continues other member same
    · cases Option.some.inj (location.symm.trans search)
      refine extends_ (carries.continues found (find_eq_some search).1 ?_)
      exact ⟨keeps.1.symm.trans same.1, keeps.2.symm.trans same.2⟩
  kept live := by
    obtain ⟨other, member, same⟩ := carries.kept live
    obtain ⟨foundMember, named⟩ := find_eq_some search
    by_cases chosen : other.challengeId = challengeId
    · cases eq_of_distinct distinct foundMember member (chosen.trans named.symm)
      exact ⟨change found, change_mem_updateFirst search, keeps.1.trans same.1,
        keeps.2.trans same.2⟩
    · exact ⟨other, mem_updateFirst_of_not_wanted member (by simpa using chosen), same⟩

/-- The time at which a call evaluates deadlines. -/
def LedgerCall.evaluationTime : LedgerCall → Option UInt64
  | .prepareRequest _ _ evaluationTimeMs => some evaluationTimeMs
  | .reserve _ _ _ _ evaluationTimeMs => some evaluationTimeMs
  | .storeHello _ _ => none
  | .complete _ => none

/-- A call continues every record that has not been consumed. -/
theorem Carries.effect (effect : LedgerEffect transcriptDigest before call after reply)
    (carries : Carries record clock before.records) (distinct : Distinct before.records)
    (unconsumed : Unconsumed record.challengeId record.expiresAtMs before.records)
    (onTime : ∀ time, call.evaluationTime = some time → clock ≤ time) :
    Carries record (call.evaluationTime.getD clock) after.records := by
  cases effect with
  | requested | recalled => exact carries.later (onTime _ rfl)
  | retried => exact carries.purge (onTime _ rfl)
  | reserved unexpired absent =>
    refine Carries.reserve ?_ _ unexpired ?_ absent
    · exact carries.purge (onTime _ rfl)
    · exact fun other member => unconsumed other (mem_purge.mp member).1
  | helloKept => exact carries
  | helloStored found open_ missing =>
    exact carries.update distinct found ⟨rfl, rfl⟩ fun continues =>
      continues.with_hello open_ missing _
  | completed found =>
    exact carries.update distinct found ⟨rfl, rfl⟩ fun continues => continues.consumed _

end AetherIot.CloudLink.ChallengeLedger
