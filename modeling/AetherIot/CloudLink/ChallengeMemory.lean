import AetherIot.CloudLink.ChallengeReplay

/-!
# The memory of completed challenges

A completed record refuses its challenge for as long as the ledger retains it.  Only a reservation
at capacity gives it up, namely when no other retained record was completed before it.
-/

namespace AetherIot.CloudLink.ChallengeLedger

open MachineText Bytes KeyedList GuardedRun

variable {transcriptDigest : List UInt8 → String} {codec : Codec LedgerState}

/-- A completed record for the challenge is retained. -/
def Remembers (challengeId : String) (records : List ChallengeRecord) : Prop :=
  ∃ record ∈ records, record.challengeId = challengeId ∧ record.status = .completed

/-- A new reservation at this time gives up the record of the challenge to make room. -/
def LedgerState.GivesUp (state : LedgerState) (challengeId : String) (evaluationTimeMs : UInt64) :
    Prop :=
  let live := state.purge evaluationTimeMs
  live.records.length = live.capacity ∧
    ∃ index record, LedgerState.oldestCompleted live.records = some index ∧
      live.records[index]? = some record ∧ record.challengeId = challengeId

/-- The input reserves a new challenge in place of the completed one. -/
def LedgerHost.Evicts (challengeId : String) (host : LedgerHost) : LedgerInput → Prop
  | .call (.reserve newId _ _ _ evaluationTimeMs) _ =>
    ∃ state, host.ledger = some state ∧ (state.purge evaluationTimeMs).find newId = none ∧
      state.GivesUp challengeId evaluationTimeMs
  | _ => False

section

variable {challengeId : String} {state : LedgerState}

theorem Remembers.purge (remembers : Remembers challengeId state.records)
    (evaluationTimeMs : UInt64) :
    Remembers challengeId (state.purge evaluationTimeMs).records := by
  obtain ⟨record, member, named, completed⟩ := remembers
  exact ⟨record, mem_purge.mpr ⟨member, .inl completed⟩, named, completed⟩

variable {record : ChallengeRecord} {before after : LedgerState} {reply : LedgerReply}

/-- Making room keeps every record but the one that was completed first. -/
theorem mem_makeRoom_of_ne (member : record ∈ state.records)
    (retained : state.records.length = state.capacity → ∀ index,
      LedgerState.oldestCompleted state.records = some index →
        state.records[index]? ≠ some record) : record ∈ state.makeRoom.records := by
  unfold LedgerState.makeRoom
  split
  · rename_i full
    split
    · rename_i oldest
      obtain ⟨position, inside, same⟩ := List.getElem_of_mem member
      refine List.mem_eraseIdx_iff_getElem.mpr ⟨position, inside, ?_, same⟩
      rintro rfl
      exact retained full position oldest (List.getElem?_eq_some_iff.mpr ⟨inside, same⟩)
    · exact member
  · exact member

theorem Remembers.not_pending (remembers : Remembers challengeId state.records)
    (distinct : Distinct state.records) (member : record ∈ state.records)
    (open_ : record.status = .pending) : record.challengeId ≠ challengeId := by
  obtain ⟨_, knownMember, named, completed⟩ := remembers
  intro same
  rw [eq_of_distinct distinct knownMember member (same.trans named.symm), completed] at open_
  cases open_

/-- Changing a pending record keeps the completed ones. -/
theorem Remembers.update (remembers : Remembers challengeId state.records)
    (distinct : Distinct state.records) {changedId : String}
    (found : state.find changedId = some record) (open_ : record.status = .pending)
    (change : ChallengeRecord → ChallengeRecord) :
    Remembers challengeId (state.update changedId change).records := by
  obtain ⟨member, named⟩ := find_eq_some found
  have other := remembers.not_pending distinct member open_
  obtain ⟨known, knownMember, sameId, completed⟩ := remembers
  refine ⟨known, mem_updateFirst_of_not_wanted knownMember ?_, sameId, completed⟩
  simpa [sameId, ← named] using other.symm

theorem Remembers.effect {call : LedgerCall}
    (effect : LedgerEffect transcriptDigest before call after reply)
    (remembers : Remembers challengeId before.records) (distinct : Distinct before.records)
    (retained : ∀ newId expiresAtMs challenge request evaluationTimeMs,
      call = .reserve newId expiresAtMs challenge request evaluationTimeMs →
      (before.purge evaluationTimeMs).find newId = none →
        ¬ before.GivesUp challengeId evaluationTimeMs) :
    Remembers challengeId after.records := by
  cases effect with
  | requested | recalled | helloKept => exact remembers
  | retried => exact remembers.purge _
  | reserved _ absent =>
    have stays := retained _ _ _ _ _ rfl absent
    obtain ⟨record, member, named, completed⟩ := remembers.purge _
    refine ⟨record, mem_store.mpr (.inl (mem_makeRoom_of_ne member ?_)), named, completed⟩
    intro full index oldest located
    exact stays ⟨full, index, record, oldest, located, named⟩
  | helloStored found open_ | completed found open_ =>
    exact remembers.update distinct found open_ _

theorem Remembers.refuses {expiresAtMs evaluationTimeMs : UInt64} {challenge request : List UInt8}
    (remembers : Remembers challengeId before.records) (distinct : Distinct before.records) :
    ¬ LedgerEffect transcriptDigest before
      (.reserve challengeId expiresAtMs challenge request evaluationTimeMs) after reply := by
  intro effect
  cases effect with
  | retried found _ open_ =>
    obtain ⟨member, named⟩ := find_eq_some found
    exact remembers.not_pending distinct (mem_purge.mp member).1 open_ named
  | reserved _ absent =>
    obtain ⟨record, member, named, -⟩ := remembers.purge evaluationTimeMs
    exact absurd (by simpa using named) (List.find?_eq_none.mp absent record member)

end

/-- The open ledger and the file both retain a completed record for the challenge. -/
structure LedgerHost.Remembers (codec : Codec LedgerState) (challengeId : String)
    (host : LedgerHost) : Prop where
  ledger : ∀ state, host.ledger = some state → ChallengeLedger.Remembers challengeId state.records
  file : ∃ stored, host.stored codec = some stored ∧
    ChallengeLedger.Remembers challengeId stored.records

section

variable {challengeId : String} {host : LedgerHost} {outcome : WriteOutcome} {input : LedgerInput}

theorem remembers_step (transcriptDigest : List UInt8 → String) (onTime : host.OnTime input)
    (coherent : host.Coherent codec) (remembers : host.Remembers codec challengeId)
    (retained : ¬ host.Evicts challengeId input) :
    (host.step codec transcriptDigest input).Remembers codec challengeId := by
  refine and_imp.mpr LedgerHost.Remembers.mk (held_step
    (fun _ state => ChallengeLedger.Remembers challengeId state.records) remembers.ledger
    remembers.file onTime (fun _ _ _ remembers => remembers) ?_)
  rintro _ _ current _ _ rfl opened effect
  refine (remembers.ledger current opened).effect effect (coherent.distinct current opened) ?_
  rintro _ _ _ _ _ rfl absent givesUp
  exact retained ⟨current, opened, absent, givesUp⟩

/-- A completed challenge is retained until it makes room for another. -/
theorem remembers_run {inputs : List LedgerInput}
    (onTime : Guarded (LedgerHost.step codec transcriptDigest) LedgerHost.OnTime host inputs)
    (retained : Guarded (LedgerHost.step codec transcriptDigest)
      (fun host input => ¬ host.Evicts challengeId input) host inputs)
    (coherent : host.Coherent codec) (remembers : host.Remembers codec challengeId) :
    (run (LedgerHost.step codec transcriptDigest) host inputs).Remembers codec challengeId := by
  have preserved : ∀ (host : LedgerHost) (input : LedgerInput),
      host.Coherent codec ∧ host.Remembers codec challengeId →
      host.OnTime input ∧ ¬ host.Evicts challengeId input →
      (host.step codec transcriptDigest input).Coherent codec ∧
        (host.step codec transcriptDigest input).Remembers codec challengeId := by
    rintro _ _ ⟨coherent, remembers⟩ ⟨onTime, retained⟩
    exact ⟨coherent_step transcriptDigest onTime coherent,
      remembers_step transcriptDigest onTime coherent remembers retained⟩
  exact (invariant preserved ⟨coherent, remembers⟩ (guarded_and onTime retained)).2

theorem Completes.remembers (completes : Completes codec transcriptDigest host challengeId input) :
    (host.step codec transcriptDigest input).Remembers codec challengeId := by
  obtain ⟨⟨_, rfl⟩, reply⟩ := completes
  obtain ⟨before, _, _, effect, openedAfter, written⟩ := effect_of_reply reply
  cases effect with
  | @completed _ _ _ _ found _ live =>
    have remembers : ChallengeLedger.Remembers challengeId
        (before.update challengeId (·.consumed before.nextCompletionOrder)).records :=
      ⟨_, change_mem_updateFirst found, (find_eq_some found).2, rfl⟩
    rcases written with unchanged | stored
    · rw [← unchanged] at live
      cases live
    · refine ⟨fun state ledger => ?_, _, stored, remembers⟩
      cases Option.some.inj (openedAfter.symm.trans ledger)
      exact remembers

theorem LedgerHost.Remembers.refuses (remembers : host.Remembers codec challengeId)
    (coherent : host.Coherent codec) {expiresAtMs evaluationTimeMs : UInt64}
    {challenge request : List UInt8} (reservation : CloudLinkChallengeReservation) :
    (host.perform codec transcriptDigest (.call
      (.reserve challengeId expiresAtMs challenge request evaluationTimeMs) outcome)).2 ≠
        some (.ok (.reserved reservation)) := by
  intro reply
  obtain ⟨before, _, opened, effect, -⟩ := effect_of_reply reply
  exact (remembers.ledger before opened).refuses (coherent.distinct before opened) effect

end

/-- On every run with non-decreasing evaluation times, a challenge that has been completed is not
reserved again before its completed record makes room for another challenge. -/
theorem completed_challenge_refused (codec : Codec LedgerState)
    (transcriptDigest : List UInt8 → String) (file : Option (List UInt8))
    (front middle back : List LedgerInput) (completion : LedgerInput) (challengeId : String)
    (expiresAtMs evaluationTimeMs : UInt64) (challenge request : List UInt8)
    (outcome : WriteOutcome)
    (onTime : Guarded (LedgerHost.step codec transcriptDigest) LedgerHost.OnTime (.closed file)
      (front ++ completion :: (middle ++ .call
        (.reserve challengeId expiresAtMs challenge request evaluationTimeMs) outcome :: back)))
    (completes : Completes codec transcriptDigest (hostAfter codec transcriptDigest file front)
      challengeId completion)
    (retained : Guarded (LedgerHost.step codec transcriptDigest)
      (fun host input => ¬ host.Evicts challengeId input)
      (hostAfter codec transcriptDigest file (front ++ [completion])) middle)
    (reservation : CloudLinkChallengeReservation) :
    ((hostAfter codec transcriptDigest file (front ++ completion :: middle)).perform codec
      transcriptDigest (.call (.reserve challengeId expiresAtMs challenge request evaluationTimeMs)
        outcome)).2 ≠ some (.ok (.reserved reservation)) := by
  obtain ⟨frontOnTime, completionOnTime, restOnTime⟩ := guarded_append.mp onTime
  have coherent := coherent_run frontOnTime coherent_closed
  have coherentAfter := coherent_step transcriptDigest completionOnTime coherent
  have middleOnTime := (guarded_append.mp restOnTime).1
  rw [hostAfter_snoc] at retained
  rw [hostAfter_append, run_cons]
  have remembers := remembers_run middleOnTime retained coherentAfter completes.remembers
  exact remembers.refuses (coherent_run middleOnTime coherentAfter) reservation

/-- The first challenge is refused in the second session before another one takes its place. -/
theorem completed_challenge_refused_second :
    let front := reopen :: written (firstSession ++ [firstHello])
    let middle := written (secondSession.take 1)
    Completes sampleCodec sampleDigest (hostAfter sampleCodec sampleDigest none front)
        firstChallenge (.call (.complete firstChallenge) .written) ∧
      ∀ reservation, ((hostAfter sampleCodec sampleDigest none
        (front ++ .call (.complete firstChallenge) .written :: middle)).perform sampleCodec
          sampleDigest (.call (.reserve firstChallenge 2000 (utf8 "challenge-one")
            (utf8 "request-two") 1001) .written)).2 ≠ some (.ok (.reserved reservation)) := by
  intro front middle
  have completes : Completes sampleCodec sampleDigest
      (hostAfter sampleCodec sampleDigest none front) firstChallenge
      (.call (.complete firstChallenge) .written) := ⟨⟨_, rfl⟩, by decide +kernel⟩
  exact ⟨completes, completed_challenge_refused sampleCodec sampleDigest none front middle [] _
    firstChallenge 2000 1001 _ _ _ (by decide +kernel) completes ⟨not_false, trivial⟩⟩

/-- With room for one record, the second session takes the place of the first, whose challenge is
then accepted again before its deadline. -/
theorem completed_challenge_replayed :
    let front := reopen :: written (firstSession ++ [firstHello])
    let middle := written (secondSession ++ .complete secondChallenge :: thirdSession.take 1)
    Guarded (LedgerHost.step sampleCodec sampleDigest) LedgerHost.OnTime (.closed none)
        (reopen :: written sampleCalls) ∧
      reopen :: written sampleCalls = front ++ .call (.complete firstChallenge) .written ::
        (middle ++ written (thirdSession.drop 1 ++ [thirdHello])) ∧
      Completes sampleCodec sampleDigest (hostAfter sampleCodec sampleDigest none front)
        firstChallenge (.call (.complete firstChallenge) .written) ∧
      ((hostAfter sampleCodec sampleDigest none
        (front ++ .call (.complete firstChallenge) .written :: middle)).perform sampleCodec
          sampleDigest (.call (.reserve firstChallenge 2000 (utf8 "challenge-one")
            (utf8 "request-three") 1002) .written)).2 =
        some (.ok (.reserved (.prepare (utf8 "challenge-one") (utf8 "request-three")))) := by
  intro _ _
  exact ⟨by decide +kernel, rfl, ⟨⟨_, rfl⟩, by decide +kernel⟩, by decide +kernel⟩

end AetherIot.CloudLink.ChallengeLedger
