import AetherIot.CloudLink.IntegrationDelivery

/-!
# Progress of the integration publisher

In an undisturbed session every retained record is offered and removed, whatever the order of the
acknowledgements: each step of the publisher and each acknowledgement leaves less to do.
-/

namespace AetherIot.CloudLink

open MachineText OrderedMap GuardedRun CloudLinkSpoolState

namespace IntegrationSession

variable {codec : PublisherCodec} {state next : IntegrationSession} {stream other : IntegrationStream}

/-- The publisher continues its offers, or it reads an acknowledgement of the cloud. -/
inductive GoodStep (codec : PublisherCodec) (state : IntegrationSession) : IntegrationSession → Prop
  | proceed (offering : state.phase ≠ .offerAll []) : GoodStep codec state (state.step codec .proceed)
  | durableAck {record : CloudLinkRecord} {receiptId : String}
      (reading : state.phase = .offerAll []) (member : record ∈ state.unacknowledged)
      (receipt : validIdentifier receiptId 128 = true) :
      GoodStep codec state (state.step codec (.durableAck record receiptId))

/-- Both spools are empty and every record of the earlier state was offered. -/
def Delivered (state later : IntegrationSession) : Prop :=
  (∀ stream, (later.spool stream).records = ∅) ∧
    ∀ (stream : IntegrationStream) (position : UInt64) (record : CloudLinkRecord),
      (state.spool stream).records[position]? = some record →
        ∃ sent ∈ later.offered, sent.identity = record.identity

section

variable (state)

/-- The number of positions that a spool retains. -/
def span (stream : IntegrationStream) : Nat :=
  (state.spool stream).nextPosition.toNat - (state.spool stream).earliestRetained.toNat

/-- What is left to do for the streams to which the publisher has not turned. -/
def cost (streams : List IntegrationStream) : Nat :=
  (streams.map fun stream => 3 * state.span stream + 4).sum

/-- What is left to do for the publisher, counted with the acknowledgements of its offers. -/
def phaseEffort : PublisherPhase → Nat
  | .offerAll streams => state.cost streams
  | .offerFrom stream _ streams => 3 * state.span stream + 3 + state.cost streams
  | .replay _ cursor nextPosition streams =>
    3 * (nextPosition.toNat - cursor.toNat) + 2 + state.cost streams
  | .offerRecord _ record _ nextPosition streams =>
    3 * (nextPosition.toNat - record.identity.position.toNat) + 1 + state.cost streams
  | .failed => 0

def effort : Nat :=
  state.unacknowledged.length + state.phaseEffort state.phase

end

/-- An offer changes no span. -/
theorem phaseEffort_afterOffer (base : state.Base codec) {record : CloudLinkRecord}
    (retained : (state.spool stream).records[record.identity.position]? = some record)
    (phase current : PublisherPhase) :
    (state.afterOffer stream record phase).phaseEffort current = state.phaseEffort current := by
  have span : (state.afterOffer stream record phase).span = state.span := by
    funext other
    by_cases same : other = stream
    · subst same
      rw [IntegrationSession.span, IntegrationSession.span, spool_afterOffer,
        ((base.aligned other).storeOffered retained _).2]
      rfl
    · rw [IntegrationSession.span, IntegrationSession.span, spool_afterOffer_of_ne same]
  cases current <;> simp only [phaseEffort, cost, span]

/-- What a step of the publisher does, and how much less is left. -/
theorem Sound.proceed_effect (sound : state.Sound codec) (offering : state.phase ≠ .offerAll []) :
    ∃ phase, (state.proceed codec = state.setPhase phase ∧
        state.phaseEffort phase < state.phaseEffort state.phase) ∨
      ∃ stream record, (state.spool stream).records[record.identity.position]? = some record ∧
          state.proceed codec = state.afterOffer stream record phase ∧
          state.phaseEffort phase + 1 < state.phaseEffort state.phase := by
  obtain ⟨base, phase⟩ := sound
  cases current : state.phase with
  | offerAll streams =>
    cases streams with
    | nil => exact absurd current offering
    | cons stream streams =>
      rw [IntegrationSession.proceed, current]
      by_cases vacant : (state.spool stream).records.size = 0
      · exact ⟨.offerAll streams, .inl ⟨if_pos vacant, by simp [phaseEffort, cost]⟩⟩
      · refine ⟨.offerFrom stream (state.spool stream).earliestRetained streams,
          .inl ⟨if_neg vacant, ?_⟩⟩
        simp [phaseEffort, cost]
  | offerFrom =>
    rw [current] at phase
    obtain ⟨-, rfl⟩ := phase
    rw [IntegrationSession.proceed, current]
    refine ⟨_, .inl ⟨rfl, ?_⟩⟩
    simp [phaseEffort, span]
  | replay stream cursor _ streams =>
    rw [current] at phase
    obtain ⟨_, rfl, lower, _⟩ := phase
    by_cases more : cursor < (state.spool stream).nextPosition
    · obtain ⟨record, records, next, rfl, _⟩ := proceed_page base current more lower
      exact ⟨_, .inl ⟨next, by simp [phaseEffort]⟩⟩
    · rw [IntegrationSession.proceed, current]
      refine ⟨.offerAll streams, .inl ⟨if_neg more, ?_⟩⟩
      simp only [phaseEffort]
      omega
  | offerRecord stream record records =>
    rw [current] at phase
    obtain ⟨_, rfl, positions, kept⟩ := phase
    have retained := kept record List.mem_cons_self
    have below := UInt64.lt_iff_toNat_lt.mp ((base.aligned stream).bounds retained).2
    obtain ⟨cursor, successor⟩ := base.successor retained
    rw [IntegrationSession.proceed, current]
    cases records with
    | nil =>
      simp only [cursor, offer_eq base retained]
      refine ⟨_, .inr ⟨stream, record, retained, rfl, ?_⟩⟩
      simp only [phaseEffort, successor]
      omega
    | cons =>
      simp only [cursor, offer_eq base retained]
      refine ⟨_, .inr ⟨stream, record, retained, rfl, ?_⟩⟩
      simp only [phaseEffort, (following_of_page positions successor).1, successor]
      omega
  | failed =>
    rw [current] at phase
    exact phase.elim

/-- What reading an acknowledgement leaves of the session. -/
theorem durableAck_fields (record : CloudLinkRecord) (receiptId : String) :
    (state.durableAck record receiptId).phase = state.phase ∧
      (state.durableAck record receiptId).offered = state.offered ∧
      (state.durableAck record receiptId).unacknowledged = state.unacknowledged.erase record := by
  rw [IntegrationSession.durableAck]
  split
  · exact ⟨rfl, rfl, rfl⟩
  · exact ⟨phase_setSpool _, offered_setSpool _, unacknowledged_setSpool _⟩

theorem GoodStep.sound (good : GoodStep codec state next) (sound : state.Sound codec) : next.Sound codec := by
  cases good with
  | proceed => exact sound.step trivial
  | durableAck _ _ receipt => exact sound.step receipt

/-- Every good step leaves less to do. -/
theorem GoodStep.effort_lt (good : GoodStep codec state next) (sound : state.Sound codec) :
    next.effort < state.effort := by
  cases good with
  | proceed offering =>
    change (state.proceed codec).effort < state.effort
    obtain ⟨phase, ⟨moved, less⟩ | ⟨stream, record, retained, moved, less⟩⟩ :=
      sound.proceed_effect offering
    · rw [moved]
      exact Nat.add_lt_add_left less _
    · rw [moved]
      change (state.unacknowledged ++ [record]).length +
        (state.afterOffer stream record phase).phaseEffort phase < _
      rw [phaseEffort_afterOffer sound.1 retained, List.length_append, List.length_singleton,
        effort]
      omega
  | @durableAck record receiptId reading member =>
    obtain ⟨phase, -, unacknowledged⟩ := @durableAck_fields state record receiptId
    rw [step, if_pos ⟨reading, member⟩, effort, effort, phase, unacknowledged, reading,
      List.length_erase_of_mem member]
    have some := List.length_pos_of_mem member
    simp only [phaseEffort, cost, List.map_nil, List.sum_nil]
    omega

/-- Every record of the earlier state was offered or is still retained. -/
def Kept (start state : IntegrationSession) : Prop :=
  ∀ (stream : IntegrationStream) (position : UInt64) (record : CloudLinkRecord),
    (start.spool stream).records[position]? = some record →
      (∃ sent ∈ state.offered, sent.identity = record.identity) ∨
        ∃ now, (state.spool stream).records[position]? = some now ∧ now.identity = record.identity

variable {start : IntegrationSession}

theorem GoodStep.kept (good : GoodStep codec state next) (sound : state.Sound codec)
    (kept : Kept start state) : Kept start next := by
  intro origin position record initially
  cases good with
  | proceed offering =>
    change (∃ sent ∈ (state.proceed codec).offered, _) ∨
      ∃ now, ((state.proceed codec).spool origin).records[position]? = some now ∧ _
    obtain ⟨_, ⟨moved, -⟩ | ⟨stream, offered, retained, moved, -⟩⟩ := sound.proceed_effect offering
    · rw [moved]
      exact kept origin position record initially
    · rw [moved]
      rcases kept origin position record initially with ⟨sent, member, same⟩ | ⟨now, found, same⟩
      · exact .inl ⟨sent, List.mem_append_left _ member, same⟩
      · by_cases current : origin = stream
        · subst current
          rw [spool_afterOffer]
          by_cases place : position = offered.identity.position
          · subst place
            refine .inr ⟨offered.setOffered state.session,
              getElem?_storeRecord.mpr (.inl ⟨rfl, rfl⟩), ?_⟩
            obtain rfl := Option.some.inj (retained.symm.trans found)
            exact same
          · exact .inr ⟨now, getElem?_storeRecord.mpr (.inr ⟨place, found⟩), same⟩
        · rw [spool_afterOffer_of_ne current]
          exact .inr ⟨now, found, same⟩
  | @durableAck acknowledged receiptId reading member =>
    obtain ⟨-, offered, -⟩ := @durableAck_fields state acknowledged receiptId
    rw [step, if_pos ⟨reading, member⟩, offered]
    rcases kept origin position record initially with sent | ⟨now, found, same⟩
    · exact .inl sent
    · have awaited := phaseSound_reading.mp (reading ▸ sound.2)
      obtain ⟨-, sent, waiting, identity, -⟩ :=
        awaited origin position now found ((sound.1.aligned origin).bounds found).2
      exact .inl ⟨sent, sound.1.sent sent waiting, identity.trans same⟩

theorem delivered_of_acknowledged (sound : state.Sound codec) (kept : Kept start state)
    (reading : state.phase = .offerAll []) (acknowledged : state.unacknowledged = []) :
    Delivered start state := by
  have awaited := phaseSound_reading.mp (reading ▸ sound.2)
  have vacant : ∀ stream (position : UInt64) record,
      ¬ (state.spool stream).records[position]? = some record := by
    intro stream position record found
    obtain ⟨-, sent, waiting, -⟩ :=
      awaited stream position record found ((sound.1.aligned stream).bounds found).2
    rw [acknowledged] at waiting
    cases waiting
  constructor
  · intro stream
    apply Std.ExtTreeMap.ext_getElem?
    intro position
    rw [Std.ExtTreeMap.getElem?_empty]
    exact Option.eq_none_iff_forall_ne_some.mpr fun record => vacant stream position record
  · intro stream position record initially
    rcases kept stream position record initially with sent | ⟨now, found, -⟩
    · exact sent
    · exact absurd found (vacant stream position now)

/-- In an undisturbed session everything that is retained is delivered. -/
theorem Sound.inevitably_delivered (sound : state.Sound codec) :
    Inevitable (GoodStep codec) (Delivered state) state := by
  have possible : ∀ later : IntegrationSession, later.Sound codec ∧ Kept state later →
      ¬ Delivered state later → ∃ next, GoodStep codec later next := by
    rintro later ⟨soundLater, kept⟩ undelivered
    by_cases reading : later.phase = .offerAll []
    · cases waiting : later.unacknowledged with
      | nil => exact absurd (delivered_of_acknowledged soundLater kept reading waiting) undelivered
      | cons record =>
        have member : record ∈ later.unacknowledged := by
          rw [waiting]
          exact List.mem_cons_self
        have receipt : validIdentifier "receipt" 128 = true := by decide
        exact ⟨_, .durableAck reading member receipt⟩
    · exact ⟨_, .proceed reading⟩
  have start : state.Sound codec ∧ Kept state state :=
    ⟨sound, fun stream position record found => .inr ⟨record, found, rfl⟩⟩
  refine Inevitable.of_measure effort possible ?_ start
  rintro _ _ ⟨soundLater, kept⟩ - good
  exact ⟨⟨good.sound soundLater, good.kept soundLater kept⟩, good.effort_lt soundLater⟩

/-- A session is established, and its publisher starts to offer the retained records of two streams,
all of which it can send. -/
structure Established (codec : PublisherCodec) (state : IntegrationSession) : Prop where
  aligned : ∀ stream, (state.spool stream).Aligned
  carried : ∀ (stream : IntegrationStream) (position : UInt64) (record : CloudLinkRecord),
    (state.spool stream).records[position]? = some record → codec.Carries record
  apart : ¬ (state.topologySpool.streamId = state.observationSpool.streamId ∧
    state.topologySpool.streamEpoch = state.observationSpool.streamEpoch)
  session : validateSession state.session = .ok ()
  phase : state.phase = .offerAll [.topology, .observations]
  offered : state.offered = []
  unacknowledged : state.unacknowledged = []

theorem Established.sound (established : state.Established codec) : state.Sound codec := by
  have unoffered : ∀ stream, state.OfferedBelow stream 0 := by
    intro _ _ member
    rw [established.offered] at member
    cases member
  refine ⟨⟨established.aligned, established.carried, ?_, established.session, ?_, ?_⟩, ?_⟩
  · intro _ first second atFirst atSecond
    have id := atFirst.1.symm.trans atSecond.1
    have epoch := atFirst.2.symm.trans atSecond.2
    cases first <;> cases second
    · rfl
    · exact absurd ⟨id, epoch⟩ established.apart
    · exact absurd ⟨id.symm, epoch.symm⟩ established.apart
    · rfl
  · rw [established.offered]
    exact List.Pairwise.nil
  · intro _ member
    rw [established.unacknowledged] at member
    cases member
  · rw [established.phase]
    refine ⟨by decide, fun other _ => unoffered other, ?_⟩
    intro other absent
    cases other <;> simp at absent

end IntegrationSession

open IntegrationSession

open IntegrationSession

/-- In every run of an established session in which records are enqueued only before the publisher
turns to their spool and can be sent, the records are offered in the order of their positions, and everything that is
retained is offered and removed while the publisher continues and the cloud acknowledges. -/
theorem retained_records_delivered (codec : PublisherCodec) (state : IntegrationSession)
    (established : state.Established codec) (inputs : List PublisherInput)
    (undisturbed : Guarded (step codec) (Undisturbed codec) state inputs) :
    (run (step codec) state inputs).offered.Pairwise Precedes ∧
      Inevitable (GoodStep codec) (Delivered (run (step codec) state inputs))
        (run (step codec) state inputs) := by
  have preserved : ∀ current input, Sound codec current → Undisturbed codec current input →
      (current.step codec input).Sound codec := fun _ _ sound allowed => sound.step allowed
  have sound := invariant preserved established.sound undisturbed
  exact ⟨sound.1.ordered, sound.inevitably_delivered⟩

/-- A new spool. -/
def emptySpool (streamId : String) : CloudLinkSpoolState :=
  ⟨streamId, 1, 1, 16, ∅, none, 0, none⟩

/-- A session that is established over two new spools. -/
def emptySession : IntegrationSession where
  session := ⟨"session", 1⟩
  topologySpool := emptySpool "topology"
  observationSpool := emptySpool "observations"
  phase := .offerAll [.topology, .observations]
  replaying := false
  offered := []
  unacknowledged := []

/-- An extension that can send every record. -/
def wholeCodec : PublisherCodec :=
  ⟨fun _ _ => true, fun _ _ => true⟩

/-- A topology snapshot that the synchronizer enqueues. -/
def topologySnapshot : CloudLinkEnqueue where
  messageKind := .integrationTopologySnapshot
  batchId := "snapshot"
  digest := "sha256:0000000000000000000000000000000000000000000000000000000000000000"
  payload := [0x7b, 0x7d]
  createdAt := 0
  expiresAt := none

theorem emptySpool_aligned {streamId : String} (valid : validateStreamId streamId = .ok ()) :
    (emptySpool streamId).Aligned := by
  have created : CloudLinkSpoolState.new streamId 16 = .ok (emptySpool streamId) := by
    simp only [CloudLinkSpoolState.new, valid]
    rfl
  exact (new_wellFormed created).toConsistent.aligned

theorem emptySession_established : emptySession.Established wholeCodec where
  aligned stream := by
    cases stream with
    | topology | observations => exact emptySpool_aligned (by decide)
  carried _ _ _ _ := ⟨rfl, rfl⟩
  apart := by decide
  session := by decide
  phase := rfl
  offered := rfl
  unacknowledged := rfl

/-- A snapshot that is enqueued before the publisher turns to its spool is delivered. -/
theorem retained_records_delivered_early_snapshot : Inevitable (GoodStep wholeCodec)
      (Delivered (run (step wholeCodec) emptySession [.enqueue .topology topologySnapshot]))
      (run (step wholeCodec) emptySession [.enqueue .topology topologySnapshot]) :=
  (retained_records_delivered wholeCodec emptySession emptySession_established
    [.enqueue .topology topologySnapshot] ⟨⟨List.mem_cons_self, rfl, rfl⟩, trivial⟩).2

/-- Nothing is offered while the publisher reads, without a replay request. -/
theorem step_reading {codec : PublisherCodec} {state : IntegrationSession} {input : PublisherInput}
    (quiet : state.phase = .offerAll [] ∧ state.offered = [])
    (noReplay : ∀ stream fromPosition, input ≠ .replayRequest stream fromPosition) :
    (state.step codec input).phase = .offerAll [] ∧ (state.step codec input).offered = [] := by
  cases input with
  | enqueue =>
    rw [IntegrationSession.step, phase_setSpool, offered_setSpool]
    exact quiet
  | proceed =>
    have same : state.proceed codec = state := by simp [proceed, quiet.1]
    rw [IntegrationSession.step, same]
    exact quiet
  | durableAck record receiptId =>
    rw [IntegrationSession.step]
    split
    · obtain ⟨phase, offered, -⟩ := @durableAck_fields state record receiptId
      rw [phase, offered]
      exact quiet
    · exact quiet
  | transportPublished =>
    rw [IntegrationSession.step, if_pos quiet.1, IntegrationSession.transportPublished]
    split
    · exact quiet
    · rw [phase_setSpool, offered_setSpool]
      exact quiet
  | replayRequest stream fromPosition => exact absurd rfl (noReplay stream fromPosition)

/-- A record that is enqueued after the offers of the session is retained, and nothing is offered
without a replay request. -/
theorem late_record_is_not_offered : (∃ record, (run (step wholeCodec) emptySession
        [.proceed, .proceed, .enqueue .topology topologySnapshot]).topologySpool.records[
          (1 : UInt64)]? = some record) ∧
      ∀ later : List PublisherInput,
        (∀ stream fromPosition, .replayRequest stream fromPosition ∉ later) →
        (run (step wholeCodec) emptySession
          ([.proceed, .proceed, .enqueue .topology topologySnapshot] ++ later)).offered = [] := by
  constructor
  · exact ⟨.fromEnqueue ⟨"topology", 1, 1⟩ topologySnapshot, by decide +kernel⟩
  · intro later noReplay
    rw [run_append]
    have preserved : ∀ (state : IntegrationSession), ∀ input ∈ later,
        state.phase = .offerAll [] ∧ state.offered = [] →
        (state.step wholeCodec input).phase = .offerAll [] ∧ (state.step wholeCodec input).offered = [] := by
      rintro _ _ member quiet
      refine step_reading quiet ?_
      rintro stream fromPosition rfl
      exact noReplay stream fromPosition member
    have start : (run (step wholeCodec) emptySession
          [.proceed, .proceed, .enqueue .topology topologySnapshot]).phase = .offerAll [] ∧
        (run (step wholeCodec) emptySession
          [.proceed, .proceed, .enqueue .topology topologySnapshot]).offered = [] := by
      decide +kernel
    exact (invariant_of_mem preserved start).2

end AetherIot.CloudLink
