import AetherIot.CloudLink.IntegrationPublisher
import AetherIot.CloudLink.SpoolOffers

/-!
# Delivery of retained records in one session

Every record that is in its spool before the publisher turns to the spool is offered in the session, in
the order of the positions, and removed by the acknowledgements.  A record that is enqueued later is
not offered in the session.
-/

namespace AetherIot.CloudLink

open MachineText OrderedMap GuardedRun CloudLinkSpoolState

/-- The streams that the publisher has not turned to. -/
def PublisherPhase.waiting : PublisherPhase → List IntegrationStream
  | .offerAll streams => streams
  | .offerFrom _ _ streams => streams
  | .replay _ _ _ streams => streams
  | .offerRecord _ _ _ _ streams => streams
  | .failed => []

/-- The publisher can send the record. -/
def PublisherCodec.Carries (codec : PublisherCodec) (record : CloudLinkRecord) : Prop :=
  codec.routes record.identity record.content = true ∧
    codec.encodes record.identity record.content = true

namespace IntegrationSession

variable {codec : PublisherCodec} {state : IntegrationSession} {stream other : IntegrationStream}

/-- Records are enqueued only before the publisher turns to their spool, and it can send them; the
cloud acknowledges with valid receipts and requests no replay. -/
def Undisturbed (codec : PublisherCodec) (state : IntegrationSession) : PublisherInput → Prop
  | .enqueue stream input =>
    stream ∈ state.phase.waiting ∧ codec.Carries ((state.spool stream).nextRecord input)
  | .durableAck _ receiptId => validIdentifier receiptId 128 = true
  | .replayRequest _ _ => False
  | _ => True

@[simp] theorem spool_setSpool (spool : CloudLinkSpoolState) :
    (state.setSpool stream spool).spool stream = spool := by
  cases stream <;> rfl

theorem spool_setSpool_of_ne (different : other ≠ stream) (spool : CloudLinkSpoolState) :
    (state.setSpool stream spool).spool other = state.spool other := by
  cases stream <;> cases other <;> first | rfl | exact absurd rfl different

section

variable (spool : CloudLinkSpoolState)

@[simp] theorem session_setSpool :
    (state.setSpool stream spool).session = state.session := by
  cases stream <;> rfl

@[simp] theorem phase_setSpool :
    (state.setSpool stream spool).phase = state.phase := by
  cases stream <;> rfl

@[simp] theorem offered_setSpool :
    (state.setSpool stream spool).offered = state.offered := by
  cases stream <;> rfl

@[simp] theorem unacknowledged_setSpool :
    (state.setSpool stream spool).unacknowledged = state.unacknowledged := by
  cases stream <;> rfl

end

/-- The record was offered from the spool of the stream. -/
def Belongs (state : IntegrationSession) (sent : CloudLinkRecord) (stream : IntegrationStream) :
    Prop :=
  sent.identity.streamId = (state.spool stream).streamId ∧
    sent.identity.streamEpoch = (state.spool stream).streamEpoch

/-- The record was offered in the session and its acknowledgement is to come. -/
def Awaits (state : IntegrationSession) (record : CloudLinkRecord) : Prop :=
  record.offeredSession = some state.session ∧ ∃ sent ∈ state.unacknowledged,
    sent.identity = record.identity ∧ sent.batchId = record.batchId ∧ sent.digest = record.digest

section

variable (state) (stream) (bound : UInt64)

/-- Every record retained below the bound awaits its acknowledgement. -/
def AwaitedBelow : Prop :=
  ∀ (position : UInt64) (record : CloudLinkRecord),
    (state.spool stream).records[position]? = some record → position < bound → state.Awaits record

def OfferedBelow : Prop :=
  ∀ sent ∈ state.offered, state.Belongs sent stream → sent.identity.position < bound

end

/-- Of two records of one stream the first has the smaller position. -/
def Precedes (first second : CloudLinkRecord) : Prop :=
  first.identity.streamId = second.identity.streamId →
    first.identity.streamEpoch = second.identity.streamEpoch →
    first.identity.position < second.identity.position

section

variable (codec) (state)

/-- The spools of the two streams and the records offered from them. -/
structure Base : Prop where
  aligned : ∀ stream, (state.spool stream).Aligned
  carried : ∀ (stream : IntegrationStream) (position : UInt64) (record : CloudLinkRecord),
    (state.spool stream).records[position]? = some record → codec.Carries record
  apart : ∀ sent stream other, state.Belongs sent stream → state.Belongs sent other → stream = other
  session : validateSession state.session = .ok ()
  ordered : state.offered.Pairwise Precedes
  sent : ∀ sent ∈ state.unacknowledged, sent ∈ state.offered

/-- The publisher has turned to a stream and offered it below the bound. -/
structure Pass (stream : IntegrationStream)
    (streams : List IntegrationStream) (bound : UInt64) : Prop where
  distinct : (stream :: streams).Nodup
  later : ∀ other ∈ streams, state.OfferedBelow other 0
  done : ∀ other ∉ stream :: streams, state.AwaitedBelow other (state.spool other).nextPosition
  awaited : state.AwaitedBelow stream bound
  offered : state.OfferedBelow stream bound

/-- The records of a page are consecutive and retained as they were read. -/
def Page (stream : IntegrationStream) (record : CloudLinkRecord)
    (records : List CloudLinkRecord) : Prop :=
  (record :: records).map (fun record => record.identity.position.toNat) =
      List.range' record.identity.position.toNat (records.length + 1) ∧
    ∀ read ∈ record :: records, (state.spool stream).records[read.identity.position]? = some read

/-- How far the publisher is. -/
def PhaseSound : PublisherPhase → Prop
  | .offerAll streams =>
    streams.Nodup ∧ (∀ other ∈ streams, state.OfferedBelow other 0) ∧
      ∀ other ∉ streams, state.AwaitedBelow other (state.spool other).nextPosition
  | .offerFrom stream fromPosition streams =>
    state.Pass stream streams 0 ∧ fromPosition = (state.spool stream).earliestRetained
  | .replay stream cursor nextPosition streams =>
    state.Pass stream streams cursor ∧ nextPosition = (state.spool stream).nextPosition ∧
      (state.spool stream).earliestRetained ≤ cursor ∧ cursor ≤ nextPosition
  | .offerRecord stream record records nextPosition streams =>
    state.Pass stream streams record.identity.position ∧
      nextPosition = (state.spool stream).nextPosition ∧ state.Page stream record records
  | .failed => False

/-- The invariant of an undisturbed session. -/
def Sound : Prop :=
  state.Base codec ∧ state.PhaseSound state.phase

end

theorem Base.setPhase (base : state.Base codec) (phase : PublisherPhase) : (state.setPhase phase).Base codec :=
  ⟨base.aligned, base.carried, base.apart, base.session, base.ordered, base.sent⟩

variable {streams : List IntegrationStream} {cursor position : UInt64}
  {record kept : CloudLinkRecord} {spool : CloudLinkSpoolState} {input : CloudLinkEnqueue}
  {receiptId : String}

theorem Pass.setPhase {bound : UInt64} (pass : state.Pass stream streams bound)
    (phase : PublisherPhase) :
    (state.setPhase phase).Pass stream streams bound :=
  ⟨pass.distinct, pass.later, pass.done, pass.awaited, pass.offered⟩

/-- A stream with all its records offered is done. -/
theorem Pass.finished (pass : state.Pass stream streams (state.spool stream).nextPosition) :
    state.PhaseSound (.offerAll streams) := by
  refine ⟨pass.distinct.of_cons, pass.later, ?_⟩
  intro other absent
  by_cases same : other = stream
  · rw [same]
    exact pass.awaited
  · exact pass.done other (by simp [same, absent])

section

variable (base : state.Base codec)

include base

theorem Sound.proceed_offerAll (sound : state.PhaseSound (.offerAll (stream :: streams))) :
    (if (state.spool stream).records.size = 0 then state.setPhase (.offerAll streams)
      else state.setPhase
        (.offerFrom stream (state.spool stream).earliestRetained streams)).Sound codec := by
  obtain ⟨distinct, later, done⟩ := sound
  have start : ∀ bound, (∀ position, position ∈ (state.spool stream).records → ¬ position < bound) →
      state.Pass stream streams bound := by
    intro _ outside
    refine ⟨distinct, fun other member => later other (List.mem_cons_of_mem _ member), done, ?_, ?_⟩
    · intro position _ retained below
      refine absurd below (outside position ?_)
      rw [Std.ExtTreeMap.mem_iff_isSome_getElem?, retained]
      rfl
    · intro sent member belongs
      have none := later stream List.mem_cons_self sent member belongs
      exact absurd none (by grind)
  split
  · rename_i vacant
    refine ⟨base.setPhase _, ?_⟩
    have finished : state.PhaseSound (.offerAll streams) := by
      refine Pass.finished (start _ ?_)
      intro _ member
      have empty : (state.spool stream).records = ∅ := by
        rw [← Std.ExtTreeMap.isEmpty_iff, Std.ExtTreeMap.isEmpty_eq_size_beq_zero]
        simpa using vacant
      rw [empty] at member
      exact absurd member (by simp)
    exact finished
  · exact ⟨base.setPhase _, (start 0 (by grind)).setPhase _, rfl⟩

theorem Sound.proceed_offerFrom {fromPosition : UInt64}
    (sound : state.PhaseSound (.offerFrom stream fromPosition streams)) :
    (state.setPhase
      (.replay stream fromPosition (state.spool stream).nextPosition streams)).Sound codec := by
  obtain ⟨pass, rfl⟩ := sound
  have window := (base.aligned stream).window
  refine ⟨base.setPhase _, Pass.setPhase ?_ _, rfl, UInt64.le_refl _, window.ordered⟩
  refine ⟨pass.distinct, pass.later, pass.done, ?_, ?_⟩
  · intro _ _ retained below
    have bounds := (base.aligned stream).bounds retained
    exact absurd below (by grind)
  · intro sent member belongs
    exact absurd (pass.offered sent member belongs) (by grind)

/-- The publisher reads a page from a cursor before the end. -/
theorem proceed_page
    (phase : state.phase = .replay stream cursor (state.spool stream).nextPosition streams)
    (more : cursor < (state.spool stream).nextPosition)
    (lower : (state.spool stream).earliestRetained ≤ cursor) :
    ∃ record records, state.proceed codec = state.setPhase
        (.offerRecord stream record records (state.spool stream).nextPosition streams) ∧
      cursor = record.identity.position ∧ state.Page stream record records := by
  have limited : 0 < replayPageSize := by decide
  obtain ⟨records, read, -, positions, retained⟩ :=
    (base.aligned stream).replayFrom limited lower (UInt64.le_of_lt more)
  rw [proceed, phase]
  simp only [if_pos more, read]
  cases records with
  | nil =>
    have none := congrArg List.length positions
    rw [List.map_nil, List.length_nil, List.length_range'] at none
    have below := UInt64.lt_iff_toNat_lt.mp more
    omega
  | cons record records =>
    have count := congrArg List.length positions
    rw [List.length_map, List.length_range', List.length_cons] at count
    rw [← count, List.map_cons, List.range'_succ] at positions
    have first : record.identity.position = cursor :=
      UInt64.toNat_inj.mp (List.cons.inj positions).1
    subst first
    exact ⟨record, records, rfl, rfl, by rw [List.map_cons, List.range'_succ]; exact positions,
      retained⟩

theorem Sound.proceed_replay {nextPosition : UInt64}
    (phase : state.phase = .replay stream cursor nextPosition streams)
    (sound : state.PhaseSound (.replay stream cursor nextPosition streams)) :
    (state.proceed codec).Sound codec := by
  obtain ⟨pass, rfl, lower, _⟩ := sound
  by_cases more : cursor < (state.spool stream).nextPosition
  · obtain ⟨_, _, next, rfl, page⟩ := proceed_page base phase more lower
    rw [next]
    exact ⟨base.setPhase _, pass.setPhase _, rfl, page⟩
  · rw [proceed, phase]
    simp only [if_neg more]
    have ended : cursor = (state.spool stream).nextPosition := by grind
    subst ended
    exact ⟨base.setPhase _, pass.finished⟩

/-- The state after a retained record is offered. -/
def afterOffer (state : IntegrationSession) (stream : IntegrationStream) (record : CloudLinkRecord)
    (phase : PublisherPhase) : IntegrationSession :=
  { state.setSpool stream
      ((state.spool stream).storeRecord record.identity (record.setOffered state.session)) with
    phase
    offered := state.offered ++ [record]
    unacknowledged := state.unacknowledged ++ [record] }

theorem offer_eq {phase : PublisherPhase}
    (retained : (state.spool stream).records[record.identity.position]? = some record) :
    state.offer codec stream record phase = state.afterOffer stream record phase := by
  obtain ⟨routes, encodes⟩ := base.carried _ _ _ retained
  rw [offer, if_pos routes, (base.aligned stream).markOffered base.session retained]
  simp only [if_pos encodes]
  rfl

end

section SetSpool

theorem belongs_setSpool (id : spool.streamId = (state.spool stream).streamId)
    (epoch : spool.streamEpoch = (state.spool stream).streamEpoch) {sent : CloudLinkRecord} :
    (state.setSpool stream spool).Belongs sent other ↔ state.Belongs sent other := by
  by_cases same : other = stream
  · subst same
    rw [Belongs, Belongs, spool_setSpool, id, epoch]
  · rw [Belongs, Belongs, spool_setSpool_of_ne same]

theorem awaits_setSpool {record : CloudLinkRecord} :
    (state.setSpool stream spool).Awaits record ↔ state.Awaits record := by
  rw [Awaits, Awaits, session_setSpool, unacknowledged_setSpool]

variable {bound : UInt64}

theorem AwaitedBelow.setSpool_of_ne (awaited : state.AwaitedBelow other bound)
    (different : other ≠ stream) : (state.setSpool stream spool).AwaitedBelow other bound := by
  intro position record retained below
  rw [spool_setSpool_of_ne different] at retained
  exact awaits_setSpool.mpr (awaited position record retained below)

theorem OfferedBelow.setSpool (offered : state.OfferedBelow other bound)
    (id : spool.streamId = (state.spool stream).streamId)
    (epoch : spool.streamEpoch = (state.spool stream).streamEpoch) :
    (state.setSpool stream spool).OfferedBelow other bound := by
  intro sent member belongs
  rw [offered_setSpool] at member
  exact offered sent member ((belongs_setSpool id epoch).mp belongs)

theorem Base.setSpool (base : state.Base codec) (aligned : spool.Aligned)
    (carried : ∀ (position : UInt64) (record : CloudLinkRecord),
      spool.records[position]? = some record → codec.Carries record)
    (id : spool.streamId = (state.spool stream).streamId)
    (epoch : spool.streamEpoch = (state.spool stream).streamEpoch) :
    (state.setSpool stream spool).Base codec where
  aligned other := by
    by_cases same : other = stream
    · subst same
      rw [spool_setSpool]
      exact aligned
    · rw [spool_setSpool_of_ne same]
      exact base.aligned other
  carried other position record found := by
    by_cases same : other = stream
    · subst same
      rw [spool_setSpool] at found
      exact carried position record found
    · rw [spool_setSpool_of_ne same] at found
      exact base.carried other position record found
  apart sent first second atFirst atSecond :=
    base.apart sent first second ((belongs_setSpool id epoch).mp atFirst)
      ((belongs_setSpool id epoch).mp atSecond)
  session := by
    rw [session_setSpool]
    exact base.session
  ordered := by
    rw [offered_setSpool]
    exact base.ordered
  sent := by
    rw [unacknowledged_setSpool, offered_setSpool]
    exact base.sent

/-- A change of a spool to which the publisher has not turned. -/
theorem Pass.setSpool {streams : List IntegrationStream} {current : IntegrationStream}
    (pass : state.Pass current streams bound) (waiting : stream ∈ streams)
    (id : spool.streamId = (state.spool stream).streamId)
    (epoch : spool.streamEpoch = (state.spool stream).streamEpoch) :
    current ≠ stream ∧ (state.setSpool stream spool).Pass current streams bound := by
  have different : current ≠ stream := by
    rintro rfl
    exact (List.nodup_cons.mp pass.distinct).1 waiting
  refine ⟨different, pass.distinct, fun other member => (pass.later other member).setSpool id epoch,
    ?_, pass.awaited.setSpool_of_ne different, pass.offered.setSpool id epoch⟩
  intro other absent
  have apart : other ≠ stream := by
    rintro rfl
    exact absent (List.mem_cons_of_mem _ waiting)
  rw [spool_setSpool_of_ne apart]
  exact (pass.done other absent).setSpool_of_ne apart

end SetSpool

section AfterOffer

variable {phase : PublisherPhase}

theorem spool_afterOffer : (state.afterOffer stream record phase).spool stream =
    (state.spool stream).storeRecord record.identity (record.setOffered state.session) :=
  spool_setSpool _

theorem spool_afterOffer_of_ne (different : other ≠ stream) :
    (state.afterOffer stream record phase).spool other = state.spool other :=
  spool_setSpool_of_ne different _

theorem nextPosition_afterOffer (other : IntegrationStream) :
    ((state.afterOffer stream record phase).spool other).nextPosition =
      (state.spool other).nextPosition := by
  by_cases same : other = stream
  · subst same
    rw [spool_afterOffer]
    rfl
  · rw [spool_afterOffer_of_ne same]

theorem belongs_afterOffer {sent : CloudLinkRecord} :
    (state.afterOffer stream record phase).Belongs sent other ↔ state.Belongs sent other := by
  change (state.setSpool stream (CloudLinkSpoolState.storeRecord _ _ _)).Belongs sent other ↔ _
  exact belongs_setSpool (by rfl) (by rfl)

theorem Awaits.afterOffer {kept : CloudLinkRecord} (awaits : state.Awaits kept) :
    (state.afterOffer stream record phase).Awaits kept := by
  obtain ⟨session, sent, member, same⟩ := awaits
  have sessionSame : (state.afterOffer stream record phase).session = state.session :=
    session_setSpool _
  exact ⟨sessionSame ▸ session, sent, List.mem_append_left _ member, same⟩

variable {bound : UInt64} {records : List CloudLinkRecord}

theorem AwaitedBelow.afterOffer_of_ne (awaited : state.AwaitedBelow other bound)
    (different : other ≠ stream) :
    (state.afterOffer stream record phase).AwaitedBelow other bound := by
  intro position kept retained below
  rw [spool_afterOffer_of_ne different] at retained
  exact (awaited position kept retained below).afterOffer

section

variable (base : state.Base codec)

include base

section

variable (retained : (state.spool stream).records[record.identity.position]? = some record)

include retained

theorem belongs_of_retained
 :
    state.Belongs record stream := by
  have identity := (base.aligned stream).identified _ _ retained
  exact ⟨congrArg (·.streamId) identity, congrArg (·.streamEpoch) identity⟩

theorem OfferedBelow.afterOffer_of_ne

    (offered : state.OfferedBelow other bound) (different : other ≠ stream) :
    (state.afterOffer stream record phase).OfferedBelow other bound := by
  intro sent member belongs
  rw [belongs_afterOffer] at belongs
  rcases List.mem_append.mp member with earlier | last
  · exact offered sent earlier belongs
  · rw [List.mem_singleton.mp last] at belongs
    exact absurd (base.apart _ _ _ belongs (belongs_of_retained base retained)) different

theorem Base.afterOffer

    (offered : state.OfferedBelow stream record.identity.position) :
    (state.afterOffer stream record phase).Base codec := by
  have carried (position : UInt64) (kept : CloudLinkRecord)
      (found : ((state.spool stream).storeRecord record.identity
        (record.setOffered state.session)).records[position]? = some kept) : codec.Carries kept := by
    rcases getElem?_storeRecord.mp found with ⟨-, rfl⟩ | ⟨-, found⟩
    · exact base.carried stream _ record retained
    · exact base.carried stream position kept found
  have stored := base.setSpool ((base.aligned stream).storeOffered retained _).1 carried rfl rfl
  refine ⟨stored.aligned, stored.carried, stored.apart, stored.session, ?_, ?_⟩
  · refine List.pairwise_append.mpr ⟨base.ordered, List.pairwise_singleton _ _, ?_⟩
    intro sent member last isLast sameId sameEpoch
    rw [List.mem_singleton.mp isLast] at sameId sameEpoch ⊢
    obtain ⟨id, epoch⟩ := belongs_of_retained base retained
    exact offered sent member ⟨sameId.trans id, sameEpoch.trans epoch⟩
  · intro sent member
    rcases List.mem_append.mp member with earlier | last
    · exact List.mem_append_left _ (base.sent sent earlier)
    · exact List.mem_append_right _ last

theorem Pass.afterOffer

    (pass : state.Pass stream streams record.identity.position) :
    (state.afterOffer stream record phase).Pass stream streams (record.identity.position + 1) := by
  have room : record.identity.position < record.identity.position + 1 := by
    have := ((base.aligned stream).bounds retained).2
    grind
  refine ⟨pass.distinct, ?_, ?_, ?_, ?_⟩
  · intro other member
    refine (pass.later other member).afterOffer_of_ne base retained ?_
    rintro rfl
    exact (List.nodup_cons.mp pass.distinct).1 member
  · intro other absent
    rw [nextPosition_afterOffer]
    exact (pass.done other absent).afterOffer_of_ne (fun same => absent (by simp [same]))
  · intro position kept found _
    rw [spool_afterOffer, getElem?_storeRecord] at found
    rcases found with ⟨-, rfl⟩ | ⟨_, found⟩
    · have sessionSame : (state.afterOffer stream record phase).session = state.session :=
        session_setSpool _
      exact ⟨sessionSame ▸ rfl, record, List.mem_append_right _ List.mem_cons_self, rfl, rfl, rfl⟩
    · exact (pass.awaited position kept found (by grind)).afterOffer
  · intro sent member belongs
    rw [belongs_afterOffer] at belongs
    rcases List.mem_append.mp member with earlier | last
    · have before := pass.offered sent earlier belongs
      exact UInt64.lt_trans before room
    · rw [List.mem_singleton.mp last]
      exact room

theorem Base.successor
 :
    checkedAdd record.identity.position 1 = some (record.identity.position + 1) ∧
      (record.identity.position + 1).toNat = record.identity.position.toNat + 1 := by
  have bounds := (base.aligned stream).bounds retained
  refine ⟨checkedAdd_one_eq_some.mpr ⟨by grind, rfl⟩, ?_⟩
  have below := UInt64.lt_iff_toNat_lt.mp bounds.2
  have limit := (state.spool stream).nextPosition.toNat_lt
  rw [UInt64.toNat_add]
  change (record.identity.position.toNat + 1) % 2 ^ 64 = _
  omega

end

end

theorem following_of_page {next : CloudLinkRecord}
    (positions : (record :: next :: records).map (fun record => record.identity.position.toNat) =
      List.range' record.identity.position.toNat ((next :: records).length + 1))
    (successor : (record.identity.position + 1).toNat = record.identity.position.toNat + 1) :
    next.identity.position = record.identity.position + 1 ∧
      (next :: records).map (fun record => record.identity.position.toNat) =
        List.range' (record.identity.position.toNat + 1) (records.length + 1) := by
  rw [List.map_cons, List.length_cons, List.range'_succ] at positions
  have after := (List.cons.inj positions).2
  have first := (List.cons.inj (after.trans (List.range'_succ ..))).1
  exact ⟨UInt64.toNat_inj.mp (first.trans successor.symm), after⟩

theorem Sound.proceed_offerRecord {nextPosition : UInt64} (base : state.Base codec)
    (phase : state.phase = .offerRecord stream record records nextPosition streams)
    (sound : state.PhaseSound (.offerRecord stream record records nextPosition streams)) :
    (state.proceed codec).Sound codec := by
  obtain ⟨pass, rfl, positions, kept⟩ := sound
  have retained := kept record List.mem_cons_self
  have bounds := (base.aligned stream).bounds retained
  obtain ⟨cursor, successor⟩ := base.successor retained
  rw [proceed, phase]
  cases records with
  | nil =>
    simp only [cursor, offer_eq base retained]
    refine ⟨base.afterOffer retained pass.offered, pass.afterOffer base retained, ?_, ?_, ?_⟩
    · rw [nextPosition_afterOffer]
    · rw [spool_afterOffer, ((base.aligned stream).storeOffered retained _).2]
      grind
    · grind
  | cons =>
    simp only [cursor, offer_eq base retained]
    obtain ⟨following, after⟩ := following_of_page positions successor
    refine ⟨base.afterOffer retained pass.offered, following ▸ pass.afterOffer base retained, ?_,
      ?_, ?_⟩
    · rw [nextPosition_afterOffer]
    · rw [following, successor]
      exact after
    · intro read member
      have beyond := List.mem_map_of_mem (f := fun record => record.identity.position.toNat) member
      rw [after, List.mem_range'_1] at beyond
      rw [spool_afterOffer, getElem?_storeRecord]
      refine .inr ⟨?_, kept read (List.mem_cons_of_mem _ member)⟩
      intro same
      rw [same] at beyond
      omega

end AfterOffer

theorem getElem?_of_enqueue (found : (spool.enqueue input).1.records[position]? = some record) :
    spool.records[position]? = some record ∨ record = spool.nextRecord input := by
  have effect := spool.enqueue_effect input
  generalize spool.enqueue input = result at effect found
  have evicted : ∀ {oldest}, (spool.evict oldest).records[position]? = some record →
      spool.records[position]? = some record := by
    intro _ kept
    simp only [evict, Std.ExtTreeMap.getElem?_erase] at kept
    grind
  cases effect with
  | rejected | repeated => exact .inl found
  | exhausted => exact .inl (evicted found)
  | appended =>
    simp only [stored, Std.ExtTreeMap.getElem?_insert] at found
    grind
  | displaced =>
    simp only [displaced, stored, Std.ExtTreeMap.getElem?_insert] at found
    split at found
    · exact .inr (Option.some.inj found).symm
    · exact .inl (evicted found)

/-- An enqueue keeps the identity of the stream. -/
theorem enqueue_same (spool : CloudLinkSpoolState) (input : CloudLinkEnqueue) :
    (spool.enqueue input).1.streamId = spool.streamId ∧
      (spool.enqueue input).1.streamEpoch = spool.streamEpoch := by
  have effect := spool.enqueue_effect input
  generalize spool.enqueue input = result at effect ⊢
  cases effect <;> exact ⟨rfl, rfl⟩

/-- The stream of an identity. -/
theorem spoolForStream_eq_some {streamId : String} {streamEpoch : UInt64}
    (found : state.spoolForStream streamId streamEpoch = some stream) :
    (state.spool stream).streamId = streamId ∧ (state.spool stream).streamEpoch = streamEpoch := by
  rw [spoolForStream] at found
  split at found
  · cases found
    assumption
  · split at found
    · cases found
      assumption
    · cases found

theorem spoolForStream_of_belongs (base : state.Base codec) {sent : CloudLinkRecord}
    (belongs : state.Belongs sent stream) :
    state.spoolForStream sent.identity.streamId sent.identity.streamEpoch = some stream := by
  rw [spoolForStream]
  split
  · rename_i topology
    rw [base.apart sent stream .topology belongs ⟨topology.1.symm, topology.2.symm⟩]
  · rename_i elsewhere
    cases stream with
    | topology => exact absurd ⟨belongs.1.symm, belongs.2.symm⟩ elsewhere
    | observations => exact if_pos ⟨belongs.1.symm, belongs.2.symm⟩

/-- Every retained record awaits its acknowledgement when all streams are offered. -/
theorem phaseSound_reading : state.PhaseSound (.offerAll []) ↔
    ∀ stream, state.AwaitedBelow stream (state.spool stream).nextPosition := by
  simp [PhaseSound]

/-- An acknowledgement of an offered record keeps every other acknowledgement to come. -/
theorem Awaits.erase (awaits : state.Awaits kept) (different : kept.identity ≠ record.identity) :
    ({ state with unacknowledged := state.unacknowledged.erase record }).Awaits kept := by
  obtain ⟨session, sent, member, identity, content⟩ := awaits
  refine ⟨session, sent, ?_, identity, content⟩
  refine (List.mem_erase_of_ne ?_).mpr member
  rintro rfl
  exact different identity.symm

theorem Base.offered_unique (base : state.Base codec) {first second : CloudLinkRecord}
    (atFirst : first ∈ state.offered) (atSecond : second ∈ state.offered)
    (same : first.identity = second.identity) : first = second := by
  obtain ⟨left, leftBound, rfl⟩ := List.getElem_of_mem atFirst
  obtain ⟨right, rightBound, rfl⟩ := List.getElem_of_mem atSecond
  have ordered := List.pairwise_iff_getElem.mp base.ordered
  rcases Nat.lt_trichotomy left right with before | equal | after
  · have below := ordered left right leftBound rightBound before (by rw [same]) (by rw [same])
    rw [same] at below
    exact absurd below (UInt64.lt_irrefl _)
  · subst equal
    rfl
  · have below := ordered right left rightBound leftBound after (by rw [same]) (by rw [same])
    rw [same] at below
    exact absurd below (UInt64.lt_irrefl _)

theorem getElem?_of_acknowledge {ack : CloudLinkDurableAck}
    (retained : (spool.acknowledge ack).1.records[position]? = some kept) :
    spool.records[position]? = some kept := by
  have effect := spool.acknowledge_effect ack
  generalize spool.acknowledge ack = result at effect retained
  cases effect with
  | rejected | duplicate => exact retained
  | applied =>
    exact (getElem?_acknowledged.mp retained).1

theorem acknowledged_apart (base : state.Base codec)
    (awaited : state.AwaitedBelow stream (state.spool stream).nextPosition)
    (receipt : validIdentifier receiptId 128 = true) (member : record ∈ state.unacknowledged)
    (belongs : state.Belongs record stream) (retained : ((state.spool stream).acknowledge
      (state.ackOf record receiptId)).1.records[position]? = some kept) :
    kept.identity ≠ record.identity := by
  intro same
  have before := getElem?_of_acknowledge retained
  have aligned := base.aligned stream
  have identity := aligned.identified position kept before
  obtain ⟨offered, sent, sentMember, sentIdentity, batch, digest⟩ :=
    awaited position kept before (aligned.bounds before).2
  obtain rfl := base.offered_unique (base.sent sent sentMember) (base.sent record member)
    (sentIdentity.trans same)
  have place : sent.identity.position = position := by
    rw [← same, identity]
  have applied : ((state.spool stream).acknowledge (state.ackOf sent receiptId)).1 =
      (state.spool stream).acknowledged (state.ackOf sent receiptId) :=
    aligned.acknowledge_offered base.session receipt (by rw [← place] at before; exact before)
      belongs.1 belongs.2 offered batch.symm digest.symm
  rw [applied, getElem?_acknowledged] at retained
  have above : sent.identity.position < position := retained.2
  rw [place] at above
  exact absurd above (UInt64.lt_irrefl _)

theorem acknowledge_same (spool : CloudLinkSpoolState) (ack : CloudLinkDurableAck) :
    (spool.acknowledge ack).1.streamId = spool.streamId ∧
      (spool.acknowledge ack).1.streamEpoch = spool.streamEpoch := by
  have effect := spool.acknowledge_effect ack
  generalize spool.acknowledge ack = result at effect ⊢
  cases effect <;> exact ⟨rfl, rfl⟩

theorem aligned_acknowledge (aligned : spool.Aligned) (ack : CloudLinkDurableAck) :
    (spool.acknowledge ack).1.Aligned := by
  have effect := spool.acknowledge_effect ack
  generalize spool.acknowledge ack = result at effect ⊢
  cases effect with
  | rejected | duplicate => exact aligned
  | applied _ _ _ found => exact aligned.acknowledged found

theorem Base.erase (base : state.Base codec) (record : CloudLinkRecord) :
    ({ state with unacknowledged := state.unacknowledged.erase record }).Base codec :=
  ⟨base.aligned, base.carried, base.apart, base.session, base.ordered,
    fun sent member => base.sent sent (List.mem_of_mem_erase member)⟩

section

variable (sound : state.Sound codec)

include sound

theorem Sound.enqueue (waiting : stream ∈ state.phase.waiting)
    (carries : codec.Carries ((state.spool stream).nextRecord input)) :
    (state.setSpool stream ((state.spool stream).enqueue input).1).Sound codec := by
  obtain ⟨base, phase⟩ := sound
  obtain ⟨id, epoch⟩ := enqueue_same (state.spool stream) input
  have carried : ∀ (position : UInt64) (record : CloudLinkRecord),
      ((state.spool stream).enqueue input).1.records[position]? = some record →
        codec.Carries record := by
    intro position record found
    rcases getElem?_of_enqueue found with before | rfl
    · exact base.carried stream position record before
    · exact carries
  refine ⟨base.setSpool ((base.aligned stream).enqueue input) carried id epoch, ?_⟩
  rw [phase_setSpool]
  cases current : state.phase with
  | offerAll =>
    rw [current] at phase waiting
    obtain ⟨distinct, later, done⟩ := phase
    refine ⟨distinct, fun other member => (later other member).setSpool id epoch, ?_⟩
    intro other absent
    have apart : other ≠ stream := by
      rintro rfl
      exact absent waiting
    rw [spool_setSpool_of_ne apart]
    exact (done other absent).setSpool_of_ne apart
  | offerFrom | replay | offerRecord =>
    rw [current] at phase waiting
    obtain ⟨pass, rest⟩ := phase
    obtain ⟨apart, kept⟩ := pass.setSpool waiting id epoch
    exact ⟨kept, by simpa only [Page, spool_setSpool_of_ne apart] using rest⟩
  | failed =>
    rw [current] at phase
    exact phase.elim

/-- A mark of a publication keeps the records and what they await. -/
theorem Sound.transportPublished (reading : state.phase = .offerAll [])
    (identity : CloudLinkRecordIdentity) : (state.transportPublished identity).Sound codec := by
  obtain ⟨base, phase⟩ := sound
  rw [reading] at phase
  have awaited := phaseSound_reading.mp phase
  rw [IntegrationSession.transportPublished]
  split
  · exact ⟨base, reading ▸ phase⟩
  · rename_i stream _
    have effect := (state.spool stream).markTransportPublished_effect identity state.session
    generalize (state.spool stream).markTransportPublished identity state.session = result at effect ⊢
    have kept := (base.aligned stream).mark effect fun record => rfl
    have same : result.1.streamId = (state.spool stream).streamId ∧
        result.1.streamEpoch = (state.spool stream).streamEpoch := by
      cases effect <;> exact ⟨rfl, rfl⟩
    have carried : ∀ (position : UInt64) (record : CloudLinkRecord),
        result.1.records[position]? = some record → codec.Carries record := by
      intro position record retained
      cases effect with
      | rejected => exact base.carried stream position record retained
      | marked before =>
        rcases getElem?_storeRecord.mp retained with ⟨-, rfl⟩ | ⟨-, unmarked⟩
        · have carries := base.carried stream _ _ before
          exact carries
        · exact base.carried stream position record unmarked
    refine ⟨base.setSpool kept.1 carried same.1 same.2, ?_⟩
    rw [phase_setSpool, reading, phaseSound_reading]
    intro other
    by_cases marked : other = stream
    · subst marked
      rw [spool_setSpool]
      intro position record retained below
      rw [spool_setSpool] at retained
      rw [awaits_setSpool]
      cases effect with
      | rejected => exact awaited other position record retained below
      | marked before =>
        rw [getElem?_storeRecord] at retained
        rcases retained with ⟨-, rfl⟩ | ⟨-, unmarked⟩
        · obtain ⟨-, sent, member, matching⟩ := awaited other _ _ before
            ((base.aligned other).bounds before).2
          exact ⟨rfl, sent, member, matching⟩
        · exact awaited other position record unmarked below
    · rw [spool_setSpool_of_ne marked]
      exact (awaited other).setSpool_of_ne marked

theorem Sound.durableAck (reading : state.phase = .offerAll [])
    (receipt : validIdentifier receiptId 128 = true) (member : record ∈ state.unacknowledged) :
    (state.durableAck record receiptId).Sound codec := by
  obtain ⟨base, phase⟩ := sound
  rw [reading] at phase
  have awaited := phaseSound_reading.mp phase
  have elsewhere : ∀ other, ¬ state.Belongs record other →
      ({ state with unacknowledged := state.unacknowledged.erase record }).AwaitedBelow other
        (state.spool other).nextPosition := by
    intro other apart position kept retained below
    refine (awaited other position kept retained below).erase ?_
    intro same
    have identity := (base.aligned other).identified position kept retained
    rw [same] at identity
    exact apart ⟨congrArg (·.streamId) identity, congrArg (·.streamEpoch) identity⟩
  rw [IntegrationSession.durableAck]
  split
  · rename_i missing
    refine ⟨base.erase record, ?_⟩
    change PhaseSound _ state.phase
    rw [reading, phaseSound_reading]
    intro other
    refine elsewhere other fun belongs => ?_
    rw [spoolForStream_of_belongs base belongs] at missing
    cases missing
  · rename_i stream found
    obtain ⟨id, epoch⟩ := spoolForStream_eq_some found
    have belongs : state.Belongs record stream := ⟨id.symm, epoch.symm⟩
    obtain ⟨sameId, sameEpoch⟩ :=
      acknowledge_same (state.spool stream) (state.ackOf record receiptId)
    refine ⟨(base.erase record).setSpool (aligned_acknowledge (base.aligned stream) _)
      (fun position kept retained =>
        base.carried stream position kept (getElem?_of_acknowledge retained)) sameId sameEpoch, ?_⟩
    rw [phase_setSpool]
    change PhaseSound _ state.phase
    rw [reading, phaseSound_reading]
    intro other
    by_cases acknowledged : other = stream
    · subst acknowledged
      intro position kept retained _
      rw [spool_setSpool] at retained
      rw [awaits_setSpool]
      have before := getElem?_of_acknowledge retained
      exact (awaited other position kept before ((base.aligned other).bounds before).2).erase
        (acknowledged_apart base (awaited other) receipt member belongs retained)
    · rw [spool_setSpool_of_ne acknowledged]
      refine AwaitedBelow.setSpool_of_ne (elsewhere other ?_) acknowledged
      exact fun atOther => acknowledged (base.apart record other stream atOther belongs)

theorem Sound.proceed : (state.proceed codec).Sound codec := by
  obtain ⟨base, phase⟩ := sound
  cases current : state.phase with
  | offerAll streams =>
    cases streams with
    | nil =>
      have same : state.proceed codec = state := by simp [IntegrationSession.proceed, current]
      rw [same]
      exact ⟨base, phase⟩
    | cons =>
      rw [current] at phase
      rw [IntegrationSession.proceed, current]
      exact proceed_offerAll base phase
  | offerFrom =>
    rw [current] at phase
    rw [IntegrationSession.proceed, current]
    exact proceed_offerFrom base phase
  | replay =>
    exact proceed_replay base current (current ▸ phase)
  | offerRecord =>
    exact proceed_offerRecord base current (current ▸ phase)
  | failed =>
    rw [current] at phase
    exact phase.elim

/-- Every undisturbed step keeps the invariant. -/
theorem Sound.step {input : PublisherInput}
    (undisturbed : state.Undisturbed codec input) : (state.step codec input).Sound codec := by
  cases input with
  | enqueue => exact sound.enqueue undisturbed.1 undisturbed.2
  | proceed => exact sound.proceed
  | durableAck =>
    rw [IntegrationSession.step]
    split
    · rename_i expected
      exact sound.durableAck expected.1 undisturbed expected.2
    · exact sound
  | transportPublished identity =>
    rw [IntegrationSession.step]
    split
    · rename_i reading
      exact sound.transportPublished reading identity
    · exact sound
  | replayRequest => exact undisturbed.elim

end

end IntegrationSession

end AetherIot.CloudLink
