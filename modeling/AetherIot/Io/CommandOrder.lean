import AetherIot.Io.CommandListener

/-!
# Order of dispatched commands

The record of a point names the producer of its last frame.  As long as no other producer comes
between, the sequences of one producer that are dispatched to a point increase.
-/

namespace AetherIot.Io

open SerialNumber GuardedRun CommandListener

inductive ListenerInput where
  | registerChannel (channelId : UInt32)
  | unregisterChannel (channelId : UInt32)
  | notification (frame : DeviceCommandFrame) (clock : Option UInt64) (outcome : SendOutcome)
  deriving DecidableEq

variable (listener : CommandListener)

def CommandListener.step : ListenerInput → CommandListener
  | .registerChannel channelId => listener.registerChannel channelId
  | .unregisterChannel channelId => listener.unregisterChannel channelId
  | .notification frame clock outcome => listener.handleNotification frame clock outcome

/-- The checks of the clock pass. -/
def DeviceCommandFrame.unexpired (frame : DeviceCommandFrame) (clock : Option UInt64) : Bool :=
  clock.any fun nowMs => frame.timestampMs < frame.expiresAtMs && nowMs < frame.expiresAtMs

/-- A frame of a commanded point that has not expired. -/
def DeviceCommandFrame.admissible (frame : DeviceCommandFrame) (clock : Option UInt64) : Bool :=
  frame.pointKind.isSome && frame.unexpired clock

/-- The admissible frame for a point, if the input is one. -/
def ListenerInput.frameFor (key : SequenceKey) : ListenerInput → Option DeviceCommandFrame
  | .notification frame clock _ =>
    if frame.admissible clock ∧ frame.key = key then some frame else none
  | .registerChannel _ | .unregisterChannel _ => none

/-- The admissible frames for a point, in the order of their arrival. -/
def framesFor (key : SequenceKey) (inputs : List ListenerInput) : List DeviceCommandFrame :=
  inputs.filterMap (ListenerInput.frameFor key)

/-- The sequences of a producer that were dispatched to a point. -/
def CommandListener.dispatchedFor (key : SequenceKey) (producerId : UInt64) : List UInt64 :=
  (listener.dispatched.filter fun dispatch =>
    dispatch.key = key ∧ dispatch.producerId = producerId).map (·.sequence)

/-- The record accepts the frame. -/
def CommandListener.Accepts (frame : DeviceCommandFrame) : Prop :=
  ∀ lastSequence, listener.lastSequences frame.key = some (frame.producerId, lastSequence) →
    ¬ Stale frame.sequence lastSequence ∧ frame.sequence ≠ lastSequence

/-- What one notification does: nothing, or it records the frame and may dispatch it. -/
inductive CommandListener.Handles (listener : CommandListener) (frame : DeviceCommandFrame)
    (next : CommandListener) : Prop
  | dropped (records : next.lastSequences = listener.lastSequences)
      (dispatched : next.dispatched = listener.dispatched)
      (known : ∃ lastSequence, listener.lastSequences frame.key =
        some (frame.producerId, lastSequence))
  | recorded (accepts : listener.Accepts frame)
      (records : next.lastSequences = Function.update listener.lastSequences frame.key
        (some (frame.producerId, frame.sequence)))
      (dispatched : next.dispatched = listener.dispatched ∨
        ∃ command, next.dispatched = listener.dispatched ++
          [⟨frame.key, frame.producerId, frame.sequence, command⟩])

section Notification

variable {listener : CommandListener} {frame : DeviceCommandFrame} {clock : Option UInt64}

theorem recordSequence_eq_none (refused : listener.recordSequence frame = none) :
    ∃ lastSequence, listener.lastSequences frame.key = some (frame.producerId, lastSequence) := by
  simp only [recordSequence] at refused
  split at refused
  · rename_i lastSequence known
    split at refused
    · rename_i stale
      exact ⟨lastSequence, stale.1 ▸ known⟩
    · split at refused
      · rename_i duplicate
        exact ⟨lastSequence, duplicate.1 ▸ known⟩
      · cases refused
  · cases refused

theorem recordSequence_eq_some {recorded : CommandListener}
    (accepted : listener.recordSequence frame = some recorded) :
    listener.Accepts frame ∧ recorded = { listener with
        lastSequences := Function.update listener.lastSequences frame.key
          (some (frame.producerId, frame.sequence)) } := by
  simp only [recordSequence] at accepted
  split at accepted
  · rename_i known
    split at accepted
    · cases accepted
    · rename_i notStale
      split at accepted
      · cases accepted
      · rename_i notDuplicate
        cases accepted
        refine ⟨fun last same => ?_, rfl⟩
        cases known.symm.trans same
        exact ⟨fun stale => notStale ⟨rfl, stale⟩, fun equal => notDuplicate ⟨rfl, equal⟩⟩
  · rename_i unknown
    cases accepted
    exact ⟨fun last same => (by cases unknown.symm.trans same), rfl⟩

theorem deliver_cases (pointType : PointType) (outcome : SendOutcome) :
    (listener.deliver frame pointType outcome).lastSequences = listener.lastSequences ∧
      ((listener.deliver frame pointType outcome).dispatched = listener.dispatched ∨
        ∃ command, (listener.deliver frame pointType outcome).dispatched =
          listener.dispatched ++ [⟨frame.key, frame.producerId, frame.sequence, command⟩]) := by
  rw [deliver]
  split
  · exact ⟨rfl, .inl rfl⟩
  · simp only [send]
    split
    · cases outcome with
      | sent => exact ⟨rfl, .inr ⟨_, rfl⟩⟩
      | closed | timedOut => exact ⟨rfl, .inl rfl⟩
    · exact ⟨rfl, .inl rfl⟩

theorem handleCommand_of_expired (expired : frame.unexpired clock = false) (pointType : PointType)
    (outcome : SendOutcome) : listener.handleCommand frame pointType clock outcome = listener := by
  cases clock with
  | none => rfl
  | some nowMs =>
    simp only [handleCommand]
    split
    · rfl
    · rename_i fresh
      obtain ⟨issued, current⟩ := not_or.mp fresh
      have passes : frame.unexpired (some nowMs) = true := by
        simp only [DeviceCommandFrame.unexpired, Option.any_some, Bool.and_eq_true,
          decide_eq_true_eq]
        exact ⟨UInt64.not_le.mp issued, UInt64.not_le.mp current⟩
      rw [passes] at expired
      cases expired

theorem handleCommand_handles (unexpired : frame.unexpired clock = true) (pointType : PointType)
    (outcome : SendOutcome) :
    listener.Handles frame (listener.handleCommand frame pointType clock outcome) := by
  cases clock with
  | none => cases unexpired
  | some nowMs =>
    simp only [DeviceCommandFrame.unexpired, Option.any_some, Bool.and_eq_true,
      decide_eq_true_eq] at unexpired
    have fresh : ¬ (frame.expiresAtMs ≤ frame.timestampMs ∨ nowMs ≥ frame.expiresAtMs) :=
      not_or.mpr ⟨UInt64.not_le.mpr unexpired.1, UInt64.not_le.mpr unexpired.2⟩
    simp only [handleCommand, if_neg fresh]
    cases record : listener.recordSequence frame with
    | none => exact .dropped rfl rfl (recordSequence_eq_none record)
    | some =>
      obtain ⟨accepts, rfl⟩ := recordSequence_eq_some record
      obtain ⟨records, dispatched⟩ := deliver_cases pointType outcome
      exact .recorded accepts records dispatched

theorem handleNotification_of_not_admissible (refused : frame.admissible clock = false)
    (outcome : SendOutcome) : listener.handleNotification frame clock outcome = listener := by
  simp only [DeviceCommandFrame.admissible] at refused
  rw [handleNotification]
  cases kind : frame.pointKind with
  | none => rfl
  | some pointKind =>
    rw [kind] at refused
    have expired : frame.unexpired clock = false := refused
    cases pointKind with
    | telemetry | status => rfl
    | command | action => exact handleCommand_of_expired expired _ outcome

theorem handleNotification_handles (listener : CommandListener)
    (admissible : frame.admissible clock = true) (outcome : SendOutcome) :
    listener.Handles frame (listener.handleNotification frame clock outcome) := by
  have unexpired : frame.unexpired clock = true := (Bool.and_eq_true_iff.mp admissible).2
  have kind : frame.pointKind = some .command ∨ frame.pointKind = some .action := by
    have known := (Bool.and_eq_true_iff.mp admissible).1
    simp only [DeviceCommandFrame.pointKind] at known ⊢
    split
    · exact .inl rfl
    · rename_i notCommand
      rw [if_neg notCommand] at known
      split
      · exact .inr rfl
      · rename_i notAction
        rw [if_neg notAction] at known
        cases known
  rw [handleNotification]
  rcases kind with command | action
  · rw [command]
    exact handleCommand_handles unexpired _ outcome
  · rw [action]
    exact handleCommand_handles unexpired _ outcome

end Notification

/-- What an input does at a point: it handles an admissible frame for the point, or it changes
nothing there. -/
inductive CommandListener.StepsAt (listener : CommandListener) (key : SequenceKey)
    (arrived : Option DeviceCommandFrame) (next : CommandListener) : Prop
  | elsewhere (nothing : arrived = none)
      (records : next.lastSequences key = listener.lastSequences key)
      (dispatched : ∀ producerId, next.dispatchedFor key producerId =
        listener.dispatchedFor key producerId)
  | handled (frame : DeviceCommandFrame) (one : arrived = some frame) (here : frame.key = key)
      (handles : listener.Handles frame next)

section Point

variable {listener : CommandListener} {key : SequenceKey} {producerId : UInt64}
  {next : CommandListener} {frame : DeviceCommandFrame} {inputs : List ListenerInput}
  {input : ListenerInput} {producers later : List UInt64}

theorem dispatchedFor_append {dispatch : Dispatch}
    (dispatched : next.dispatched = listener.dispatched ++ [dispatch]) :
    next.dispatchedFor key producerId = listener.dispatchedFor key producerId ++
      if dispatch.key = key ∧ dispatch.producerId = producerId then [dispatch.sequence] else [] := by
  rw [dispatchedFor, dispatched, List.filter_append, List.map_append]
  congr 1
  by_cases here : dispatch.key = key ∧ dispatch.producerId = producerId
  · simp [here]
  · simp [here]

theorem dispatchedFor_congr (dispatched : next.dispatched = listener.dispatched) :
    next.dispatchedFor key producerId = listener.dispatchedFor key producerId := by
  rw [dispatchedFor, dispatched, dispatchedFor]

/-- A frame for another point. -/
theorem CommandListener.Handles.elsewhere (handles : listener.Handles frame next)
    (different : frame.key ≠ key) :
    next.lastSequences key = listener.lastSequences key ∧
      ∀ producerId, next.dispatchedFor key producerId = listener.dispatchedFor key producerId := by
  cases handles with
  | dropped records dispatched =>
    exact ⟨congrFun records key, fun _ => dispatchedFor_congr dispatched⟩
  | recorded _ records dispatched =>
    refine ⟨?_, fun producerId => ?_⟩
    · rw [records, Function.update_of_ne different.symm]
    · rcases dispatched with same | ⟨_, sent⟩
      · exact dispatchedFor_congr same
      · rw [dispatchedFor_append sent, if_neg fun here => different here.1, List.append_nil]

theorem stepsAt_step (listener : CommandListener) (key : SequenceKey) (input : ListenerInput) :
    listener.StepsAt key (input.frameFor key) (listener.step input) := by
  cases input with
  | registerChannel | unregisterChannel => exact .elsewhere rfl rfl fun _ => rfl
  | notification frame clock outcome =>
    rw [step, ListenerInput.frameFor]
    cases admissible : frame.admissible clock with
    | false =>
      rw [handleNotification_of_not_admissible admissible]
      exact .elsewhere (if_neg fun both => (by cases both.1)) rfl fun _ => rfl
    | true =>
      have handles := handleNotification_handles listener admissible outcome
      by_cases here : frame.key = key
      · exact .handled frame (if_pos ⟨rfl, here⟩) here handles
      · obtain ⟨records, dispatched⟩ := handles.elsewhere here
        exact .elsewhere (if_neg fun both => here both.2) records dispatched

theorem framesFor_snoc (inputs : List ListenerInput) (input : ListenerInput) :
    framesFor key (inputs ++ [input]) = framesFor key inputs ++ (input.frameFor key).toList := by
  rw [framesFor, List.filterMap_append]
  congr 1

theorem CommandListener.Handles.producer (handles : listener.Handles frame next) :
    (next.lastSequences frame.key).map Prod.fst = some frame.producerId := by
  cases handles with
  | dropped records _ known =>
    obtain ⟨_, known⟩ := known
    rw [records, known]
    rfl
  | recorded _ records =>
    rw [records, Function.update_self]
    rfl

/-- The producers of the admissible frames for a point. -/
def producersFor (key : SequenceKey) (inputs : List ListenerInput) : List UInt64 :=
  (framesFor key inputs).map (·.producerId)

theorem producersFor_snoc_none (nothing : input.frameFor key = none) :
    producersFor key (inputs ++ [input]) = producersFor key inputs := by
  rw [producersFor, framesFor_snoc, nothing, Option.toList_none, List.append_nil, producersFor]

theorem producersFor_snoc_some (one : input.frameFor key = some frame) :
    producersFor key (inputs ++ [input]) = producersFor key inputs ++ [frame.producerId] := by
  rw [producersFor, framesFor_snoc, one, Option.toList_some, List.map_append, producersFor]
  rfl

/-- The record of a point names the producer of its last admissible frame. -/
theorem producer_of_record (key : SequenceKey) (inputs : List ListenerInput) :
    ((run step .new inputs).lastSequences key).map Prod.fst =
      (producersFor key inputs).getLast? := by
  induction inputs using List.reverseRecOn with
  | nil => rfl
  | append_singleton inputs input ih =>
    rw [run_snoc]
    cases stepsAt_step (run step .new inputs) key input with
    | elsewhere nothing records =>
      rw [records, ih, producersFor_snoc_none nothing]
    | handled _ one here handles =>
      rw [producersFor_snoc_some one, List.getLast?_concat, ← here]
      exact handles.producer

/-- No other producer comes between two frames of the producer. -/
def Steady (producerId : UInt64) (producers : List UInt64) : Prop :=
  ∀ other, [producerId, other, producerId].Sublist producers → other = producerId

structure CommandListener.OrderedFor (listener : CommandListener) (key : SequenceKey)
    (producerId base : UInt64) (producers : List UInt64) : Prop where
  increasing : (listener.dispatchedFor key producerId).Pairwise fun earlier later =>
    offset base earlier < offset base later
  seen : listener.dispatchedFor key producerId ≠ [] → producerId ∈ producers
  current : ∀ lastSequence, listener.lastSequences key = some (producerId, lastSequence) →
    offset base lastSequence < 2 ^ 63 ∧ ∀ sequence ∈ listener.dispatchedFor key producerId,
        offset base sequence ≤ offset base lastSequence

/-- A producer that returns has not dispatched before. -/
theorem not_mem_of_steady {other : UInt64} (steady : Steady producerId (producers ++ [producerId]))
    (last : producers.getLast? = some other) (different : other ≠ producerId) :
    producerId ∉ producers := by
  intro member
  obtain ⟨earlier, rfl⟩ := List.getLast?_eq_some_iff.mp last
  rcases List.mem_append.mp member with before | same
  · refine different (steady other ?_)
    have first : [producerId].Sublist earlier := List.singleton_sublist.mpr before
    exact (first.append (List.Sublist.refl [other])).append (List.Sublist.refl [producerId])
  · exact different (List.mem_singleton.mp same).symm

theorem Steady.of_append (steady : Steady producerId (producers ++ later)) :
    Steady producerId producers := by
  intro other between
  exact steady other (between.trans (List.sublist_append_left _ _))

/-- A producer that is replaced once and for all. -/
theorem steady_replicate_append (count : Nat) (gone : producerId ∉ later) :
    Steady producerId (List.replicate count producerId ++ later) := by
  intro _ between
  obtain ⟨_, back, split, kept, replaced⟩ := List.sublist_append_iff.mp between
  cases back using List.reverseRecOn with
  | nil =>
    rw [List.append_nil] at split
    refine List.eq_of_mem_replicate (kept.subset ?_)
    rw [← split]
    simp
  | append_singleton _ last =>
    have same : last = producerId := by
      have lasts := congrArg List.getLast? split
      rw [← List.append_assoc, List.getLast?_concat] at lasts
      exact (Option.some.inj lasts).symm
    subst same
    exact absurd (replaced.subset (List.mem_append_right _ (List.mem_singleton_self _))) gone

namespace CommandListener.OrderedFor

variable {base : UInt64}

section

variable (ordered : listener.OrderedFor key producerId base producers)

include ordered

theorem lt_of_accepts (here : frame.key = key) (by_ : frame.producerId = producerId)
    (accepts : listener.Accepts frame) (near : offset base frame.sequence < 2 ^ 63)
    (named : (listener.lastSequences key).map Prod.fst = producers.getLast?)
    (steady : Steady producerId (producers ++ [producerId])) :
    ∀ sequence ∈ listener.dispatchedFor key producerId,
      offset base sequence < offset base frame.sequence := by
  subst here by_
  intro sequence member
  have seen := ordered.seen (List.ne_nil_of_mem member)
  cases record : listener.lastSequences frame.key with
  | none =>
    rw [record] at named
    rw [List.getLast?_eq_none_iff.mp named.symm] at seen
    cases seen
  | some entry =>
    obtain ⟨lastProducer, lastSequence⟩ := entry
    rw [record] at named
    by_cases same : lastProducer = frame.producerId
    · subst same
      obtain ⟨lastNear, above⟩ := ordered.current lastSequence record
      obtain ⟨notStale, different⟩ := accepts lastSequence record
      exact (above sequence member).trans_lt
        (offset_lt_of_not_stale near lastNear notStale different)
    · exact absurd seen (not_mem_of_steady steady named.symm same)

/-- Nothing happens to the producer at the point. -/
theorem unchanged {laterProducers : List UInt64}
    (dispatched : next.dispatchedFor key producerId = listener.dispatchedFor key producerId)
    (records : ∀ lastSequence, next.lastSequences key = some (producerId, lastSequence) →
      listener.lastSequences key = some (producerId, lastSequence))
    (later : producers ⊆ laterProducers) :
    next.OrderedFor key producerId base laterProducers := by
  refine ⟨?_, fun some_ => ?_, fun lastSequence record => ?_⟩
  · rw [dispatched]
    exact ordered.increasing
  · rw [dispatched] at some_
    exact later (ordered.seen some_)
  · rw [dispatched]
    exact ordered.current lastSequence (records lastSequence record)

theorem advance {sequence : UInt64} (near : offset base sequence < 2 ^ 63)
    (below : ∀ earlier ∈ listener.dispatchedFor key producerId,
      offset base earlier < offset base sequence)
    (record : next.lastSequences key = some (producerId, sequence))
    (dispatched : next.dispatchedFor key producerId = listener.dispatchedFor key producerId ∨
      next.dispatchedFor key producerId = listener.dispatchedFor key producerId ++ [sequence]) :
    next.OrderedFor key producerId base (producers ++ [producerId]) := by
  refine ⟨?_, fun _ => List.mem_append_right _ (List.mem_singleton_self _), ?_⟩
  · rcases dispatched with same | sent
    · rw [same]
      exact ordered.increasing
    · rw [sent]
      refine List.pairwise_append.mpr ⟨ordered.increasing, List.pairwise_singleton _ _, ?_⟩
      intro earlier member _ added
      rw [List.mem_singleton.mp added]
      exact below earlier member
  · intro _ known
    cases record.symm.trans known
    refine ⟨near, fun earlier member => ?_⟩
    rcases dispatched with same | sent
    · rw [same] at member
      exact (below earlier member).le
    · rw [sent] at member
      rcases List.mem_append.mp member with before | added
      · exact (below earlier before).le
      · rw [List.mem_singleton.mp added]

/-- One frame for the point. -/
theorem handle (here : frame.key = key) (handles : listener.Handles frame next)
    (near : frame.producerId = producerId → offset base frame.sequence < 2 ^ 63)
    (named : (listener.lastSequences key).map Prod.fst = producers.getLast?)
    (steady : Steady producerId (producers ++ [frame.producerId])) :
    next.OrderedFor key producerId base (producers ++ [frame.producerId]) := by
  subst here
  cases handles with
  | dropped records dispatched =>
    exact ordered.unchanged (dispatchedFor_congr dispatched)
      (fun _ record => records ▸ record) (List.subset_append_left _ _)
  | recorded accepts records dispatched =>
    have record : next.lastSequences frame.key = some (frame.producerId, frame.sequence) := by
      rw [records, Function.update_self]
    by_cases by_ : frame.producerId = producerId
    · subst by_
      refine ordered.advance (near rfl)
        (ordered.lt_of_accepts rfl rfl accepts (near rfl) named steady) record ?_
      rcases dispatched with same | ⟨_, sent⟩
      · exact .inl (dispatchedFor_congr same)
      · rw [dispatchedFor_append sent, if_pos ⟨rfl, rfl⟩]
        exact .inr rfl
    · refine ordered.unchanged ?_ (fun _ known => ?_) (List.subset_append_left _ _)
      · rcases dispatched with same | ⟨_, sent⟩
        · exact dispatchedFor_congr same
        · rw [dispatchedFor_append sent, if_neg fun both => by_ both.2, List.append_nil]
      · cases record.symm.trans known
        exact absurd rfl by_

end

end CommandListener.OrderedFor

end Point

/-- A frame for point 5 of channel 1 that expires late. -/
private def sampleFrame (producerId sequence : UInt64) : ListenerInput :=
  .notification ⟨1, 5, 2, 0x3FF0000000000000, 100, 1000, producerId, sequence⟩ (some 200) .sent

/-- A retransmission, a late frame and a restart of the producer. -/
private def sampleInputs : List ListenerInput :=
  [.registerChannel 1, sampleFrame 7 1, sampleFrame 7 1, sampleFrame 7 3, sampleFrame 7 2,
    sampleFrame 9 1]

end AetherIot.Io
