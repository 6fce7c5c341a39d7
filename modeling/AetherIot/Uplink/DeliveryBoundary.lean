import AetherIot.Uplink.Mqtt

/-!
# Removal and acknowledgement

The delivery boundary of the forwarder is the acceptance of a message by the MQTT client: the
publication returns as soon as it is queued, and the message is then removed from the outbox.  An
accepted message is queued, sent without an acknowledgement, or acknowledged, and is lost only with
the event loop that accepted it.
-/

namespace AetherIot.Uplink

open GuardedRun

/-- Every message that left the outbox was acknowledged by the broker. -/
def AppState.ForgetsReceived (state : AppState) : Prop :=
  ∀ id ∈ state.removed, id ∈ state.acknowledged

/-- The publication is on its way in the event loop, or was acknowledged. -/
def EventLoop.Carries (loop : EventLoop) (acknowledged : List Nat) (id : Nat) : Prop :=
  .publication id ∈ loop.queue ∨ id ∈ loop.unacknowledged ∨ id ∈ acknowledged

/-- Every message that left the outbox was accepted by a client; while the event loop of that client
runs, the message is on its way in it or was acknowledged. -/
def AppState.ForgetsAccepted (state : AppState) : Prop :=
  ∀ id ∈ state.removed, ∃ generation, (generation, id) ∈ state.accepted ∧
    ∀ loop, state.eventLoop = some loop → loop.generation = generation →
      loop.Carries state.acknowledged id

/-- The generation of the client that a forwarder has cloned. -/
def Forwarder.generation? : Forwarder → Option Nat
  | .publishing generation _ _ => some generation
  | .acknowledging generation _ _ => some generation
  | _ => none

/-- Generations grow, and an accepted publication is not lost while its event loop runs. -/
structure Tracked (state : AppState) : Prop where
  removed : ∀ id ∈ state.removed, ∃ generation, (generation, id) ∈ state.accepted
  loopBelow : ∀ loop, state.eventLoop = some loop → loop.generation < state.nextGeneration
  clientBelow : ∀ generation, state.client = some generation → generation < state.nextGeneration
  clonedBelow : ∀ generation, state.forwarder.generation? = some generation →
    generation < state.nextGeneration
  acceptedBelow : ∀ generation id, (generation, id) ∈ state.accepted →
    generation < state.nextGeneration
  waiting : ∀ generation id remaining, state.forwarder = .acknowledging generation id remaining →
    (generation, id) ∈ state.accepted
  carried : ∀ generation id, (generation, id) ∈ state.accepted →
    ∀ loop, state.eventLoop = some loop → loop.generation = generation →
      loop.Carries state.acknowledged id

section Loop

variable {loop next : EventLoop} {acknowledged : List Nat} {id : Nat} {request : Request}

theorem enqueue_eq_some (queued : loop.enqueue request = some next) :
    next.generation = loop.generation ∧ next.queue = loop.queue ++ [request] ∧
      next.unacknowledged = loop.unacknowledged := by
  rw [EventLoop.enqueue] at queued
  split at queued
  · cases queued
    exact ⟨rfl, rfl, rfl⟩
  · cases queued

theorem carries_enqueue (queued : loop.enqueue request = some next)
    (carries : loop.Carries acknowledged id) : next.Carries acknowledged id := by
  obtain ⟨-, queue, unacknowledged⟩ := enqueue_eq_some queued
  rw [EventLoop.Carries, queue, unacknowledged]
  exact carries.imp_left (List.mem_append_left _)

theorem send_generation : loop.send.generation = loop.generation := by
  rw [EventLoop.send]
  split <;> rfl

theorem carries_send (carries : loop.Carries acknowledged id) :
    loop.send.Carries acknowledged id := by
  rw [EventLoop.send]
  split
  · exact carries
  · rename_i request _ queued
    rcases carries with waiting | sent | received
    · rw [queued] at waiting
      rcases List.mem_cons.mp waiting with rfl | later
      · exact .inr (.inl (List.mem_append_right _ (List.mem_singleton_self id)))
      · exact .inl later
    · refine .inr (.inl ?_)
      cases request with
      | publication => exact List.mem_append_left _ sent
      | reply | status | subscribe | disconnect => exact sent
    · exact .inr (.inr received)

theorem carries_pubAck {other : Nat} (carries : loop.Carries acknowledged id) :
    EventLoop.Carries { loop with unacknowledged := loop.unacknowledged.erase other }
      (acknowledged ++ [other]) id := by
  rcases carries with waiting | sent | received
  · exact .inl waiting
  · by_cases same : id = other
    · exact .inr (.inr (List.mem_append_right _ (List.mem_singleton.mpr same)))
    · exact .inr (.inl ((List.mem_erase_of_ne same).mpr sent))
  · exact .inr (.inr (List.mem_append_left _ received))

end Loop

section Steps

variable {state : AppState} {loop : EventLoop}

section

variable (tracked : Tracked state)

include tracked

/-- The event loop goes on without losing a publication. -/
theorem Tracked.evolve {next : EventLoop} {acknowledged : List Nat}
    (running : state.eventLoop = some loop) (same : next.generation = loop.generation)
    (kept : ∀ id, loop.Carries state.acknowledged id → next.Carries acknowledged id)
    (task : MqttTask) (connected : Bool) :
    Tracked { state with eventLoop := some next, acknowledged, task, connected } where
  removed := tracked.removed
  loopBelow other found := by
    cases found
    rw [same]
    exact tracked.loopBelow loop running
  clientBelow := tracked.clientBelow
  clonedBelow := tracked.clonedBelow
  acceptedBelow := tracked.acceptedBelow
  waiting := tracked.waiting
  carried generation id accepted other found named := by
    cases found
    rw [same] at named
    exact kept id (tracked.carried generation id accepted loop running named)

theorem Tracked.drop (task : MqttTask) : Tracked (state.drop task) :=
  { tracked with
    loopBelow := fun _ found => by cases found
    carried := fun _ _ _ _ found => by cases found }

theorem Tracked.forward {forwarder : Forwarder}
    (below : ∀ generation, forwarder.generation? = some generation →
      generation < state.nextGeneration)
    (free : ∀ generation id remaining, forwarder ≠ .acknowledging generation id remaining) :
    Tracked { state with forwarder } :=
  { tracked with
    clonedBelow := below
    waiting := fun generation id remaining same => absurd same (free generation id remaining) }

theorem Tracked.idle : Tracked { state with forwarder := .idle } :=
  tracked.forward (fun _ found => by cases found) fun _ _ _ => by simp

theorem Tracked.advance (remaining : List Nat) :
    Tracked { state with forwarder := .advance remaining } := by
  cases remaining with
  | nil => exact tracked.idle
  | cons =>
    exact tracked.forward (fun _ found => by cases found) fun _ _ _ => by simp [Forwarder.advance]

theorem Tracked.poll (running : state.eventLoop = some loop) (event : PollEvent) :
    Tracked (state.poll loop event) := by
  cases event with
  | connAck =>
    rw [AppState.poll]
    split
    · exact tracked
    · refine tracked.evolve running ?_ ?_ _ _
      · rfl
      · exact fun _ carries => carries
  | send =>
    rw [AppState.poll]
    split
    · exact tracked.evolve running send_generation (fun _ carries => carries_send carries) _ _
    · exact tracked
  | pubAck =>
    rw [AppState.poll]
    split
    · refine tracked.evolve running ?_ ?_ _ _
      · rfl
      · exact fun _ carries => carries_pubAck carries
    · exact tracked
  | brokerDisconnect | pollError => exact tracked.drop _
  | reconnectSignal | shutdown => exact { tracked with }

theorem Tracked.queuePublication : Tracked state.queuePublication := by
  rw [AppState.queuePublication]
  split
  · rename_i generation _ _ publishing
    split
    · rename_i loop running
      split
      · rename_i named
        split
        · rename_i queued
          obtain ⟨same, queue, -⟩ := enqueue_eq_some queued
          have below := tracked.clonedBelow generation (by rw [publishing]; rfl)
          have grown := tracked.evolve running same
            (fun _ carries => carries_enqueue queued carries) state.task state.connected
          refine ⟨?_, grown.loopBelow, grown.clientBelow, ?_, ?_, ?_, ?_⟩
          · intro other gone
            obtain ⟨taken, accepted⟩ := grown.removed other gone
            exact ⟨taken, List.mem_append_left _ accepted⟩
          · intro other found
            cases found
            exact below
          · intro other otherId member
            rcases List.mem_append.mp member with earlier | last
            · exact grown.acceptedBelow other otherId earlier
            · cases List.mem_singleton.mp last
              exact below
          · intro other otherId _ waiting
            cases waiting
            exact List.mem_append_right _ (List.mem_singleton_self _)
          · intro other otherId member loop found
            rcases List.mem_append.mp member with earlier | last
            · exact grown.carried other otherId earlier loop found
            · cases List.mem_singleton.mp last
              cases found
              exact fun _ => .inl (queue ▸ List.mem_append_right _ (List.mem_singleton_self _))
        · exact tracked
      · exact tracked.idle
    · exact tracked.idle
  · exact tracked

theorem Tracked.acknowledgeEntry (stored : Bool) : Tracked (state.acknowledgeEntry stored) := by
  rw [AppState.acknowledgeEntry]
  split
  · rename_i generation id remaining waiting
    split
    · refine { tracked.advance remaining with removed := fun other gone => ?_ }
      rcases List.mem_append.mp gone with earlier | last
      · exact tracked.removed other earlier
      · rw [List.mem_singleton.mp last]
        exact ⟨generation, tracked.waiting generation id remaining waiting⟩
    · exact tracked.idle
  · exact tracked

theorem Tracked.handle : Tracked state.handle := by
  rw [AppState.handle]
  split
  · split
    · rename_i queued
      obtain ⟨_, running, queued⟩ := Option.bind_eq_some_iff.mp queued
      exact tracked.evolve running (enqueue_eq_some queued).1
        (fun _ carries => carries_enqueue queued carries) _ _
    · exact tracked
  · exact { tracked with }
  · exact tracked.drop _
  · exact tracked.drop _
  · exact tracked

theorem Tracked.connect : Tracked (state.step .connect) := by
  rw [AppState.step]
  split
  · refine ⟨tracked.removed, ?_, ?_, ?_, ?_, tracked.waiting, ?_⟩
    · intro _ found
      cases found
      exact Nat.lt_succ_self _
    · intro generation found
      cases found
      exact Nat.lt_succ_self _
    · exact fun generation found => Nat.lt_succ_of_lt (tracked.clonedBelow generation found)
    · exact fun generation id member =>
        Nat.lt_succ_of_lt (tracked.acceptedBelow generation id member)
    · intro generation id member _ found named
      have below := tracked.acceptedBelow generation id member
      cases found
      exact absurd named (Nat.ne_of_gt below)
  · exact tracked

theorem Tracked.step (event : UplinkEvent) : Tracked (state.step event) := by
  cases event with
  | enqueue => exact { tracked with }
  | tick =>
    rw [AppState.step]
    split
    · split
      · exact tracked.advance _
      · exact tracked
    · exact tracked
  | cloneClient =>
    rw [AppState.step]
    split
    · rename_i generation _ known
      refine tracked.forward (fun other found => ?_) fun _ _ _ => by simp
      cases found
      exact tracked.clientBelow generation known
    · exact tracked.idle
    · exact tracked
  | queuePublication => exact tracked.queuePublication
  | acknowledgeEntry stored => exact tracked.acknowledgeEntry stored
  | reply =>
    rw [AppState.step]
    split
    · rename_i running
      split
      · split
        · rename_i queued
          exact tracked.evolve running (enqueue_eq_some queued).1
            (fun _ carries => carries_enqueue queued carries) _ _
        · exact tracked
      · exact tracked
    · exact tracked
  | connect => exact tracked.connect
  | handle => exact tracked.handle
  | requestDisconnect => exact { tracked with clientBelow := fun _ found => by cases found }
  | poll event =>
    rw [AppState.step]
    split
    · rename_i running
      exact tracked.poll running event
    · exact tracked

end

end Steps

theorem tracked_initial : Tracked .initial := by
  refine ⟨?_, ?_, ?_, ?_, ?_, ?_, ?_⟩
  · exact fun _ gone => by cases gone
  · exact fun _ found => by cases found
  · exact fun _ found => by cases found
  · exact fun _ found => by cases found
  · exact fun _ _ member => by cases member
  · exact fun _ _ _ waiting => by cases waiting
  · exact fun _ _ member => by cases member

/-- In every run, every message that left the outbox was accepted by a client before, and is lost
only with the event loop of that client. -/
theorem removed_messages_accepted (events : List UplinkEvent) :
    (run AppState.step .initial events).ForgetsAccepted := by
  have preserved : ∀ state event, Tracked state → Tracked (state.step event) :=
    fun _ event holds => holds.step event
  have tracked := invariant_of_forall preserved tracked_initial events
  intro id gone
  obtain ⟨generation, accepted⟩ := tracked.removed id gone
  exact ⟨generation, accepted, tracked.carried generation id accepted⟩

/-- A message is accepted, the task connects and queues its subscriptions, and the message is
queued. -/
def queueOneMessage : List UplinkEvent :=
  [.enqueue, .connect, .poll .connAck] ++ List.replicate 7 .handle ++
    [.tick, .cloneClient, .queuePublication]

/-- The message is removed as soon as it is queued, and the connection is lost: the broker has not
received it, and nothing holds it any more. -/
theorem queued_message_is_forgotten :
    let state := run AppState.step .initial
      (queueOneMessage ++ [.acknowledgeEntry true, .poll .pollError])
    state.outbox = [] ∧ state.eventLoop = none ∧ ¬ state.ForgetsReceived := by
  refine ⟨by decide +kernel, rfl, fun received => ?_⟩
  have removed : 0 ∈ (run AppState.step .initial
      (queueOneMessage ++ [.acknowledgeEntry true, .poll .pollError])).removed := by
    decide +kernel
  exact absurd (received 0 removed) (by decide +kernel)

end AetherIot.Uplink
