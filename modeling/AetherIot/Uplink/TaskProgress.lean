import AetherIot.Uplink.DeliveryBoundary

/-!
# Progress of the MQTT task

The task that alone takes requests from the queue also waits for room in it: for its subscriptions
and its status on a new connection, and for its status before it leaves one.  Meanwhile the other
tasks may fill the queue, and the task then waits forever.  While they leave room for the requests of
a running handler, every handler ends.
-/

namespace AetherIot.Uplink

open GuardedRun AppState

/-- The requests that a running handler still has to queue. -/
def MqttTask.pending : MqttTask → Nat
  | .handling remaining _ => remaining.length
  | _ => 0

/-- Where the task goes after a handler. -/
def Afterwards.task : Afterwards → MqttTask
  | .resume => .polling
  | .leave => .between
  | .stop => .stopped

/-- The queue has room for some more requests. -/
def EventLoop.Room (loop : EventLoop) (count : Nat) : Prop :=
  loop.queue.length + count ≤ requestCapacity

instance (loop : EventLoop) (count : Nat) : Decidable (loop.Room count) :=
  inferInstanceAs (Decidable (_ ≤ _))

/-- A handler starts with room for all its requests, and other tasks leave room for the requests of a
running handler. -/
def LeavesRoom (state : AppState) (event : UplinkEvent) : Prop :=
  ∀ loop ∈ state.eventLoop, (event = .poll .connAck → loop.Room onConnected.length) ∧
    (event = .poll .reconnectSignal → loop.Room 1) ∧
    (event = .poll .shutdown → loop.Room 2) ∧
    (event = .queuePublication ∨ event = .reply → state.task.pending ≠ 0 →
      loop.Room (state.task.pending + 1))

instance (state : AppState) (event : UplinkEvent) : Decidable (LeavesRoom state event) :=
  match found : state.eventLoop with
  | none => isTrue (by simp [LeavesRoom, found])
  | some loop => decidable_of_iff
      ((event = .poll .connAck → loop.Room onConnected.length) ∧
      (event = .poll .reconnectSignal → loop.Room 1) ∧
      (event = .poll .shutdown → loop.Room 2) ∧
      (event = .queuePublication ∨ event = .reply → state.task.pending ≠ 0 →
        loop.Room (state.task.pending + 1))) (by simp [LeavesRoom, found])

/-- A running handler has an event loop with room for all its requests. -/
def AppState.Roomy (state : AppState) : Prop :=
  ∀ remaining afterwards, state.task = .handling remaining afterwards →
    ∃ loop, state.eventLoop = some loop ∧ loop.Room remaining.length

/-- The event of a task other than the MQTT task. -/
def UplinkEvent.IsForeign : UplinkEvent → Prop
  | .connect | .poll _ | .handle => False
  | _ => True

section Steps

variable {state : AppState} {event : UplinkEvent} {loop : EventLoop} {request : Request}
  {remaining : List Request} {afterwards : Afterwards} {after : AppState}

theorem enqueue_of_room {count : Nat} (room : loop.Room (count + 1)) :
    ∃ next, loop.enqueue request = some next ∧ next.Room count := by
  rw [EventLoop.Room] at room
  rw [EventLoop.enqueue, dif_pos (by omega)]
  refine ⟨_, rfl, ?_⟩
  rw [EventLoop.Room, List.length_append, List.length_singleton]
  omega

/-- An event of another task puts at most one request into the queue. -/
theorem step_of_foreign (foreign : event.IsForeign) : (state.step event).task = state.task ∧
    ((state.step event).eventLoop = state.eventLoop ∨
      ∃ loop request next, state.eventLoop = some loop ∧ loop.enqueue request = some next ∧
        (state.step event).eventLoop = some next ∧
        (event = .queuePublication ∨ event = .reply)) := by
  cases event with
  | connect | poll | handle => cases foreign
  | enqueue | requestDisconnect => exact ⟨rfl, .inl rfl⟩
  | tick | cloneClient =>
    rw [step]
    repeat' split
    all_goals exact ⟨rfl, .inl rfl⟩
  | acknowledgeEntry =>
    rw [step, acknowledgeEntry]
    repeat' split
    all_goals exact ⟨rfl, .inl rfl⟩
  | queuePublication =>
    rw [step, queuePublication]
    repeat' split
    all_goals first
      | exact ⟨rfl, .inl rfl⟩
      | exact ⟨rfl, .inr ⟨_, _, _, ‹_›, ‹_›, rfl, .inl rfl⟩⟩
  | reply =>
    rw [step]
    repeat' split
    all_goals first
      | exact ⟨rfl, .inl rfl⟩
      | exact ⟨rfl, .inr ⟨_, _, _, ‹_›, ‹_›, rfl, .inr rfl⟩⟩

/-- Only its own steps change a running handler. -/
theorem step_task_of_handling (handling : state.task = .handling remaining afterwards)
    (other : event ≠ .handle) :
    (state.step event).task = .handling remaining afterwards := by
  cases event with
  | connect | poll =>
    rw [step, handling]
    exact handling
  | handle => exact absurd rfl other
  | _ => exact (step_of_foreign (by trivial)).1.trans handling

/-- One more request of another task leaves room for a running handler. -/
theorem roomy_of_enqueued {next : EventLoop} (queued : loop.enqueue request = some next)
    (leaves : state.task.pending ≠ 0 → loop.Room (state.task.pending + 1))
    (sameTask : after.task = state.task) (nextLoop : after.eventLoop = some next) :
    after.Roomy := by
  intro remaining _ handling
  rw [sameTask] at handling
  refine ⟨next, nextLoop, ?_⟩
  obtain ⟨-, queue, -⟩ := enqueue_eq_some queued
  rw [handling] at leaves
  rw [EventLoop.Room, queue, List.length_append, List.length_singleton]
  cases remaining with
  | nil =>
    have bounded := next.bounded
    rw [queue, List.length_append, List.length_singleton] at bounded
    exact bounded
  | cons _ rest =>
    have room : loop.queue.length + (rest.length + 1 + 1) ≤ requestCapacity :=
      leaves (Nat.succ_ne_zero _)
    rw [List.length_cons]
    omega

/-- A step that changes neither the task nor the event loop. -/
theorem AppState.Roomy.unchanged (roomy : state.Roomy) (sameTask : after.task = state.task)
    (sameLoop : after.eventLoop = state.eventLoop) :
    after.Roomy := by
  intro remaining afterwards handling
  rw [sameLoop]
  exact roomy remaining afterwards (sameTask.symm.trans handling)

theorem roomy_of_not_handling
    (free : ∀ remaining afterwards, state.task ≠ .handling remaining afterwards) : state.Roomy :=
  fun remaining afterwards handling => absurd handling (free remaining afterwards)

theorem handle_cons (roomy : state.Roomy)
    (handling : state.task = .handling (request :: remaining) afterwards) :
    ∃ next, next.Room remaining.length ∧ state.handle =
      { state with eventLoop := some next, task := .handling remaining afterwards } := by
  obtain ⟨loop, running, room⟩ := roomy _ _ handling
  obtain ⟨next, queued, left⟩ := @enqueue_of_room loop request remaining.length room
  refine ⟨next, left, ?_⟩
  rw [handle, handling]
  simp only [running, Option.bind_some, queued]

/-- A handler without further requests ends. -/
theorem handle_nil (handling : state.task = .handling [] afterwards) :
    state.handle.task = afterwards.task := by
  rw [handle, handling]
  cases afterwards <;> rfl

theorem AppState.Roomy.handle (roomy : state.Roomy) : state.handle.Roomy := by
  cases task : state.task with
  | handling remaining afterwards =>
    cases remaining with
    | nil =>
      refine roomy_of_not_handling fun _ _ => ?_
      rw [handle_nil task]
      cases afterwards <;> simp [Afterwards.task]
    | cons =>
      obtain ⟨next, room, same⟩ := handle_cons roomy task
      intro _ _ running
      rw [same] at running ⊢
      cases running
      exact ⟨next, rfl, room⟩
  | between | polling | stopped =>
    have same : state.handle = state := by simp [AppState.handle, task]
    rw [same]
    exact roomy

theorem AppState.Roomy.poll (roomy : state.Roomy) {event : PollEvent}
    (polling : state.task = .polling) (running : state.eventLoop = some loop)
    (leaves : LeavesRoom state (.poll event)) : (state.poll loop event).Roomy := by
  obtain ⟨connected, reconnects, stops, -⟩ := leaves loop running
  have starts : ∀ {requests afterwards} {next : EventLoop} {after : AppState},
      after.task = .handling requests afterwards → after.eventLoop = some next →
      next.Room requests.length → after.Roomy := by
    intro _ _ next after task loop room _ _ handling
    rw [task] at handling
    cases handling
    exact ⟨next, loop, room⟩
  have ends : ∀ {after : AppState}, after.task = .between ∨ after.task = .polling → after.Roomy := by
    intro _ task
    refine roomy_of_not_handling fun _ _ handling => ?_
    rw [handling] at task
    simp at task
  cases event with
  | connAck =>
    rw [AppState.poll]
    split
    · exact roomy
    · exact starts rfl rfl (connected rfl)
  | send | pubAck =>
    rw [AppState.poll]
    split <;> exact ends (.inr polling)
  | brokerDisconnect | pollError => exact ends (.inl rfl)
  | reconnectSignal => exact starts rfl running (reconnects rfl)
  | shutdown => exact starts rfl running (stops rfl)

theorem AppState.Roomy.step (roomy : state.Roomy) (leaves : LeavesRoom state event) :
    (state.step event).Roomy := by
  by_cases foreign : event.IsForeign
  · obtain ⟨sameTask, sameLoop | ⟨loop, _, _, running, queued, nextLoop, which⟩⟩ :=
      @step_of_foreign state event foreign
    · exact roomy.unchanged sameTask sameLoop
    · exact roomy_of_enqueued queued ((leaves loop running).2.2.2 which) sameTask nextLoop
  cases event with
  | connect =>
    rw [step]
    split
    · exact roomy_of_not_handling fun _ _ => by simp
    · exact roomy
  | handle => exact roomy.handle
  | poll =>
    rw [step]
    split
    · rename_i polling running
      exact roomy.poll polling running leaves
    · exact roomy
  | _ => exact absurd trivial foreign

end Steps

variable {state : AppState} {remaining : List Request} {afterwards : Afterwards}

/-- A handler ends after as many of its own steps as it has requests, and one more. -/
theorem handler_ends {events : List UplinkEvent} (roomy : state.Roomy)
    (leaves : Guarded step LeavesRoom state events)
    (handling : state.task = .handling remaining afterwards)
    (turns : remaining.length < events.count .handle) :
    ∃ middle, middle <+: events ∧ (run step state middle).task = afterwards.task := by
  induction events generalizing state remaining with
  | nil => exact absurd turns (Nat.not_lt_zero _)
  | cons event events ih =>
    have roomyNext := AppState.Roomy.step roomy leaves.1
    by_cases own : event = .handle
    · subst own
      rw [List.count_cons_self] at turns
      cases remaining with
      | nil => exact ⟨[.handle], ⟨events, rfl⟩, handle_nil handling⟩
      | cons _ remaining =>
        obtain ⟨_, _, same⟩ := handle_cons roomy handling
        have continues : (state.step .handle).task = .handling remaining afterwards := by
          change state.handle.task = _
          rw [same]
        rw [List.length_cons] at turns
        obtain ⟨middle, ⟨rest, rfl⟩, ended⟩ := ih roomyNext leaves.2 continues (by omega)
        exact ⟨.handle :: middle, ⟨rest, rfl⟩, ended⟩
    · rw [List.count_cons_of_ne own] at turns
      obtain ⟨middle, ⟨rest, rfl⟩, ended⟩ :=
        ih roomyNext leaves.2 (step_task_of_handling handling own) turns
      exact ⟨event :: middle, ⟨rest, rfl⟩, ended⟩

/-- In every run in which the other tasks leave room for the requests of a running handler, and a
handler starts with room for all of them, every handler returns after finitely many of its own
steps: to the poll after a new connection, and out of the connection after a reconnect or shutdown
request. -/
theorem mqtt_task_returns (front back : List UplinkEvent)
    (leaves : Guarded step LeavesRoom .initial (front ++ back))
    (remaining : List Request) (afterwards : Afterwards)
    (handling : (run step .initial front).task = .handling remaining afterwards)
    (turns : remaining.length < back.count .handle) :
    ∃ middle, middle <+: back ∧ (run step .initial (front ++ middle)).task = afterwards.task := by
  obtain ⟨before, later⟩ := guarded_append.mp leaves
  have preserved : ∀ state event, state.Roomy → LeavesRoom state event →
      (state.step event).Roomy := fun _ _ roomy room => AppState.Roomy.step roomy room
  have roomy : (run step .initial front).Roomy :=
    invariant preserved (roomy_of_not_handling fun _ _ => by simp [initial]) before
  obtain ⟨middle, part, ended⟩ := handler_ends roomy later handling turns
  refine ⟨middle, part, ?_⟩
  rw [run_append]
  exact ended

/-- The forwarder publishes and removes messages one after another. -/
def forwardMessages (count : Nat) : List UplinkEvent :=
  (List.replicate count [.cloneClient, .queuePublication, .acknowledgeEntry true]).flatten

/-- Ten messages are published while the task queues its subscriptions. -/
theorem mqtt_task_returns_ten_messages : ∃ middle, middle <+: List.replicate 7 .handle ∧
      (run step .initial (List.replicate 10 .enqueue ++
        [.connect, .poll .connAck, .tick] ++ forwardMessages 10 ++ middle)).task = .polling :=
  mqtt_task_returns _ _ (by decide +kernel) onConnected .resume (by decide +kernel)
    (by decide +kernel)

/-- A handler waits for room in a full queue. -/
def AppState.Stuck (state : AppState) (remaining : List Request) (afterwards : Afterwards) : Prop :=
  state.task = .handling remaining afterwards ∧ remaining ≠ [] ∧
    ∃ loop, state.eventLoop = some loop ∧ loop.queue.length = requestCapacity

theorem enqueue_full {loop : EventLoop} (full : loop.queue.length = requestCapacity)
    (request : Request) : loop.enqueue request = none := by
  rw [EventLoop.enqueue, dif_neg (by omega)]

theorem AppState.Stuck.handle (stuck : state.Stuck remaining afterwards) :
    state.handle = state := by
  obtain ⟨handling, nonempty, _, running, full⟩ := stuck
  cases remaining with
  | nil => exact absurd rfl nonempty
  | cons =>
    rw [handle, handling]
    simp only [running, Option.bind_some, enqueue_full full]

/-- Nothing takes a request from the full queue while the task waits for room in it. -/
theorem AppState.Stuck.step (stuck : state.Stuck remaining afterwards) (event : UplinkEvent) :
    (state.step event).Stuck remaining afterwards := by
  have ⟨handling, nonempty, loop, running, full⟩ := stuck
  by_cases foreign : event.IsForeign
  · obtain ⟨sameTask, sameLoop | ⟨_, request, _, found, queued, -, -⟩⟩ :=
      @step_of_foreign state event foreign
    · exact ⟨sameTask.trans handling, nonempty, loop, sameLoop.trans running, full⟩
    · obtain rfl := Option.some.inj (running.symm.trans found)
      cases (enqueue_full full request).symm.trans queued
  cases event with
  | connect | poll =>
    rw [AppState.step, handling]
    exact ⟨handling, nonempty, loop, running, full⟩
  | handle =>
    change state.handle.Stuck _ _
    rw [stuck.handle]
    exact stuck
  | _ => exact absurd trivial foreign

/-- As many messages as the queue has places are published before the task queues its first
subscription. -/
def floodedConnection : List UplinkEvent :=
  List.replicate 64 .enqueue ++ [.connect, .poll .connAck, .tick] ++ forwardMessages 64

theorem floodedConnection_stuck :
    (run step .initial floodedConnection).Stuck onConnected .resume := by
  have full : (run step .initial floodedConnection).eventLoop.map
      (fun loop => loop.queue.length) = some requestCapacity := by
    decide +kernel
  refine ⟨by decide +kernel, by decide, ?_⟩
  exact Option.map_eq_some_iff.mp full

/-- The task waits forever for room in the queue that it alone empties. -/
theorem full_queue_blocks_task : ¬ ∃ events : List UplinkEvent,
      (run step .initial (floodedConnection ++ events)).task = .polling := by
  rintro ⟨events, polling⟩
  have preserved : ∀ (state : AppState) (event : UplinkEvent), state.Stuck onConnected .resume →
        (state.step event).Stuck onConnected .resume :=
    fun _ event stuck => stuck.step event
  have stuck := invariant_of_forall preserved floodedConnection_stuck events
  rw [run_append, stuck.1] at polling
  cases polling

end AetherIot.Uplink
