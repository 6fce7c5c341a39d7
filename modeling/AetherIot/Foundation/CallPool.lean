import AetherIot.Foundation.GuardedRun
import AetherIot.Foundation.Interaction

/-!
# Concurrent calls over a shared state

A pool runs any number of labelled calls over one shared state, interleaved at their requests, with
outside changes of the shared state and crashes that lose every call.  *Tickets* are handed out by
some exchanges and spent by others: when the shared state never hands out a ticket twice and every
call spends only the ticket it was handed last, no ticket is spent twice in any run.
-/

namespace CallPool

open GuardedRun

variable {ρ : Type} {Reply : ρ → Type} {ε α σ κ ω β γ : Type}

/-- How the environment answers requests and changes on its own. -/
structure Service {ρ : Type} (Reply : ρ → Type) (σ ω β γ : Type) where
  /-- The reply to a request; `ω` is what the environment decides at that moment. -/
  serve : σ → ω → (request : ρ) → σ × Reply request
  /-- A change from outside. -/
  interfere : σ → β → σ
  /-- The state after a crash and a restart. -/
  restart : σ → γ → σ

structure LogEntry {ρ : Type} (Reply : ρ → Type) (κ : Type) where
  call : Nat
  label : κ
  exchange : Exchange Reply

/-- The calls, with what is left of them unless they were lost, and all exchanges in order. -/
structure Pool {ρ : Type} (Reply : ρ → Type) (ε α σ κ : Type) where
  shared : σ
  calls : List (κ × Option (Interaction Reply ε α))
  log : List (LogEntry Reply κ)

inductive PoolInput (κ ω β γ : Type) where
  | start (label : κ)
  | serve (call : Nat) (world : ω)
  | interfere (change : β)
  | crash (recovery : γ)

/-- The exchanges of one call, in order. -/
def history (log : List (LogEntry Reply κ)) (call : Nat) : List (Exchange Reply) :=
  (log.filter fun entry => entry.call = call).map LogEntry.exchange

namespace Pool

def initial (shared : σ) : Pool Reply ε α σ κ := ⟨shared, [], []⟩

/-- Serve the pending request of a call. -/
def serve (service : Service Reply σ ω β γ) (pool : Pool Reply ε α σ κ) (call : Nat)
    (world : ω) : Pool Reply ε α σ κ :=
  match pool.calls[call]? with
  | some (label, some (.ask request next)) =>
    let (shared, reply) := service.serve pool.shared world request
    { shared
      calls := pool.calls.set call (label, some (next reply))
      log := pool.log ++ [⟨call, label, ⟨request, reply⟩⟩] }
  | _ => pool

def step (service : Service Reply σ ω β γ) (program : κ → Interaction Reply ε α)
    (pool : Pool Reply ε α σ κ) : PoolInput κ ω β γ → Pool Reply ε α σ κ
  | .start label => { pool with calls := pool.calls ++ [(label, some (program label))] }
  | .serve call world => pool.serve service call world
  | .interfere change => { pool with shared := service.interfere pool.shared change }
  | .crash recovery =>
    { pool with
      shared := service.restart pool.shared recovery
      calls := pool.calls.map fun (label, _) => (label, none) }

end Pool

theorem history_concat (log : List (LogEntry Reply κ)) (entry : LogEntry Reply κ) (call : Nat) :
    history (log ++ [entry]) call =
      if entry.call = call then history log call ++ [entry.exchange] else history log call := by
  by_cases same : entry.call = call
  · simp [history, same]
  · simp [history, same]

variable {log : List (LogEntry Reply κ)} {call : Nat}

theorem history_eq_nil (other : ∀ entry ∈ log, entry.call ≠ call) : history log call = [] := by
  rw [history, List.filter_eq_nil_iff.mpr (by simpa using other), List.map_nil]

theorem mem_log_of_history {exchange : Exchange Reply} (member : exchange ∈ history log call) :
    ∃ entry ∈ log, entry.call = call ∧ entry.exchange = exchange := by
  obtain ⟨entry, listed, rfl⟩ := List.mem_map.mp member
  obtain ⟨present, same⟩ := List.mem_filter.mp listed
  exact ⟨entry, present, of_decide_eq_true same, rfl⟩

namespace Pool

variable {service : Service Reply σ ω β γ} {program : κ → Interaction Reply ε α}
  {permits : κ → List (Exchange Reply) → ρ → Prop} {pool : Pool Reply ε α σ κ}

theorem serve_cases (service : Service Reply σ ω β γ) (pool : Pool Reply ε α σ κ) (call : Nat)
    (world : ω) :
    pool.serve service call world = pool ∨ ∃ label request next,
      pool.calls[call]? = some (label, some (.ask request next)) ∧
      pool.serve service call world =
        { shared := (service.serve pool.shared world request).1
          calls := pool.calls.set call
            (label, some (next (service.serve pool.shared world request).2))
          log := pool.log ++ [⟨call, label, ⟨request,
            (service.serve pool.shared world request).2⟩⟩] } := by
  rw [serve]
  split
  · rename_i label request next found
    exact .inr ⟨label, request, next, found, rfl⟩
  · exact .inl rfl

/-- The calls keep to what is permitted after their own exchanges. -/
structure Follows (permits : κ → List (Exchange Reply) → ρ → Prop) (pool : Pool Reply ε α σ κ) :
    Prop where
  known : ∀ entry ∈ pool.log, entry.call < pool.calls.length
  running : ∀ (call : Nat) (label : κ) (rest : Interaction Reply ε α),
    pool.calls[call]? = some (label, some rest) →
      rest.Always (permits label) (history pool.log call)

theorem follows_initial (shared : σ) : (initial shared : Pool Reply ε α σ κ).Follows permits := by
  refine ⟨fun entry member => ?_, fun call label rest found => ?_⟩
  · simp [initial] at member
  · simp [initial] at found

theorem Follows.start (follows : pool.Follows permits) (label : κ)
    (always : (program label).Always (permits label) []) :
    (pool.step service program (.start label)).Follows permits := by
  refine ⟨fun entry member => ?_, fun call other rest found => ?_⟩
  · have known := follows.known entry member
    simp only [step, List.length_append, List.length_singleton]
    omega
  · change (pool.calls ++ [(label, some (program label))])[call]? = _ at found
    change rest.Always (permits other) (history pool.log call)
    rcases Nat.lt_trichotomy call pool.calls.length with before | last | beyond
    · rw [List.getElem?_append_left before] at found
      exact follows.running call other rest found
    · rw [last, List.getElem?_concat_length] at found
      cases found
      rw [history_eq_nil fun entry member =>
        last ▸ Nat.ne_of_lt (follows.known entry member)]
      exact always
    · rw [List.getElem?_eq_none (by simpa using beyond)] at found
      cases found

theorem Follows.serve (follows : pool.Follows permits) (call : Nat) (world : ω) :
    (pool.serve service call world).Follows permits := by
  rcases pool.serve_cases service call world with same | ⟨label, _, _, found, served⟩
  · rw [same]
    exact follows
  · rw [served]
    have within : call < pool.calls.length := (List.getElem?_eq_some_iff.mp found).1
    refine ⟨fun entry member => ?_, fun other label' rest present => ?_⟩
    · rw [List.length_set]
      rcases List.mem_append.mp member with old | new
      · exact follows.known entry old
      · rw [List.mem_singleton.mp new]
        exact within
    · rw [List.getElem?_set] at present
      rw [history_concat]
      split at present
      · rename_i same
        subst same
        cases present
        rw [if_pos rfl]
        exact (follows.running call label _ found).2 _
      · rename_i different
        rw [if_neg different]
        exact follows.running other label' rest present

/-- In every step the calls keep to what is permitted. -/
theorem Follows.step (follows : pool.Follows permits)
    (always : ∀ label, (program label).Always (permits label) []) (input : PoolInput κ ω β γ) :
    (pool.step service program input).Follows permits := by
  cases input with
  | start label => exact follows.start label (always label)
  | serve call world => exact follows.serve call world
  | interfere => exact ⟨follows.known, follows.running⟩
  | crash =>
    refine ⟨fun entry member => ?_, fun call label rest found => ?_⟩
    · simpa [Pool.step] using follows.known entry member
    · simp [Pool.step] at found

end Pool

/-- Which exchanges hand out a ticket, and how the shared state remembers that it did.  A ticket that
was handed out is never handed out again. -/
structure TicketOffice {ρ : Type} {Reply : ρ → Type} {σ ω β γ : Type}
    (service : Service Reply σ ω β γ) (K : Type) where
  ticket : Exchange Reply → Option K
  held : σ → Exchange Reply → Prop
  granted : ∀ (shared : σ) (world : ω) (request : ρ) (key : K),
    ticket ⟨request, (service.serve shared world request).2⟩ = some key →
      held (service.serve shared world request).1 ⟨request, (service.serve shared world request).2⟩
  fresh : ∀ (shared : σ) (world : ω) (request : ρ) (key : K),
    ticket ⟨request, (service.serve shared world request).2⟩ = some key →
      ∀ exchange, ticket exchange = some key → ¬ held shared exchange
  served : ∀ (shared : σ) (world : ω) (request : ρ) (exchange : Exchange Reply),
    held shared exchange → held (service.serve shared world request).1 exchange
  interfered : ∀ (shared : σ) (change : β) (exchange : Exchange Reply),
    held shared exchange → held (service.interfere shared change) exchange
  restarted : ∀ (shared : σ) (recovery : γ) (exchange : Exchange Reply),
    held shared exchange → held (service.restart shared recovery) exchange

/-- Exchanges that spend a ticket: they are permitted only right after the ticket was handed to the
same call. -/
structure Redemption {ρ : Type} {Reply : ρ → Type} {κ K : Type}
    (ticket : Exchange Reply → Option K) (permits : κ → List (Exchange Reply) → ρ → Prop) where
  spend : κ → Exchange Reply → Option K
  redeems : ∀ (label : κ) (earlier : List (Exchange Reply)) (exchange : Exchange Reply) (key : K),
    permits label earlier exchange.1 → spend label exchange = some key →
      ∃ front last, earlier = front ++ [last] ∧ ticket last = some key
  exclusive : ∀ (label : κ) (exchange : Exchange Reply) (key : K),
    ticket exchange = some key → spend label exchange = none

namespace Redemption

variable {K : Type} {ticket : Exchange Reply → Option K}
  {permits : κ → List (Exchange Reply) → ρ → Prop}

/-- The tickets spent, in order. -/
def spent (redemption : Redemption ticket permits) (log : List (LogEntry Reply κ)) : List K :=
  log.filterMap fun entry => redemption.spend entry.label entry.exchange

theorem spent_concat (redemption : Redemption ticket permits) (log : List (LogEntry Reply κ))
    (entry : LogEntry Reply κ) :
    redemption.spent (log ++ [entry]) =
      redemption.spent log ++ (redemption.spend entry.label entry.exchange).toList := by
  rw [spent, List.filterMap_append]
  cases spends : redemption.spend entry.label entry.exchange with
  | none | some => simp [spent, spends]

theorem mem_spent_concat {redemption : Redemption ticket permits}
    {log : List (LogEntry Reply κ)} {entry : LogEntry Reply κ} {key : K} :
    key ∈ redemption.spent (log ++ [entry]) ↔
      key ∈ redemption.spent log ∨ redemption.spend entry.label entry.exchange = some key := by
  rw [spent_concat, List.mem_append, Option.mem_toList]

end Redemption

namespace TicketOffice

variable {service : Service Reply σ ω β γ} {K : Type}
  {permits : κ → List (Exchange Reply) → ρ → Prop}

/-- The invariant of a pool: tickets are remembered, belong to one call each, and are spent at most
once. -/
structure Redeemed (office : TicketOffice service K)
    (redemption : Redemption office.ticket permits) (pool : Pool Reply ε α σ κ) : Prop where
  follows : pool.Follows permits
  held : ∀ entry ∈ pool.log, ∀ key, office.ticket entry.exchange = some key →
    office.held pool.shared entry.exchange
  owner : ∀ entry ∈ pool.log, ∀ other ∈ pool.log, ∀ key,
    office.ticket entry.exchange = some key → office.ticket other.exchange = some key →
      entry.call = other.call
  once : (redemption.spent pool.log).Nodup
  backed : ∀ key ∈ redemption.spent pool.log,
    ∃ entry ∈ pool.log, office.ticket entry.exchange = some key
  unspent : ∀ (call : Nat) (front : List (Exchange Reply)) (last : Exchange Reply) (key : K),
    history pool.log call = front ++ [last] → office.ticket last = some key →
      key ∉ redemption.spent pool.log

namespace Redeemed

variable {office : TicketOffice service K} {redemption : Redemption office.ticket permits}
  {pool : Pool Reply ε α σ κ} {program : κ → Interaction Reply ε α}

theorem initial (shared : σ) :
    office.Redeemed redemption (Pool.initial shared : Pool Reply ε α σ κ) := by
  refine ⟨Pool.follows_initial shared, fun entry member => ?_, fun entry member => ?_, .nil,
    fun key member => ?_, fun call front last key ends => ?_⟩
  · simp [Pool.initial] at member
  · simp [Pool.initial] at member
  · simp [Pool.initial, Redemption.spent] at member
  · simp [Pool.initial, history] at ends

variable {world : ω} {request : ρ} {key : K} {label : κ}

section

variable (redeemed : office.Redeemed redemption pool)

include redeemed

/-- A ticket that is being handed out is not in the log. -/
theorem not_in_log
    (granted : office.ticket ⟨request, (service.serve pool.shared world request).2⟩ = some key)
    {entry : LogEntry Reply κ} (member : entry ∈ pool.log) :
    office.ticket entry.exchange ≠ some key := by
  intro same
  exact office.fresh pool.shared world request key granted entry.exchange same
    (redeemed.held entry member key same)

section

variable {next : Reply request → Interaction Reply ε α}
  (found : pool.calls[call]? = some (label, some (.ask request next)))

include found

theorem spending {reply : Reply request}
    (spends : redemption.spend label ⟨request, reply⟩ = some key) :
    key ∉ redemption.spent pool.log ∧
      ∃ entry ∈ pool.log, entry.call = call ∧ office.ticket entry.exchange = some key := by
  have permitted := (redeemed.follows.running call label _ found).1
  obtain ⟨front, last, ends, holds⟩ := redemption.redeems label _ ⟨request, reply⟩ key permitted spends
  refine ⟨redeemed.unspent call front last key ends holds, ?_⟩
  have member : last ∈ history pool.log call := by simp [ends]
  obtain ⟨entry, listed, same, rfl⟩ := mem_log_of_history member
  exact ⟨entry, listed, same, holds⟩

/-- The spent tickets stay distinct when a pending request is served. -/
theorem once_concat (reply : Reply request) :
    (redemption.spent (pool.log ++ [⟨call, label, ⟨request, reply⟩⟩])).Nodup := by
  rw [Redemption.spent_concat]
  cases spends : redemption.spend label ⟨request, reply⟩ with
  | none => simpa [spends] using redeemed.once
  | some =>
    have unspent := (redeemed.spending found spends).1
    simpa [spends] using redeemed.once.concat unspent

/-- A ticket just handed out is unspent, also when a pending request is served. -/
theorem unspent_concat {other : Nat} {front : List (Exchange Reply)} {last : Exchange Reply}
    (ends : history (pool.log ++ [⟨call, label, ⟨request,
      (service.serve pool.shared world request).2⟩⟩]) other = front ++ [last])
    (granted : office.ticket last = some key) :
    key ∉ redemption.spent (pool.log ++ [⟨call, label, ⟨request,
      (service.serve pool.shared world request).2⟩⟩]) := by
  rw [history_concat] at ends
  rw [Redemption.mem_spent_concat, not_or]
  by_cases same : call = other
  · rw [if_pos same] at ends
    obtain ⟨-, equal⟩ := List.append_inj' ends rfl
    cases equal
    refine ⟨fun member => ?_, ?_⟩
    · obtain ⟨entry, listed, earlier⟩ := redeemed.backed key member
      exact redeemed.not_in_log granted listed earlier
    · rw [redemption.exclusive label _ key granted]
      simp
  · rw [if_neg same] at ends
    refine ⟨redeemed.unspent other front last key ends granted, fun spends => same ?_⟩
    obtain ⟨-, entry, listed, owns, earlier⟩ := redeemed.spending found spends
    have member : last ∈ history pool.log other := by simp [ends]
    obtain ⟨mine, present, belongs, rfl⟩ := mem_log_of_history member
    rw [← owns, ← belongs]
    exact redeemed.owner entry listed mine present key earlier granted

end

theorem serve (call : Nat) (world : ω) :
    office.Redeemed redemption (pool.serve service call world) := by
  have follows : (pool.serve service call world).Follows permits :=
    redeemed.follows.serve call world
  rcases pool.serve_cases service call world with same | ⟨_, _, _, found, served⟩
  · rw [same]
    exact redeemed
  rw [served] at follows ⊢
  refine ⟨follows, fun entry member key granted => ?_,
    fun entry member other otherMember key granted otherGranted => ?_, ?_,
    fun key member => ?_, fun other front last key ends granted => ?_⟩
  · rcases List.mem_append.mp member with old | new
    · exact office.served _ _ _ _ (redeemed.held entry old key granted)
    · cases List.mem_singleton.mp new
      exact office.granted _ _ _ key granted
  · rcases List.mem_append.mp member with old | new
    · rcases List.mem_append.mp otherMember with otherOld | otherNew
      · exact redeemed.owner entry old other otherOld key granted otherGranted
      · cases List.mem_singleton.mp otherNew
        exact absurd granted (redeemed.not_in_log otherGranted old)
    · rcases List.mem_append.mp otherMember with otherOld | otherNew
      · cases List.mem_singleton.mp new
        exact absurd otherGranted (redeemed.not_in_log granted otherOld)
      · cases List.mem_singleton.mp new
        cases List.mem_singleton.mp otherNew
        rfl
  · exact redeemed.once_concat found _
  · rcases Redemption.mem_spent_concat.mp member with old | new
    · obtain ⟨entry, listed, granted⟩ := redeemed.backed key old
      exact ⟨entry, List.mem_append_left _ listed, granted⟩
    · obtain ⟨-, entry, listed, -, granted⟩ := redeemed.spending found new
      exact ⟨entry, List.mem_append_left _ listed, granted⟩
  · exact redeemed.unspent_concat found ends granted

/-- No step spends a ticket twice. -/
theorem step (always : ∀ label, (program label).Always (permits label) [])
    (input : PoolInput κ ω β γ) :
    office.Redeemed redemption (pool.step service program input) := by
  have follows : (pool.step service program input).Follows permits :=
    redeemed.follows.step always input
  cases input with
  | start => exact { redeemed with follows }
  | serve call world => exact redeemed.serve call world
  | interfere change =>
    exact { redeemed with
      follows
      held := fun entry member key granted =>
        office.interfered _ change _ (redeemed.held entry member key granted) }
  | crash recovery =>
    exact { redeemed with
      follows
      held := fun entry member key granted =>
        office.restarted _ recovery _ (redeemed.held entry member key granted) }

end

/-- No run spends a ticket twice. -/
theorem run (always : ∀ label, (program label).Always (permits label) []) (shared : σ)
    (inputs : List (PoolInput κ ω β γ)) :
    office.Redeemed redemption
      (GuardedRun.run (Pool.step service program) (Pool.initial shared) inputs) :=
  invariant_of_forall (fun _ input redeemed => redeemed.step always input) (initial shared) inputs

end Redeemed

end TicketOffice

end CallPool
