import Mathlib

/-!
# Computations that may fail

What a computation that succeeded went through, and when a traversal of a list succeeds.
-/

namespace Attempt

variable {ε δ α β : Type}

theorem bind_eq_ok {first : Except ε α} {next : α → Except ε β} {value : β} :
    (first >>= next) = .ok value ↔ ∃ middle, first = .ok middle ∧ next middle = .ok value := by
  cases first with
  | error | ok => simp [bind, Except.bind]

theorem mapError_eq_ok {translate : ε → δ} {computed : Except ε α} {value : α} :
    computed.mapError translate = .ok value ↔ computed = .ok value := by
  cases computed <;> simp [Except.mapError]

theorem map_eq_ok {translate : α → β} {computed : Except ε α} {value : β} :
    computed.map translate = .ok value ↔
      ∃ result, computed = .ok result ∧ translate result = value := by
  cases computed <;> simp [Except.map]

/-- A check that did not refuse. -/
theorem refuse_eq_ok {refused : Prop} [Decidable refused] {failure : ε} {rest : Except ε α}
    {value : α} :
    (if refused then .error failure else rest) = .ok value ↔ ¬refused ∧ rest = .ok value := by
  split <;> simp [*]

variable {compute : α → Except ε β} {values : List α}

/-- A successful traversal computes every element. -/
theorem forall₂_of_mapM {results : List β} (computed : values.mapM compute = .ok results) :
    List.Forall₂ (fun value result => compute value = .ok result) values results := by
  induction values generalizing results with
  | nil =>
    cases computed
    exact .nil
  | cons value values ih =>
    rw [List.mapM_cons] at computed
    cases head : compute value with
    | error => simp [head, bind, Except.bind] at computed
    | ok =>
      cases tail : values.mapM compute with
      | error => simp [head, tail, bind, Except.bind] at computed
      | ok =>
        simp only [head, tail, bind, Except.bind, pure, Except.pure] at computed
        cases computed
        exact .cons head (ih tail)

theorem exists_mapM_eq_ok (computes : ∀ value ∈ values, ∃ result, compute value = .ok result) :
    ∃ results, values.mapM compute = .ok results := by
  induction values with
  | nil => exact ⟨[], rfl⟩
  | cons value _ ih =>
    obtain ⟨result, head⟩ := computes value List.mem_cons_self
    obtain ⟨results, tail⟩ := ih fun other member =>
      computes other (List.mem_cons_of_mem _ member)
    refine ⟨result :: results, ?_⟩
    rw [List.mapM_cons, head, tail]
    rfl

/-- A traversal succeeds exactly if it does on every element. -/
theorem mapM_eq_ok_iff : (∃ results, values.mapM compute = .ok results) ↔
      ∀ value ∈ values, ∃ result, compute value = .ok result := by
  refine ⟨fun ⟨results, computed⟩ value member => ?_, exists_mapM_eq_ok⟩
  obtain ⟨_, bound, rfl⟩ := List.mem_iff_getElem.mp member
  have each := forall₂_of_mapM computed
  exact ⟨_, each.get bound (each.length_eq ▸ bound)⟩

end Attempt
