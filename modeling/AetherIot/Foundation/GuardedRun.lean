import Mathlib

/-!
# Guarded runs of a labelled machine

A machine is a total step function on labelled inputs.  A run is *guarded* when every one of its
steps is taken from a state in which the step's guard holds.  Invariants relative to a guard, and
the passage from a run to its individual steps, are stated once for every machine.
-/

namespace GuardedRun

variable {σ ι : Type}

/-- The state after performing `inputs` in order. -/
def run (step : σ → ι → σ) (initial : σ) (inputs : List ι) : σ :=
  inputs.foldl step initial

/-- Every step of the run satisfies `guard` in the state from which it is taken. -/
def Guarded (step : σ → ι → σ) (guard : σ → ι → Prop) : σ → List ι → Prop
  | _, [] => True
  | state, input :: inputs => guard state input ∧ Guarded step guard (step state input) inputs

variable {step : σ → ι → σ} {guard : σ → ι → Prop}

instance decidableGuarded [∀ state input, Decidable (guard state input)] :
    ∀ (initial : σ) (inputs : List ι), Decidable (Guarded step guard initial inputs)
  | _, [] => inferInstanceAs (Decidable True)
  | initial, input :: inputs =>
    have := decidableGuarded (step initial input) inputs
    inferInstanceAs (Decidable (_ ∧ _))

@[simp]
theorem run_nil (initial : σ) : run step initial [] = initial := rfl

@[simp]
theorem run_cons (initial : σ) (input : ι) (inputs : List ι) :
    run step initial (input :: inputs) = run step (step initial input) inputs := rfl

theorem run_append (initial : σ) (front back : List ι) :
    run step initial (front ++ back) = run step (run step initial front) back :=
  List.foldl_append

theorem run_snoc (initial : σ) (inputs : List ι) (input : ι) :
    run step initial (inputs ++ [input]) = step (run step initial inputs) input := by
  simp [run_append]

theorem guarded_append {initial : σ} {front back : List ι} :
    Guarded step guard initial (front ++ back) ↔
      Guarded step guard initial front ∧ Guarded step guard (run step initial front) back := by
  induction front generalizing initial with
  | nil => simp [Guarded]
  | cons _ _ ih => simp [Guarded, ih, and_assoc]

/-- A run guarded by a true guard is unrestricted. -/
theorem guarded_of_forall (always : ∀ state input, guard state input) (initial : σ)
    (inputs : List ι) : Guarded step guard initial inputs := by
  induction inputs generalizing initial with
  | nil => trivial
  | cons input _ ih => exact ⟨always initial input, ih _⟩

/-- Two guards of one run guard it together. -/
theorem guarded_and {other : σ → ι → Prop} {initial : σ} {inputs : List ι}
    (guarded : Guarded step guard initial inputs) (otherGuarded : Guarded step other initial inputs) :
    Guarded step (fun state input => guard state input ∧ other state input) initial inputs := by
  induction inputs generalizing initial with
  | nil => trivial
  | cons _ _ ih =>
    exact ⟨⟨guarded.1, otherGuarded.1⟩, ih guarded.2 otherGuarded.2⟩

theorem invariant {inv : σ → Prop}
    (preserved : ∀ state input, inv state → guard state input → inv (step state input))
    {initial : σ} {inputs : List ι} (holds : inv initial)
    (guarded : Guarded step guard initial inputs) : inv (run step initial inputs) := by
  induction inputs generalizing initial with
  | nil => exact holds
  | cons input _ ih =>
    exact ih (preserved initial input holds guarded.1) guarded.2

theorem invariant_of_mem {inv : σ → Prop} {initial : σ} {inputs : List ι}
    (preserved : ∀ state, ∀ input ∈ inputs, inv state → inv (step state input))
    (holds : inv initial) : inv (run step initial inputs) := by
  induction inputs generalizing initial with
  | nil => exact holds
  | cons input _ ih =>
    refine ih (fun state later member => ?_) ?_
    · exact preserved state later (List.mem_cons_of_mem _ member)
    · exact preserved initial input List.mem_cons_self holds

theorem invariant_of_forall {inv : σ → Prop}
    (preserved : ∀ state input, inv state → inv (step state input))
    {initial : σ} (holds : inv initial) (inputs : List ι) : inv (run step initial inputs) :=
  invariant_of_mem (fun state input _ => preserved state input) holds

theorem exists_first_violation {initial : σ} {inputs : List ι}
    (violated : ¬ Guarded step guard initial inputs) :
    ∃ front input back, inputs = front ++ input :: back ∧ Guarded step guard initial front ∧
      ¬ guard (run step initial front) input := by
  induction inputs generalizing initial with
  | nil => exact absurd trivial violated
  | cons input inputs ih =>
    by_cases now : guard initial input
    · obtain ⟨front, bad, back, rfl, earlier, breaks⟩ :=
        ih (fun later => violated ⟨now, later⟩)
      exact ⟨input :: front, bad, back, rfl, ⟨now, earlier⟩, breaks⟩
    · exact ⟨[], input, inputs, rfl, trivial, now⟩

variable {ο : Type}

/-- What the steps of a run emit, in order. -/
def emitted (step : σ → ι → σ) (emit : σ → ι → List ο) : σ → List ι → List ο
  | _, [] => []
  | state, input :: inputs => emit state input ++ emitted step emit (step state input) inputs

/-- A run emits sound outputs exactly when each of its steps does. -/
theorem forall_mem_emitted {emit : σ → ι → List ο} {sound : ο → Prop} {initial : σ}
    {inputs : List ι} :
    (∀ output ∈ emitted step emit initial inputs, sound output) ↔
      Guarded step (fun state input => ∀ output ∈ emit state input, sound output) initial
        inputs := by
  induction inputs generalizing initial with
  | nil => simp [emitted, Guarded]
  | cons _ _ ih =>
    rw [emitted, List.forall_mem_append, Guarded, ih]

theorem Guarded.of_invariant {inv : σ → Prop} {other : σ → ι → Prop}
    (preserved : ∀ state input, inv state → guard state input → inv (step state input))
    (implies : ∀ state input, inv state → guard state input → other state input)
    {initial : σ} {inputs : List ι} (holds : inv initial)
    (guarded : Guarded step guard initial inputs) : Guarded step other initial inputs := by
  induction inputs generalizing initial with
  | nil => trivial
  | cons input _ ih =>
    exact ⟨implies initial input holds guarded.1,
      ih (preserved initial input holds guarded.1) guarded.2⟩

theorem Guarded.mono {other : σ → ι → Prop}
    (implies : ∀ state input, guard state input → other state input) {initial : σ}
    {inputs : List ι} (guarded : Guarded step guard initial inputs) :
    Guarded step other initial inputs := by
  induction inputs generalizing initial with
  | nil => trivial
  | cons input _ ih =>
    exact ⟨implies initial input guarded.1, ih guarded.2⟩

theorem guarded_iff_forall_mem {allowed : ι → Prop} {initial : σ} {inputs : List ι} :
    Guarded step (fun _ input => allowed input) initial inputs ↔
      ∀ input ∈ inputs, allowed input := by
  induction inputs generalizing initial with
  | nil => simp [Guarded]
  | cons _ _ ih => rw [Guarded, ih, List.forall_mem_cons]

/-- The state after the first steps of an endless run. -/
def trace (step : σ → ι → σ) (initial : σ) (inputs : Nat → ι) : Nat → σ
  | 0 => initial
  | count + 1 => step (trace step initial inputs count) (inputs count)

theorem trace_invariant {inv : σ → Prop} {initial : σ} {inputs : Nat → ι} (holds : inv initial)
    (preserved : ∀ count, inv (trace step initial inputs count) →
      inv (step (trace step initial inputs count) (inputs count))) (count : Nat) :
    inv (trace step initial inputs count) := by
  induction count with
  | zero => exact holds
  | succ count ih => exact preserved count ih

end GuardedRun
