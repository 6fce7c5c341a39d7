import AetherIot.Foundation.GuardedRun
import AetherIot.Foundation.Interaction

/-!
# Sections under a shared lock

Programs run over one shared state, each inside a section that a lock guards: a writer excludes
everyone else, readers exclude writers.  A program may crash at any request, which leaves the shared
state as it is and frees the lock.  What a writer preserves when it runs alone is an invariant of all
interleavings, and what a reader finds when it runs alone it finds in every interleaving.
-/

namespace LockedSection

open GuardedRun

variable {ρ : Type} {Reply : ρ → Type} {ε σ ω κ ν α β : Type}

/-- Every state met by the program satisfies `inv`, and what it returns satisfies `post`. -/
def Safe (serve : σ → ω → (request : ρ) → σ × Reply request) (inv : σ → Prop)
    (post : σ → α → Prop) : Interaction Reply ε α → σ → Prop
  | .done value, state => post state value
  | .fail _, _ => True
  | .ask request next, state => ∀ world, inv (serve state world request).1 ∧
      Safe serve inv post (next (serve state world request).2) (serve state world request).1

variable {serve : σ → ω → (request : ρ) → σ × Reply request} {inv : σ → Prop}
  {post middle : σ → α → Prop} {state : σ} {program : Interaction Reply ε α}

theorem safe_send {request : ρ} {next : Reply request → Interaction Reply ε α} :
    Safe serve inv post (Interaction.send request >>= next) state ↔
      ∀ world, inv (serve state world request).1 ∧
        Safe serve inv post (next (serve state world request).2) (serve state world request).1 :=
  Iff.rfl

/-- Run one program after another. -/
theorem Safe.bind {post : σ → β → Prop} {next : α → Interaction Reply ε β}
    (safe : Safe serve inv middle program state)
    (rest : ∀ later value, middle later value → Safe serve inv post (next value) later) :
    Safe serve inv post (program >>= next) state := by
  induction program generalizing state with
  | done value => exact rest state value safe
  | fail => trivial
  | ask _ _ ih =>
    intro world
    obtain ⟨kept, safe⟩ := safe world
    exact ⟨kept, ih _ safe⟩

theorem Safe.weaken (safe : Safe serve inv middle program state)
    (weaker : ∀ later value, middle later value → post later value) :
    Safe serve inv post program state := by
  induction program generalizing state with
  | done value => exact weaker state value safe
  | fail => trivial
  | ask _ _ ih =>
    intro world
    obtain ⟨kept, safe⟩ := safe world
    exact ⟨kept, ih _ safe⟩

/-- The program does not change the state. -/
def ReadOnly (serve : σ → ω → (request : ρ) → σ × Reply request)
    (program : Interaction Reply ε α) : Prop :=
  program.Uses fun request => ∀ state world, (serve state world request).1 = state

section Rules

variable {post : σ → β → Prop}

theorem ReadOnly.safe {program : Interaction Reply ε α} (readOnly : ReadOnly serve program)
    (holds : inv state) : Safe serve inv (fun later _ => later = state) program state := by
  induction program with
  | done => exact rfl
  | fail => trivial
  | ask _ _ ih =>
    intro world
    rw [readOnly.1 state world]
    exact ⟨holds, ih _ (readOnly.2 _)⟩

theorem safe_ofExcept_bind {result : Except ε α} {next : α → Interaction Reply ε β}
    (rest : ∀ value, result = .ok value → Safe serve inv post (next value) state) :
    Safe serve inv post (Interaction.ofExcept result >>= next) state := by
  cases result with
  | ok value => exact rest value rfl
  | error => trivial

theorem safe_read {request : ρ} {next : Reply request → Interaction Reply ε β}
    (unchanged : ∀ state world, (serve state world request).1 = state) (holds : inv state)
    (rest : ∀ world, Safe serve inv post (next (serve state world request).2) state) :
    Safe serve inv post (Interaction.send request >>= next) state := by
  rw [safe_send]
  intro world
  rw [unchanged state world]
  exact ⟨holds, rest world⟩

end Rules

/-- The shared state, what is left of the programs inside their sections, the number of writers that
have entered, and what readers returned in which state. -/
structure Sections {ρ : Type} (Reply : ρ → Type) (ε α β σ : Type) where
  shared : σ
  entered : Nat
  writer : Option (Interaction Reply ε α)
  readers : List (Option (Interaction Reply ε β))
  returned : List (σ × β)

inductive SectionInput (κ ν ω : Type) where
  | enterWriter (label : κ)
  | writer (world : ω)
  | crashWriter
  | enterReader (label : ν)
  | reader (index : Nat) (world : ω)
  | crashReader (index : Nat)

namespace Sections

def initial (shared : σ) : Sections Reply ε α β σ := ⟨shared, 0, none, [], []⟩

/-- What is left of a program, unless it has ended. -/
def unfinished : Interaction Reply ε α → Option (Interaction Reply ε α)
  | .ask request next => some (.ask request next)
  | .done _ | .fail _ => none

/-- What a program returned, if it has. -/
def result : Interaction Reply ε α → Option α
  | .done value => some value
  | .ask _ _ | .fail _ => none

variable (serve : σ → ω → (request : ρ) → σ × Reply request)
  (write : κ → Nat → Interaction Reply ε α) (read : ν → Interaction Reply ε β)

def step (sections : Sections Reply ε α β σ) : SectionInput κ ν ω → Sections Reply ε α β σ
  | .enterWriter label =>
    if sections.writer.isNone ∧ ∀ reader ∈ sections.readers, reader.isNone then
      { sections with
        entered := sections.entered + 1
        writer := some (write label sections.entered) }
    else sections
  | .writer world =>
    match sections.writer with
    | some (.ask request next) =>
      let served := serve sections.shared world request
      { sections with
        shared := served.1
        writer := unfinished (next served.2) }
    | _ => sections
  | .crashWriter => { sections with writer := none }
  | .enterReader label =>
    if sections.writer.isNone then
      { sections with readers := sections.readers ++ [some (read label)] }
    else sections
  | .reader index world =>
    match sections.readers[index]? with
    | some (some (.ask request next)) =>
      let served := serve sections.shared world request
      { sections with
        shared := served.1
        readers := sections.readers.set index (unfinished (next served.2))
        returned := sections.returned ++
          ((result (next served.2)).map fun value => (served.1, value)).toList }
    | _ => sections
  | .crashReader index => { sections with readers := sections.readers.set index none }

end Sections

open Sections

/-- The writer and the readers inside are safe from the current state, and a writer is alone. -/
structure Sections.Sound (serve : σ → ω → (request : ρ) → σ × Reply request) (inv : σ → Prop)
    (post : σ → β → Prop) (sections : Sections Reply ε α β σ) : Prop where
  shared : inv sections.shared
  writer : ∀ program, sections.writer = some program →
    Safe serve inv (fun _ _ => True) program sections.shared
  readers : ∀ program, some program ∈ sections.readers →
    Safe serve inv post program sections.shared ∧ ReadOnly serve program
  alone : sections.writer ≠ none → ∀ program, some program ∉ sections.readers
  returned : ∀ entry ∈ sections.returned, inv entry.1 ∧ post entry.1 entry.2

section Interleavings

variable {write : κ → Nat → Interaction Reply ε α} {read : ν → Interaction Reply ε β}
  {post : σ → β → Prop} {sections : Sections Reply ε α β σ}

theorem eq_of_unfinished {rest : Interaction Reply ε α}
    (left : unfinished program = some rest) : program = rest := by
  cases program with
  | done | fail => cases left
  | ask => exact Option.some.inj left

theorem eq_of_result {value : α} (returned : result program = some value) :
    program = .done value := by
  cases program with
  | done => exact congrArg _ (Option.some.inj returned)
  | fail | ask => cases returned

section

variable (sound : sections.Sound serve inv post)

include sound

theorem Sections.Sound.enterWriter (writes : ∀ label call state, inv state →
      Safe serve inv (fun _ _ => True) (write label call) state) (label : κ) :
    (sections.step serve write read (.enterWriter label)).Sound serve inv post := by
  rw [step]
  split
  · rename_i free
    refine ⟨sound.shared, fun program entered => ?_, sound.readers, fun _ program inside => ?_,
      sound.returned⟩
    · cases entered
      exact writes label sections.entered sections.shared sound.shared
    · cases free.2 _ inside
  · exact sound

theorem Sections.Sound.runWriter (world : ω) :
    (sections.step serve write read (.writer world)).Sound serve inv post := by
  rw [step]
  split
  · rename_i inside
    obtain ⟨kept, _⟩ := sound.writer _ inside world
    have nobody := sound.alone (by rw [inside]; exact Option.some_ne_none _)
    refine ⟨kept, fun program left => ?_, fun program reading => absurd reading (nobody program),
      fun _ => nobody, sound.returned⟩
    rwa [← eq_of_unfinished left]
  · exact sound

theorem Sections.Sound.enterReader
    (reads : ∀ label state, inv state → Safe serve inv post (read label) state)
    (readOnly : ∀ label, ReadOnly serve (read label)) (label : ν) :
    (sections.step serve write read (.enterReader label)).Sound serve inv post := by
  rw [step]
  split
  · rename_i free
    refine ⟨sound.shared, sound.writer, fun program inside => ?_, fun busy => ?_, sound.returned⟩
    · rcases List.mem_append.mp inside with inside | entered
      · exact sound.readers program inside
      · cases List.mem_singleton.mp entered
        exact ⟨reads label sections.shared sound.shared, readOnly label⟩
    · exact absurd (Option.isNone_iff_eq_none.mp free) busy
  · exact sound

theorem Sections.Sound.runReader (index : Nat) (world : ω) :
    (sections.step serve write read (.reader index world)).Sound serve inv post := by
  rw [step]
  split
  · rename_i request _ inside
    have member := List.mem_of_getElem? inside
    obtain ⟨safe, readOnly⟩ := sound.readers _ member
    obtain ⟨kept, safe⟩ := safe world
    have unchanged := readOnly.1 sections.shared world
    have nobody : sections.writer = none := by
      by_contra busy
      exact sound.alone busy _ member
    refine ⟨kept, fun program busy => ?_, fun program reading => ?_, fun busy => absurd nobody busy,
      fun entry listed => ?_⟩
    · cases nobody.symm.trans busy
    · rcases List.mem_or_eq_of_mem_set reading with reading | left
      · change Safe serve inv post program (serve sections.shared world request).1 ∧ _
        rw [unchanged]
        exact sound.readers program reading
      · rw [← eq_of_unfinished left.symm]
        exact ⟨safe, readOnly.2 _⟩
    · rcases List.mem_append.mp listed with listed | fresh
      · exact sound.returned entry listed
      · obtain ⟨_, returned, rfl⟩ := Option.map_eq_some_iff.mp (Option.mem_toList.mp fresh)
        rw [eq_of_result returned] at safe
        exact ⟨kept, safe⟩
  · exact sound

theorem Sections.Sound.step (writes : ∀ label call state, inv state →
      Safe serve inv (fun _ _ => True) (write label call) state)
    (reads : ∀ label state, inv state → Safe serve inv post (read label) state)
    (readOnly : ∀ label, ReadOnly serve (read label)) (input : SectionInput κ ν ω) :
    (sections.step serve write read input).Sound serve inv post := by
  cases input with
  | enterWriter label => exact sound.enterWriter writes label
  | writer world => exact sound.runWriter world
  | crashWriter =>
    exact ⟨sound.shared, fun program inside => (by cases inside), sound.readers,
      fun busy => absurd rfl busy, sound.returned⟩
  | enterReader label => exact sound.enterReader reads readOnly label
  | reader index world => exact sound.runReader index world
  | crashReader index =>
    have remains : ∀ program, some program ∈ sections.readers.set index none →
        some program ∈ sections.readers := by
      intro program inside
      rcases List.mem_or_eq_of_mem_set inside with inside | left
      · exact inside
      · cases left
    exact ⟨sound.shared, sound.writer, fun program inside => sound.readers program
      (remains program inside), fun busy program inside => sound.alone busy program
      (remains program inside), sound.returned⟩

end

/-- Writers that preserve an invariant alone preserve it in every interleaving, and readers return
what they return alone. -/
theorem sound_run (writes : ∀ label call state, inv state →
      Safe serve inv (fun _ _ => True) (write label call) state)
    (reads : ∀ label state, inv state → Safe serve inv post (read label) state)
    (readOnly : ∀ label, ReadOnly serve (read label)) {shared : σ} (holds : inv shared)
    (inputs : List (SectionInput κ ν ω)) :
    (run (step serve write read) (.initial shared) inputs).Sound serve inv post := by
  refine invariant_of_forall (fun sections input sound => sound.step writes reads readOnly input)
    ?_ inputs
  exact ⟨holds, fun program inside => (by cases inside), fun program inside => (by cases inside),
    fun busy => absurd rfl busy, fun entry listed => (by cases listed)⟩

end Interleavings

end LockedSection
