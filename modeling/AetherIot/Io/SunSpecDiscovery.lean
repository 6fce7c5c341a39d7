import AetherIot.Foundation.Attempt

/-!
# SunSpec model discovery

A device has a signature and behind it a chain of model blocks, each with its identifier, its length
and as many registers, up to an end marker.  The chain is followed with saturating steps, so a block
that reaches the top of the register space leads to the last register instead of an end.
-/

namespace AetherIot.Io.SunSpec

open Attempt

structure DiscoveredModel where
  modelId : UInt16
  length : UInt16
  startRegister : UInt16
  deriving DecidableEq, Repr

/-- Why a discovery does not return models: with an error, because an address overflows, or not
within the given number of blocks. -/
inductive Stop where
  | error (message : String)
  | overflow
  | unfinished
  deriving DecidableEq, Repr

def sunsMagicHi : UInt16 := 0x5375

def sunsMagicLo : UInt16 := 0x6E53

def modelEndId : UInt16 := 0xFFFF

def candidateBases : List UInt16 := [0, 40000, 50000]

/-- The address `register + 1`, which the code does not check. -/
def nextAddress (register : UInt16) : Except Stop UInt16 :=
  if register = 65535 then .error .overflow else .ok (register + 1)

def saturatingAdd (left right : UInt16) : UInt16 :=
  if left.toNat + right.toNat < 2 ^ 16 then left + right else 65535

/-- The register after a block. -/
def afterBlock (register length : UInt16) : UInt16 :=
  saturatingAdd (saturatingAdd register 2) length

def hexRegister (value : UInt16) : String :=
  let digits := Nat.toDigits 16 value.toNat
  "0x" ++ String.ofList (List.replicate (4 - digits.length) '0' ++ digits)

section Discovery

variable (device : UInt16 → UInt16)

def verifySuns (base : UInt16) : Except Stop Unit := do
  let hi := device base
  let lo := device (← nextAddress base)
  if hi = sunsMagicHi ∧ lo = sunsMagicLo then .ok ()
  else .error (.error (s!"Invalid SunS at {base}: got " ++ hexRegister hi ++ "/" ++ hexRegister lo ++
    ", expected " ++ hexRegister sunsMagicHi ++ "/" ++ hexRegister sunsMagicLo))

def detectBase : List UInt16 → Except Stop UInt16
  | [] => .error (.error s!"SunS signature not found at bases {candidateBases}")
  | base :: bases =>
    match verifySuns device base with
    | .ok () => .ok base
    | .error (.error _) => detectBase bases
    | .error stop => .error stop

/-- The blocks from a register on. -/
def followChain : Nat → UInt16 → Except Stop (List DiscoveredModel)
  | 0, _ => .error .unfinished
  | blocks + 1, register => do
    let modelId := device register
    if modelId = modelEndId then
      .ok []
    else
      let length := device (← nextAddress register)
      let next := afterBlock register length
      if next = 0 then .error (.error "SunSpec model chain overflow")
      else
        let models ← followChain blocks next
        .ok (⟨modelId, length, register⟩ :: models)

def locateBase : Option UInt16 → Except Stop UInt16
  | some base => do
    verifySuns device base
    pure base
  | none => detectBase device candidateBases

def modelsFrom (base : UInt16) (blocks : Nat) : Except Stop (UInt16 × List DiscoveredModel) := do
  let models ← followChain device blocks (saturatingAdd base 2)
  if models = [] then
    .error (.error s!"No SunSpec models found at base {base} (only end marker?)")
  else .ok (base, models)

/-- Discover the models of a device, following at most a number of blocks. -/
def discoverModels (baseAddress : Option UInt16) (blocks : Nat) :
    Except Stop (UInt16 × List DiscoveredModel) := do
  let base ← locateBase device baseAddress
  modelsFrom device base blocks

end Discovery

/-- The register after a block, which may lie outside the register space. -/
def DiscoveredModel.finish (model : DiscoveredModel) : Nat :=
  model.startRegister.toNat + 2 + model.length.toNat

/-- The blocks that the device describes follow each other from a register on, and the end marker
follows them. -/
def Contiguous (device : UInt16 → UInt16) : Nat → List DiscoveredModel → Prop
  | register, [] => ∃ last : UInt16, last.toNat = register ∧ device last = modelEndId
  | register, model :: models =>
    model.startRegister.toNat = register ∧ model.modelId = device model.startRegister ∧
      model.modelId ≠ modelEndId ∧ model.length = device (model.startRegister + 1) ∧
      Contiguous device model.finish models

/-- What is expected of discovered blocks. -/
structure InRange (device : UInt16 → UInt16) (base : UInt16) (models : List DiscoveredModel) :
    Prop where
  contiguous : Contiguous device (base.toNat + 2) models
  disjoint : models.Pairwise fun model later => model.finish ≤ later.startRegister.toNat
  inside : ∀ model ∈ models, model.finish ≤ 2 ^ 16

/-- The discovery returns after finitely many blocks, without overflow and with blocks in range. -/
def Discovers (device : UInt16 → UInt16) (baseAddress : Option UInt16) :
    Prop :=
  ∃ blocks, (∃ message,
      discoverModels device baseAddress blocks = .error (.error message)) ∨
    ∃ base models, discoverModels device baseAddress blocks = .ok (base, models) ∧
      InRange device base models

/-- No signature is found, or behind it there is only the end marker, or a chain of blocks with its
end marker inside the register space. -/
def Proper (device : UInt16 → UInt16) (baseAddress : Option UInt16) : Prop :=
  (∃ message, locateBase device baseAddress = .error (.error message)) ∨
    ∃ base, locateBase device baseAddress = .ok base ∧
      (device (saturatingAdd base 2) = modelEndId ∨
        ∃ models, Contiguous device (base.toNat + 2) models)

theorem toNat_saturatingAdd (left right : UInt16) :
    (saturatingAdd left right).toNat = min (left.toNat + right.toNat) 65535 := by
  rw [saturatingAdd]
  split
  · rw [UInt16.toNat_add, Nat.mod_eq_of_lt (by assumption)]
    omega
  · change 65535 = _
    omega

theorem toNat_afterBlock (register length : UInt16) :
    (afterBlock register length).toNat = min (register.toNat + 2 + length.toNat) 65535 := by
  rw [afterBlock, toNat_saturatingAdd, toNat_saturatingAdd]
  change min (min (register.toNat + 2) 65535 + length.toNat) 65535 = _
  omega

section Chain

variable {device : UInt16 → UInt16} {base register : UInt16}
  {models : List DiscoveredModel}

/-- Contiguous blocks lie between their first register and the end marker. -/
theorem Contiguous.bounds {first : Nat} (contiguous : Contiguous device first models) :
    first < 2 ^ 16 ∧ ∀ model ∈ models, first ≤ model.startRegister.toNat ∧ model.finish < 2 ^ 16 := by
  induction models generalizing first with
  | nil =>
    obtain ⟨last, rfl, -⟩ := contiguous
    exact ⟨last.toNat_lt, by simp⟩
  | cons model models ih =>
    obtain ⟨rfl, -, -, -, rest⟩ := contiguous
    obtain ⟨below, later⟩ := ih rest
    refine ⟨model.startRegister.toNat_lt, fun other member => ?_⟩
    rcases List.mem_cons.mp member with rfl | member
    · exact ⟨le_refl _, below⟩
    · refine ⟨le_trans ?_ (later other member).1, (later other member).2⟩
      rw [DiscoveredModel.finish]
      omega

theorem Contiguous.disjoint {first : Nat} (contiguous : Contiguous device first models) :
    models.Pairwise fun model later => model.finish ≤ later.startRegister.toNat := by
  induction models generalizing first with
  | nil => exact .nil
  | cons model models ih =>
    obtain ⟨-, -, -, -, rest⟩ := contiguous
    exact .cons (fun later member => (rest.bounds.2 later member).1) (ih rest)

/-- A step along the chain finds the end marker, overflows, or finds a block. -/
theorem followChain_succ (blocks : Nat) (register : UInt16) :
    followChain device (blocks + 1) register =
      if device register = modelEndId then .ok []
      else if register = 65535 then .error .overflow
      else (followChain device blocks
        (afterBlock register (device (register + 1)))).map
          (⟨device register, device (register + 1), register⟩ :: ·) := by
  have moves : afterBlock register (device (register + 1)) ≠ 0 := by
    rw [Ne, ← UInt16.toNat_inj, toNat_afterBlock]
    change ¬ _ = 0
    omega
  simp only [followChain, nextAddress]
  refine if_congr Iff.rfl rfl ?_
  by_cases top : register = 65535
  · rw [if_pos top, if_pos top]
    rfl
  · rw [if_neg top, if_neg top]
    refine (if_neg moves).trans ?_
    cases followChain device blocks _ with
    | ok | error => rfl

/-- A chain inside the register space is followed to its end. -/
theorem followChain_contiguous (contiguous : Contiguous device register.toNat models) :
    followChain device (models.length + 1) register = .ok models := by
  induction models generalizing register with
  | nil =>
    obtain ⟨last, same, marked⟩ := contiguous
    cases UInt16.toNat_inj.mp same
    rw [followChain_succ, if_pos marked]
  | cons model models ih =>
    obtain ⟨modelId, length, start⟩ := model
    obtain ⟨same, isId, model, isLength, rest⟩ := contiguous
    dsimp only at same isId isLength
    subst isId isLength
    cases UInt16.toNat_inj.mp same
    have below : register.toNat + 2 + (device (register + 1)).toNat < 2 ^ 16 := rest.bounds.1
    have next : (afterBlock register (device (register + 1))).toNat =
        register.toNat + 2 + (device (register + 1)).toNat := by
      rw [toNat_afterBlock]
      omega
    have inside : register ≠ 65535 := by
      rintro rfl
      change 65535 + 2 + _ < _ at below
      omega
    rw [followChain_succ, if_neg model, if_neg inside, List.length_cons,
      ih (next ▸ rest)]
    rfl

/-- Following the chain fails only by overflow, and finds nothing only before an end marker. -/
theorem followChain_outcome (device : UInt16 → UInt16) (blocks : Nat) (register : UInt16) :
    (∀ message, followChain device blocks register ≠ .error (.error message)) ∧
      (followChain device blocks register = .ok [] →
        device register = modelEndId) := by
  induction blocks generalizing register with
  | zero => simp [followChain]
  | succ blocks ih =>
    rw [followChain_succ]
    split
    · simp [*]
    split
    · simp
    have rest := (ih (afterBlock register (device (register + 1)))).1
    cases followed : followChain device blocks
        (afterBlock register (device (register + 1))) with
    | ok => simp [Except.map]
    | error => simpa [Except.map, followed] using rest

/-- The models behind a signature are in range exactly if there is only an end marker or a chain. -/
theorem modelsFrom_iff (device : UInt16 → UInt16) (base : UInt16) : (∃ blocks,
      (∃ message, modelsFrom device base blocks = .error (.error message)) ∨
      ∃ found models, modelsFrom device base blocks = .ok (found, models) ∧
        InRange device found models) ↔
      device (saturatingAdd base 2) = modelEndId ∨
        ∃ models, Contiguous device (base.toNat + 2) models := by
  constructor
  · rintro ⟨blocks, ⟨message, failed⟩ | ⟨found, models, returned, inRange⟩⟩
    · left
      obtain ⟨never, empty⟩ := followChain_outcome device blocks (saturatingAdd base 2)
      rw [modelsFrom] at failed
      cases followed : followChain device blocks (saturatingAdd base 2) with
      | error stop =>
        rw [followed] at failed
        cases failed
        exact absurd followed (never message)
      | ok models =>
        rw [followed] at failed
        by_cases none : models = []
        · exact empty (none ▸ followed)
        · cases (if_neg none).symm.trans failed
    · obtain ⟨models, -, checked⟩ := bind_eq_ok.mp returned
      split at checked
      · cases checked
      · cases checked
        exact .inr ⟨_, inRange.contiguous⟩
  · have position := toNat_saturatingAdd base 2
    change _ = min (base.toNat + 2) 65535 at position
    rintro (marked | ⟨models, contiguous⟩)
    · refine ⟨1, .inl ?_⟩
      rw [modelsFrom, followChain_succ, if_pos marked]
      exact ⟨_, rfl⟩
    · have below := contiguous.bounds.1
      have place : (saturatingAdd base 2).toNat = base.toNat + 2 := by omega
      have followed := followChain_contiguous (place ▸ contiguous)
      refine ⟨models.length + 1, ?_⟩
      rw [modelsFrom, followed]
      by_cases none : models = []
      · exact .inl ⟨_, if_pos none⟩
      · exact .inr ⟨base, models, if_neg none, contiguous, contiguous.disjoint,
          fun model member => (contiguous.bounds.2 model member).2.le⟩

end Chain

/-- The discovery returns, and with blocks in range, exactly if the chain behind the signature ends
inside the register space. -/
theorem discovery_in_range_iff (device : UInt16 → UInt16)
    (baseAddress : Option UInt16) :
    Discovers device baseAddress ↔ Proper device baseAddress := by
  rw [Discovers, Proper]
  cases located : locateBase device baseAddress with
  | error => simp [discoverModels, located, bind, Except.bind]
  | ok base => simpa [discoverModels, located, bind, Except.bind] using modelsFrom_iff device base

/-- A model behind the signature whose length is 65535. -/
def unboundedModel (register : UInt16) : UInt16 :=
  if register = 40000 then sunsMagicHi else if register = 40001 then sunsMagicLo
  else if register = 40002 then 1 else if register = 40003 then 0xFFFF else 0

theorem unboundedModel_overflows : ¬ Discovers unboundedModel none := by
  rintro ⟨blocks, outcome⟩
  have stops : ∀ blocks, discoverModels unboundedModel none (blocks + 2) = .error .overflow := by
    intro blocks
    rfl
  rcases blocks with _ | _ | blocks
  · simp [show discoverModels unboundedModel none 0 = .error .unfinished by rfl] at outcome
  · simp [show discoverModels unboundedModel none 1 = .error .unfinished by rfl] at outcome
  · simp [stops blocks] at outcome

end AetherIot.Io.SunSpec
