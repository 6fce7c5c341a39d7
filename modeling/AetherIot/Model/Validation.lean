import AetherIot.Foundation.Float64

/-!
# Validation of values

Values that reach a device are checked once more: they are numbers and, where a limit is configured,
not too large.
-/

namespace AetherIot.Model

open Float64

structure ValidationConfig where
  rejectNan : Bool
  rejectInfinity : Bool
  maxAbsValue : Option UInt64
  deriving DecidableEq

def ValidationConfig.default : ValidationConfig := ⟨true, true, none⟩

inductive ValueValidationError where
  | nan
  | infinity
  | outOfRange (value max : UInt64)
  deriving DecidableEq

/-- A sign bit set to zero. -/
def absBits (bits : UInt64) : UInt64 := bits &&& 0x7FFFFFFFFFFFFFFF

/-- The bits of nonnegative doubles are ordered as the doubles are. -/
def validateValue (value : UInt64) (config : ValidationConfig) :
    Except ValueValidationError UInt64 :=
  if config.rejectNan && isNan value then .error .nan
  else if config.rejectInfinity && isInfinite value then .error .infinity
  else match config.maxAbsValue with
    | some max =>
      if !isNan value && absBits value > max then .error (.outOfRange value max)
      else .ok value
    | none => .ok value

theorem validateValue_default {raw value : UInt64}
    (accepted : validateValue raw .default = .ok value) : value = raw ∧ isFinite value := by
  have notNan : ¬ isNan raw := by
    intro nan
    simp [validateValue, ValidationConfig.default, nan] at accepted
  have notInfinite : ¬ isInfinite raw := by
    intro infinite
    simp [validateValue, ValidationConfig.default, notNan, infinite] at accepted
  simp only [validateValue, ValidationConfig.default, notNan, notInfinite, Bool.and_false,
    if_false, Bool.false_eq_true, Except.ok.injEq] at accepted
  subst accepted
  refine ⟨rfl, ?_⟩
  simp only [isNan, isInfinite, Bool.and_eq_true, beq_iff_eq, bne_iff_ne,
    not_and] at notNan notInfinite
  simp only [isFinite, bne_iff_ne]
  intro exponent
  exact notNan exponent fun mantissa => notInfinite exponent mantissa

end AetherIot.Model
