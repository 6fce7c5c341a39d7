import Mathlib

/-!
# Serial numbers

A serial number is a wrapping counter of 64 bits.  A number is stale when it is more than half of the
range ahead of the last one.  Among numbers less than half of the range from a common base, this is
the order of their distances from the base.
-/

namespace SerialNumber

/-- The number of steps from the base. -/
def offset (base serial : UInt64) : Nat := (serial - base).toNat

/-- The number lies behind the last one. -/
def Stale (serial last : UInt64) : Prop := serial - last > 0x7FFFFFFFFFFFFFFF

instance (serial last : UInt64) : Decidable (Stale serial last) :=
  inferInstanceAs (Decidable (_ > _))

/-- The distance of two numbers from their offsets. -/
theorem toNat_sub_eq_offset (base serial last : UInt64) :
    (serial - last).toNat = (2 ^ 64 - offset base last + offset base serial) % 2 ^ 64 := by
  have split : serial - last = (serial - base) - (last - base) := by grind
  rw [split, UInt64.toNat_sub]
  rfl

theorem offset_lt_of_not_stale {base serial last : UInt64} (near : offset base serial < 2 ^ 63)
    (lastNear : offset base last < 2 ^ 63) (notStale : ¬ Stale serial last)
    (different : serial ≠ last) : offset base last < offset base serial := by
  have distance := toNat_sub_eq_offset base serial last
  have bound : (serial - last).toNat < 2 ^ 63 := by
    have notAbove : serial - last ≤ 0x7FFFFFFFFFFFFFFF := UInt64.not_lt.mp notStale
    exact Nat.lt_succ_of_le (UInt64.le_iff_toNat_le.mp notAbove)
  have positive : (serial - last).toNat ≠ 0 := by
    intro zero
    have gap : serial - last = 0 := UInt64.toNat_inj.mp zero
    exact different (by grind)
  omega

end SerialNumber
