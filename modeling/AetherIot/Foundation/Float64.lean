import Mathlib

/-!
# Double-precision numbers by their bits

The classification of a double and the comparisons of doubles need no arithmetic.
-/

namespace Float64

def exponentMask : UInt64 := 0x7FF0000000000000

def mantissaMask : UInt64 := 0x000FFFFFFFFFFFFF

variable (bits : UInt64)

def isNan : Bool :=
  bits &&& exponentMask == exponentMask && bits &&& mantissaMask != 0

def isInfinite : Bool :=
  bits &&& exponentMask == exponentMask && bits &&& mantissaMask == 0

def isFinite : Bool := bits &&& exponentMask != exponentMask

/-- The quiet NaN. -/
def nan : UInt64 := 0x7FF8000000000000

/-- How a double that is not finite is shown. -/
def nonFiniteText : String :=
  if isNan bits then "NaN" else if bits &&& 0x8000000000000000 = 0 then "inf" else "-inf"

/-- The magnitude with its sign.  Both zeros have the key zero. -/
def orderKey : Int :=
  let magnitude : Int := (bits &&& 0x7FFFFFFFFFFFFFFF).toNat
  if bits &&& 0x8000000000000000 = 0 then magnitude else -magnitude

def eq (left right : UInt64) : Bool :=
  !isNan left && !isNan right && orderKey left == orderKey right

def lt (left right : UInt64) : Bool :=
  !isNan left && !isNan right && decide (orderKey left < orderKey right)

def le (left right : UInt64) : Bool :=
  !isNan left && !isNan right && decide (orderKey left ≤ orderKey right)

def abs : UInt64 := bits &&& 0x7FFFFFFFFFFFFFFF

/-- A finite double without a fractional part. -/
def isIntegral : Bool :=
  let exponent := (abs bits >>> 52).toNat
  if abs bits = 0 || 1075 ≤ exponent then true
  else if exponent < 1023 then false
  else (bits &&& mantissaMask).toNat % 2 ^ (1075 - exponent) = 0

end Float64
