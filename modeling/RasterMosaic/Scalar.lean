/-!
The numbers coordinates are measured in. Geometry is written once over `Scalar`: it runs at
`Float`, rounding after every step in the order written, and is reasoned about at `Rat`, where
the same formulas are exact. Whole numbers enter as casts and other constants as quotients of
whole numbers, so a constant has one meaning at both.
-/

namespace RasterMosaic

class Scalar (K : Type) extends
    Add K, Sub K, Mul K, Div K, Neg K, LT K, BEq K, NatCast K where
  /-- Neither infinite nor undefined. -/
  isFinite : K → Bool
  /-- The integer part of a positive number, and zero for every other one. -/
  trunc : K → Nat
  /-- The nearest machine number, which is the one an error report shows. -/
  toFloat : K → Float

namespace Scalar

instance : Scalar Float where
  natCast := Float.ofNat
  isFinite := Float.isFinite
  trunc x := x.toUInt64.toNat
  toFloat x := x

instance : Scalar Rat where
  isFinite _ := true
  trunc x := x.floor.toNat
  toFloat x := Float.ofInt x.num / Float.ofNat x.den

variable {K : Type} [Scalar K]

def abs [DecidableLT K] (x : K) : K := if x < (0 : Nat) then -x else x

/-- Two to the power of a natural number, by repeated squaring. -/
def twoPow (n : Nat) : K :=
  if n = 0 then (1 : Nat)
  else
    let half : K := twoPow (n / 2)
    if n % 2 = 0 then half * half else half * half * (2 : Nat)
termination_by n
decreasing_by omega

/-- Two to the power of an integer; the reciprocal of a power for a negative one. -/
def twoZpow (n : Int) : K :=
  if 0 ≤ n then twoPow n.toNat else (1 : Nat) / twoPow (-n).toNat

end Scalar

end RasterMosaic
