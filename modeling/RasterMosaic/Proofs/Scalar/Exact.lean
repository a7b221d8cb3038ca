import Mathlib.Data.Rat.Floor
import Mathlib.Tactic.Ring
import RasterMosaic.Scalar

/-!
What the operations on numbers are where numbers are exact: absolute values, integer parts and
powers of two.
-/

namespace RasterMosaic

theorem scalar_abs (x : Rat) : Scalar.abs x = |x| := by
  change (if x < 0 then -x else x) = |x|
  by_cases negative : x < 0
  · rw [if_pos negative, abs_of_neg negative]
  · rw [if_neg negative, abs_of_nonneg (not_lt.mp negative)]

theorem scalar_trunc (x : Rat) : Scalar.trunc x = ⌊x⌋₊ := rfl

theorem scalar_twoPow (n : Nat) : (Scalar.twoPow n : Rat) = 2 ^ n := by
  fun_induction (Scalar.twoPow n : Rat) with
  | case1 => rfl
  | case2 n positive half even ih =>
      have power : half = 2 ^ (n / 2) := ih
      have halves : n = n / 2 + n / 2 := by omega
      calc half * half = 2 ^ (n / 2 + n / 2) := by rw [power, pow_add]
        _ = 2 ^ n := by rw [← halves]
  | case3 n positive half odd ih =>
      have power : half = 2 ^ (n / 2) := ih
      have halves : n = n / 2 + n / 2 + 1 := by omega
      calc half * half * 2 = 2 ^ (n / 2 + n / 2 + 1) := by rw [power, pow_succ, pow_add]
        _ = 2 ^ n := by rw [← halves]

theorem scalar_twoZpow (n : Nat) : (Scalar.twoZpow n : Rat) = 2 ^ n := by
  rw [Scalar.twoZpow, if_pos (Int.natCast_nonneg n), Int.toNat_natCast, scalar_twoPow]

end RasterMosaic
