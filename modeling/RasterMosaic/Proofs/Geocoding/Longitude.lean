import Mathlib.Algebra.Group.ModEq
import Mathlib.Data.Rat.Floor
import Mathlib.Tactic.Linarith
import Mathlib.Tactic.Ring
import RasterMosaic.Geocoding.Longitude
import RasterMosaic.Proofs.Scalar.Exact

/-!
Longitudes in exact numbers. Bringing one into the range from -180 to 180 moves it by whole turns,
so it stays on its meridian. The turns taken off reach all of the range outside, so that a longitude
less than half a turn from the zero meridian is the normalized one of its meridian.
-/

namespace RasterMosaic

open AddCommGroup

theorem cast_turns (k : Nat) : ((360 <<< k : Nat) : Rat) = 2 ^ k * 360 := by
  rw [Nat.shiftLeft_eq, Nat.mul_comm]
  push_cast
  rfl

/-- Twice, four times, … as many whole turns are whole turns. -/
theorem sub_turns_modEq (k : Nat) (x : Rat) :
    x - ((360 <<< k : Nat) : Rat) ≡ x [PMOD (360 : Rat)] := by
  refine modEq_iff_zsmul.mpr ⟨(2 ^ k : Nat), ?_⟩
  rw [cast_turns, natCast_zsmul, nsmul_eq_mul]
  push_cast
  ring

theorem takeTurns_modEq (k : Nat) (x : Rat) : takeTurns k x ≡ x [PMOD (360 : Rat)] := by
  induction k generalizing x with
  | zero => exact modEq_refl x
  | succ k ih =>
      refine (ih _).trans ?_
      split
      · exact sub_turns_modEq k x
      · split
        · have back := sub_turns_modEq k (x + ((360 <<< k : Nat) : Rat))
          rw [add_sub_cancel_right] at back
          exact back.symm
        · exact modEq_refl x

theorem normalizeLongitude_modEq (x : Rat) : normalizeLongitude x ≡ x [PMOD (360 : Rat)] :=
  takeTurns_modEq _ x

theorem takeTurns_succ (k : Nat) (x : Rat) :
    takeTurns (k + 1) x = takeTurns k
      (if -180 < x - 2 ^ k * 360 then x - 2 ^ k * 360
        else if x + 2 ^ k * 360 < 180 then x + 2 ^ k * 360 else x) := by
  rw [← cast_turns]
  rfl

/-- Each step leaves no more than the smaller ones can take off. -/
theorem abs_takeTurns_le (k : Nat) {x : Rat} (h : |x| ≤ 2 ^ k * 360 - 180) :
    |takeTurns k x| ≤ 180 := by
  induction k generalizing x with
  | zero =>
      rw [pow_zero] at h
      exact h.trans (by norm_num)
  | succ k ih =>
      have one : (1 : Rat) ≤ 2 ^ k := one_le_pow₀ (by norm_num)
      obtain ⟨lower, upper⟩ := abs_le.mp h
      rw [pow_succ] at lower upper
      rw [takeTurns_succ]
      apply ih
      split
      · exact abs_le.mpr ⟨by linarith, by linarith⟩
      · split
        · exact abs_le.mpr ⟨by linarith, by linarith⟩
        · exact abs_le.mpr ⟨by linarith, by linarith⟩

theorem abs_normalizeLongitude_le (x : Rat) : |normalizeLongitude x| ≤ 180 := by
  apply abs_takeTurns_le
  rw [scalar_abs, scalar_trunc]
  have one : (1 : Rat) ≤ 2 ^ (⌊|x|⌋₊.log2 + 1) := one_le_pow₀ (by norm_num)
  have digits : ⌊|x|⌋₊ + 1 ≤ 2 ^ (⌊|x|⌋₊.log2 + 1) := Nat.lt_log2_self
  have digits : (⌊|x|⌋₊ : Rat) + 1 ≤ 2 ^ (⌊|x|⌋₊.log2 + 1) := by exact_mod_cast digits
  have next := Nat.lt_floor_add_one |x|
  linarith

/-- Longitudes on one meridian that are less than a turn apart are equal. -/
theorem eq_of_modEq_of_abs_lt {x y : Rat} (h : x ≡ y [PMOD (360 : Rat)]) (near : |y - x| < 360) :
    x = y := by
  obtain ⟨turns, apart⟩ := modEq_iff_zsmul.mp h
  rw [zsmul_eq_mul] at apart
  rw [← apart, abs_mul, abs_of_pos (by norm_num : (0 : Rat) < 360)] at near
  have none : |(turns : Rat)| < 1 := by linarith
  have none : turns = 0 := Int.abs_lt_one_iff.mp (by exact_mod_cast none)
  rw [none, Int.cast_zero, zero_mul] at apart
  linarith

theorem normalizeLongitude_eq {x y : Rat} (h : x ≡ y [PMOD (360 : Rat)]) (near : |y| < 180) :
    normalizeLongitude x = y := by
  apply eq_of_modEq_of_abs_lt ((normalizeLongitude_modEq x).trans h)
  have range := abs_normalizeLongitude_le x
  have apart := abs_sub y (normalizeLongitude x)
  linarith

end RasterMosaic
