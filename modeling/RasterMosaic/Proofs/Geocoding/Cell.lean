import Mathlib.Tactic.Linarith
import Mathlib.Tactic.Ring
import RasterMosaic.Geocoding.TieGrid

/-!
One cell of a tie-point grid in exact numbers. Its values are linear along every row and column of
the cell, between the least and the greatest sample inside it, and away from a pixel they follow the
gradient there up to the product of the two distances and the twist of the samples.
-/

namespace RasterMosaic

/-- The value at the fraction `t` of the way from `a` to `b`. -/
def linear (a b t : Rat) : Rat := (1 - t) * a + t * b

@[simp] theorem linear_zero (a b : Rat) : linear a b 0 = a := by
  rw [linear, sub_zero, one_mul, zero_mul, add_zero]

@[simp] theorem linear_one (a b : Rat) : linear a b 1 = b := by
  rw [linear, sub_self, zero_mul, one_mul, zero_add]

section Between
variable {a b t bound : Rat} (start : 0 ≤ t) (stop : t ≤ 1)
include start stop

theorem linear_le (ha : a ≤ bound) (hb : b ≤ bound) : linear a b t ≤ bound := by
  have first := mul_le_mul_of_nonneg_left ha (sub_nonneg.mpr stop)
  have second := mul_le_mul_of_nonneg_left hb start
  rw [linear]
  linarith

theorem le_linear (ha : bound ≤ a) (hb : bound ≤ b) : bound ≤ linear a b t := by
  have first := mul_le_mul_of_nonneg_left ha (sub_nonneg.mpr stop)
  have second := mul_le_mul_of_nonneg_left hb start
  rw [linear]
  linarith

end Between

namespace Cell

/-- The sample on the right or the left, below or above. -/
def corner {K : Type} (c : Cell K) : Bool → Bool → K
  | false, false => c.p00
  | true, false => c.p10
  | false, true => c.p01
  | true, true => c.p11

theorem mem_toList_iff {K : Type} {c : Cell K} {p : K} :
    p ∈ c.toList ↔ ∃ right below, c.corner right below = p := by
  constructor
  · simp only [toList, List.mem_cons, List.not_mem_nil, or_false]
    rintro (rfl | rfl | rfl | rfl)
    exacts [⟨false, false, rfl⟩, ⟨true, false, rfl⟩, ⟨false, true, rfl⟩, ⟨true, true, rfl⟩]
  · rintro ⟨right, below, rfl⟩
    cases right <;> cases below <;> simp [toList, corner]

theorem bilinear_eq_rows (c : Cell Rat) (u v : Rat) :
    c.bilinear u v = linear (linear c.p00 c.p10 u) (linear c.p01 c.p11 u) v := by
  change (1 - u) * (1 - v) * c.p00 + u * (1 - v) * c.p10 + (1 - u) * v * c.p01 + u * v * c.p11 = _
  simp only [linear]
  ring

theorem bilinear_eq_columns (c : Cell Rat) (u v : Rat) :
    c.bilinear u v = linear (linear c.p00 c.p01 v) (linear c.p10 c.p11 v) u := by
  rw [bilinear_eq_rows]
  simp only [linear]
  ring

theorem bilinear_left (c : Cell Rat) (v : Rat) : c.bilinear 0 v = linear c.p00 c.p01 v := by
  rw [bilinear_eq_columns, linear_zero]

theorem bilinear_right (c : Cell Rat) (v : Rat) : c.bilinear 1 v = linear c.p10 c.p11 v := by
  rw [bilinear_eq_columns, linear_one]

theorem bilinear_top (c : Cell Rat) (u : Rat) : c.bilinear u 0 = linear c.p00 c.p10 u := by
  rw [bilinear_eq_rows, linear_zero]

theorem bilinear_bottom (c : Cell Rat) (u : Rat) : c.bilinear u 1 = linear c.p01 c.p11 u := by
  rw [bilinear_eq_rows, linear_one]

theorem bilinear_corner (c : Cell Rat) (right below : Bool) :
    c.bilinear right.toNat below.toNat = c.corner right below := by
  rw [bilinear_eq_rows]
  cases right <;> cases below <;> simp [corner]

def least (c : Cell Rat) : Rat := min (min c.p00 c.p10) (min c.p01 c.p11)

def greatest (c : Cell Rat) : Rat := max (max c.p00 c.p10) (max c.p01 c.p11)

theorem bilinear_between (c : Cell Rat) {u v : Rat} (left : 0 ≤ u) (right : u ≤ 1) (top : 0 ≤ v)
    (bottom : v ≤ 1) : c.least ≤ c.bilinear u v ∧ c.bilinear u v ≤ c.greatest := by
  rw [bilinear_eq_rows]
  constructor
  · apply le_linear top bottom
    · exact (min_le_left _ _).trans (le_linear left right (min_le_left _ _) (min_le_right _ _))
    · exact (min_le_right _ _).trans (le_linear left right (min_le_left _ _) (min_le_right _ _))
  · apply linear_le top bottom
    · exact (linear_le left right (le_max_left _ _) (le_max_right _ _)).trans (le_max_left _ _)
    · exact (linear_le left right (le_max_left _ _) (le_max_right _ _)).trans (le_max_right _ _)

/-- How far the samples are from the corners of a parallelogram. -/
def twist (c : Cell Rat) : Rat := c.p00 - c.p10 - c.p01 + c.p11

theorem bilinear_add (c : Cell Rat) (u v du dv : Rat) :
    c.bilinear (u + du) (v + dv) =
      c.bilinear u v + (c.gradient u v).dx * du + (c.gradient u v).dy * dv +
        c.twist * (du * dv) := by
  change _ = _ + ((1 - v) * (c.p10 - c.p00) + v * (c.p11 - c.p01)) * du +
    ((1 - u) * (c.p01 - c.p00) + u * (c.p11 - c.p10)) * dv + _
  simp only [bilinear_eq_rows, linear, twist]
  ring

/-- The samples are at the corners of a parallelogram. -/
def IsParallelogram (c : Cell Rat) : Prop := c.p00 + c.p11 = c.p10 + c.p01

instance (c : Cell Rat) : Decidable c.IsParallelogram := inferInstanceAs (Decidable (_ = _))

section Parallelogram
variable {c : Cell Rat} (straight : c.IsParallelogram)
include straight

theorem IsParallelogram.twist_eq_zero : c.twist = 0 := by
  have straight : c.p00 + c.p11 = c.p10 + c.p01 := straight
  rw [twist]
  linarith

theorem IsParallelogram.gradient_dx (u v : Rat) : (c.gradient u v).dx = c.p10 - c.p00 := by
  have straight : c.p00 + c.p11 = c.p10 + c.p01 := straight
  have opposite : c.p11 - c.p01 = c.p10 - c.p00 := by linarith
  change (1 - v) * (c.p10 - c.p00) + v * (c.p11 - c.p01) = _
  rw [opposite, ← add_mul, sub_add_cancel, one_mul]

theorem IsParallelogram.gradient_dy (u v : Rat) : (c.gradient u v).dy = c.p01 - c.p00 := by
  have straight : c.p00 + c.p11 = c.p10 + c.p01 := straight
  have opposite : c.p11 - c.p10 = c.p01 - c.p00 := by linarith
  change (1 - u) * (c.p01 - c.p00) + u * (c.p11 - c.p10) = _
  rw [opposite, ← add_mul, sub_add_cancel, one_mul]

end Parallelogram

end Cell

end RasterMosaic
