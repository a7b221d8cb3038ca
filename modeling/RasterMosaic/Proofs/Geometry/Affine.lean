import Mathlib.Tactic.FieldSimp
import Mathlib.Tactic.Ring
import RasterMosaic.Geometry.Affine
import RasterMosaic.Proofs.Scalar.Exact

/-!
Affine transforms in exact numbers. Their composition acts on points as one transform after the
other and has the laws of a group, with the inverse that is computed wherever the determinant does
not count as zero. That inverse is known by what it does, not by its coefficients.
-/

namespace RasterMosaic

attribute [ext] MapPoint Affine

namespace Affine

theorem apply_identity (x y : Rat) : (identity : Affine Rat).apply x y = ⟨x, y⟩ := by
  have hx : (1 : Rat) * x + 0 * y + 0 = x := by ring
  have hy : (0 : Rat) * x + 1 * y + 0 = y := by ring
  exact congrArg₂ MapPoint.mk hx hy

theorem apply_scaling (sx sy x y : Rat) : (scaling sx sy).apply x y = ⟨sx * x, sy * y⟩ := by
  have hx : sx * x + 0 * y + 0 = sx * x := by ring
  have hy : 0 * x + sy * y + 0 = sy * y := by ring
  exact congrArg₂ MapPoint.mk hx hy

theorem apply_after (t u : Affine Rat) (x y : Rat) :
    (t.after u).apply x y = t.apply (u.apply x y).x (u.apply x y).y := by
  ext <;> simp only [apply, after] <;> ring

theorem after_assoc (t u v : Affine Rat) : (t.after u).after v = t.after (u.after v) := by
  ext <;> simp only [after] <;> ring

theorem identity_after (t : Affine Rat) : identity.after t = t := by
  ext <;> simp [after, identity]

theorem after_identity (t : Affine Rat) : t.after identity = t := by
  ext <;> simp [after, identity]

theorem scaling_after_scaling (a b c d : Rat) :
    (scaling a b).after (scaling c d) = scaling (a * c) (b * d) := by
  ext <;> simp [after, scaling]

theorem scaling_one : scaling (1 : Rat) 1 = identity := rfl

theorem scaling_reciprocal {s : Rat} (scale : s ≠ 0) :
    (scaling (1 / s) (1 / s)).after (scaling s s) = identity ∧
      (scaling s s).after (scaling (1 / s) (1 / s)) = identity := by
  rw [scaling_after_scaling, scaling_after_scaling, one_div_mul_cancel scale,
    mul_one_div_cancel scale, scaling_one]
  exact ⟨rfl, rfl⟩

/-- What two compositions undo one by one, they undo together. -/
theorem after_after_eq_identity {t u v w : Affine Rat} (inner : t.after u = identity)
    (outer : w.after v = identity) : (w.after t).after (u.after v) = identity :=
  calc (w.after t).after (u.after v) = w.after ((t.after u).after v) := by
        simp only [after_assoc]
    _ = identity := by rw [inner, identity_after, outer]

theorem det_after (t u : Affine Rat) : (t.after u).det = t.det * u.det := by
  simp only [det, after]
  ring

theorem det_identity : (identity : Affine Rat).det = 1 := by
  simp [det, identity]

theorem leastDet_eq : (leastDet : Rat) = 1 / 2 ^ 52 := by
  have gap : (1 <<< 52 : Nat) = 2 ^ 52 := by decide
  simp only [leastDet, gap]
  norm_num

section Inverse
variable {t i back : Affine Rat}

theorem inverse_of_singular (singular : |t.det| < 1 / 2 ^ 52) :
    t.inverse = .error (.singularTransform (Scalar.toFloat t.det)) := by
  have refused : (decide (Scalar.abs t.det < leastDet) || !Scalar.isFinite t.det) = true := by
    rw [scalar_abs, leastDet_eq, decide_eq_true singular, Bool.true_or]
  rw [inverse, if_pos refused]

theorem exists_inverse (regular : 1 / 2 ^ 52 ≤ |t.det|) :
    ∃ i, t.inverse = .ok i ∧ i.after t = identity ∧ t.after i = identity := by
  have accepted :
      (decide (Scalar.abs t.det < leastDet) || !Scalar.isFinite t.det) = false := by
    rw [scalar_abs, leastDet_eq, decide_eq_false (not_lt.mpr regular)]
    rfl
  have nonzero : t.det ≠ 0 := by
    intro zero
    rw [zero, abs_zero] at regular
    norm_num at regular
  rw [inverse, if_neg (Bool.eq_false_iff.mp accepted)]
  refine ⟨_, rfl, ?_, ?_⟩
  all_goals
    ext
    all_goals
      simp only [after, identity]
      field_simp
      simp only [det]
      push_cast
      ring

/-- The inverse is the one transform that undoes another. -/
theorem inverse_eq_ok_iff :
    t.inverse = .ok i ↔ 1 / 2 ^ 52 ≤ |t.det| ∧ t.after i = identity := by
  constructor
  · intro found
    by_cases singular : |t.det| < 1 / 2 ^ 52
    · rw [inverse_of_singular singular] at found
      cases found
    · have regular := not_lt.mp singular
      obtain ⟨j, same, _, right⟩ := exists_inverse regular
      cases found.symm.trans same
      exact ⟨regular, right⟩
  · rintro ⟨regular, right⟩
    obtain ⟨j, found, left, _⟩ := exists_inverse regular
    have same : j = i :=
      calc j = j.after (t.after i) := by rw [right, after_identity]
        _ = (j.after t).after i := (after_assoc j t i).symm
        _ = i := by rw [left, identity_after]
    exact same ▸ found

theorem inverse_identity : (identity : Affine Rat).inverse = .ok identity := by
  refine inverse_eq_ok_iff.mpr ⟨?_, after_identity _⟩
  rw [det_identity]
  norm_num

theorem inverse_identity_float :
    ∃ inverse, (identity : Affine Float).inverse = .ok inverse := by
  have hregular : (Scalar.abs (identity : Affine Float).det < leastDet ||
      !Scalar.isFinite (identity : Affine Float).det) = false := by decide +kernel
  simp only [inverse, hregular]
  exact ⟨_, rfl⟩

theorem after_inverse (found : t.inverse = .ok i) : t.after i = identity :=
  (inverse_eq_ok_iff.mp found).2

theorem inverse_after (found : t.inverse = .ok i) : i.after t = identity := by
  obtain ⟨regular, _⟩ := inverse_eq_ok_iff.mp found
  obtain ⟨j, same, left, _⟩ := exists_inverse regular
  cases found.symm.trans same
  exact left

theorem apply_inverse_apply (found : t.inverse = .ok i) (x y : Rat) :
    i.apply (t.apply x y).x (t.apply x y).y = ⟨x, y⟩ := by
  rw [← apply_after, inverse_after found, apply_identity]

/-- A transform with an inverse takes no two points to one. -/
theorem apply_eq_apply_iff (found : t.inverse = .ok i) {x y x' y' : Rat} :
    t.apply x y = t.apply x' y' ↔ x = x' ∧ y = y' := by
  constructor
  · intro same
    have back := apply_inverse_apply found x y
    rw [same, apply_inverse_apply found, MapPoint.mk.injEq] at back
    exact ⟨back.1.symm, back.2.symm⟩
  · rintro ⟨rfl, rfl⟩
    rfl

theorem det_inverse (found : t.inverse = .ok i) : i.det = 1 / t.det := by
  have product : t.det * i.det = 1 := by
    rw [← det_after, after_inverse found, det_identity]
  exact eq_one_div_of_mul_eq_one_right product

/-- The inverse of the inverse is there unless the determinant is so large that its reciprocal
counts as zero. -/
theorem inverse_inverse_iff (found : t.inverse = .ok i) :
    i.inverse = .ok back ↔ back = t ∧ |t.det| ≤ 2 ^ 52 := by
  obtain ⟨regular, _⟩ := inverse_eq_ok_iff.mp found
  have positive : 0 < |t.det| := lt_of_lt_of_le (by norm_num) regular
  have size : 1 / 2 ^ 52 ≤ |i.det| ↔ |t.det| ≤ 2 ^ 52 := by
    rw [det_inverse found, abs_div, abs_one, one_div_le_one_div (by norm_num) positive]
  have undone : i.after back = identity ↔ back = t := by
    constructor
    · intro right
      calc back = (t.after i).after back := by rw [after_inverse found, identity_after]
        _ = t.after (i.after back) := after_assoc t i back
        _ = t := by rw [right, after_identity]
    · rintro rfl
      exact inverse_after found
  rw [inverse_eq_ok_iff, size, undone, and_comm]

end Inverse

/-- Transforms act on points as a group does: composing them applies one after the other, is
associative and has the identity for its neutral element, determinants multiply, and an inverse
undoes its transform on either side. -/
theorem acts_as_group :
    (∀ (t u : Affine Rat) (x y : Rat),
      (t.after u).apply x y = t.apply (u.apply x y).x (u.apply x y).y ∧
      (t.before u).apply x y = u.apply (t.apply x y).x (t.apply x y).y) ∧
    (∀ t u v : Affine Rat, (t.after u).after v = t.after (u.after v)) ∧
    (∀ t : Affine Rat, identity.after t = t ∧ t.after identity = t) ∧
    (∀ t u : Affine Rat, (t.after u).det = t.det * u.det) ∧
    (∀ t : Affine Rat, (∃ i, t.inverse = .ok i) ↔ 1 / 2 ^ 52 ≤ |t.det|) ∧
    (∀ t i : Affine Rat, t.inverse = .ok i →
      i.after t = identity ∧ t.after i = identity ∧ i.det = 1 / t.det ∧
      ∀ back, i.inverse = .ok back ↔ back = t ∧ |t.det| ≤ 2 ^ 52) := by
  refine ⟨fun t u x y => ⟨apply_after t u x y, apply_after u t x y⟩, after_assoc,
    fun t => ⟨identity_after t, after_identity t⟩, det_after, fun t => ?_, fun t i found => ?_⟩
  · constructor
    · rintro ⟨i, found⟩
      exact (inverse_eq_ok_iff.mp found).1
    · intro regular
      obtain ⟨i, found, _⟩ := exists_inverse regular
      exact ⟨i, found⟩
  · exact ⟨inverse_after found, after_inverse found, det_inverse found,
      fun back => inverse_inverse_iff found⟩

/-- A map grid that is sheared both ways, with rows that run southward. -/
def shearedGrid : Affine Rat := ⟨10, 1 / 2, 500000, -1 / 4, -10, 4600000⟩

theorem acts_as_group_sheared : ∃ i, shearedGrid.inverse = .ok i ∧
    i.after shearedGrid = identity ∧ shearedGrid.after i = identity ∧ i.det = -8 / 799 ∧
    i.inverse = .ok shearedGrid := by
  have det : shearedGrid.det = -799 / 8 := by decide +kernel
  obtain ⟨_, _, _, _, accepted, inverts⟩ := acts_as_group
  have regular : 1 / 2 ^ 52 ≤ |shearedGrid.det| := by
    rw [det]
    decide +kernel
  obtain ⟨i, found⟩ := (accepted shearedGrid).mpr regular
  obtain ⟨left, right, reciprocal, back⟩ := inverts shearedGrid i found
  refine ⟨i, found, left, right, ?_, (back shearedGrid).mpr ⟨rfl, ?_⟩⟩
  · rw [reciprocal, det]
    norm_num
  · rw [det]
    decide +kernel

end Affine
end RasterMosaic
