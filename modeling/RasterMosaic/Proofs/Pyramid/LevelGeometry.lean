import RasterMosaic.Proofs.Except
import RasterMosaic.Proofs.Geometry.Affine
import RasterMosaic.Pyramid.LevelGeometry

/-!
The geometry of a pyramid as it is created, and the transforms of its levels in exact numbers. A
level sees the model through the base transform from pixels `2 ^ l` times as large, forward and
back, so the pixels of two levels that show one model point differ by a power of two.
-/

namespace RasterMosaic

namespace LevelGeometry

theorem create_eq_ok_iff {K : Type} [Scalar K] [DecidableLT K] {levelCount : Nat}
    {transform : Affine K} {size : Size} {geometry : LevelGeometry K} :
    create levelCount transform size = .ok geometry ↔
      levelCount ≠ 0 ∧ size.isEmpty = false ∧ ∃ inverse, transform.inverse = .ok inverse ∧
        geometry = ⟨levelCount, size, transform, inverse⟩ := by
  by_cases hlevels : levelCount = 0
  · simp [create, hlevels]
  · cases hsize : size.isEmpty with
    | true => simp [create, hlevels, hsize]
    | false =>
        simp only [create, hlevels, hsize, if_false, Bool.false_eq_true, bind_eq_ok_iff, ne_eq,
          not_false_eq_true, true_and]
        refine exists_congr fun inverse => and_congr_right fun _ => ?_
        exact ⟨fun h => (Except.ok.inj h).symm, congrArg Except.ok ∘ Eq.symm⟩

/-- Why a pyramid is refused: too few levels, then no pixels, then its transform. -/
inductive Refused {K : Type} [Scalar K] [DecidableLT K] (levelCount : Nat)
    (transform : Affine K) (size : Size) : ArgumentError → Prop
  | noLevels (flat : levelCount = 0) : Refused levelCount transform size .noLevels
  | emptyBase (levels : levelCount ≠ 0) (empty : size.isEmpty = true) :
      Refused levelCount transform size (.emptyBase size)
  | singular {cause : ArgumentError} (levels : levelCount ≠ 0) (nonempty : size.isEmpty = false)
      (stuck : transform.inverse = .error cause) : Refused levelCount transform size cause

theorem create_eq_error_iff {K : Type} [Scalar K] [DecidableLT K]
    {levelCount : Nat} {transform : Affine K} {size : Size} {cause : ArgumentError} :
    create levelCount transform size = .error cause ↔
      Refused levelCount transform size cause := by
  constructor
  · intro h
    by_cases flat : levelCount = 0
    · rw [create, if_pos flat] at h
      cases h
      exact .noLevels flat
    · rw [create, if_neg flat] at h
      cases empty : size.isEmpty with
      | true =>
          rw [if_pos empty] at h
          cases h
          exact .emptyBase flat empty
      | false =>
          rw [empty, if_neg Bool.false_ne_true, bind_eq_error_iff] at h
          obtain stuck | ⟨_, _, made⟩ := h
          · exact .singular flat empty stuck
          · cases made
  · intro h
    cases h with
    | noLevels flat => rw [create, if_pos flat]
    | emptyBase levels empty => rw [create, if_neg levels, if_pos empty]
    | singular levels nonempty stuck =>
        rw [create, if_neg levels, nonempty, if_neg Bool.false_ne_true, stuck]
        rfl

section Levels
variable {g : LevelGeometry Rat} {levelCount level a b : Nat} {base : Affine Rat} {size : Size}

theorem pixelScale_eq (small : level < 2 ^ 31) : (pixelScale level : Rat) = 2 ^ level := by
  have word : Int.bmod level (1 <<< 32) = level := Int.bmod_eq_of_le (by omega) (by omega)
  rw [pixelScale, word, scalar_twoZpow]

theorem check_of_inside (inside : level < g.levelCount) : g.check level = .ok () :=
  if_neg (Nat.not_le.mpr inside)

theorem check_of_outside (outside : g.levelCount ≤ level) :
    g.check level = .error (.noSuchLevel level g.levelCount) := if_pos outside

theorem imageToModelAt_eq_ok (inside : level < g.levelCount) (small : level < 2 ^ 31) :
    g.imageToModelAt level = .ok (g.imageToModel.after (.scaling (2 ^ level) (2 ^ level))) := by
  rw [imageToModelAt, check_of_inside inside, pixelScale_eq small]
  rfl

theorem modelToImageAt_eq_ok (inside : level < g.levelCount) (small : level < 2 ^ 31) :
    g.modelToImageAt level =
      .ok ((Affine.scaling (1 / 2 ^ level) (1 / 2 ^ level)).after g.modelToImage) := by
  rw [modelToImageAt, check_of_inside inside, pixelScale_eq small]
  rfl

/-- A level shows at each pixel what the base shows at a pixel `2 ^ level` times as far out, and
leads back from there. So what one level shows at a pixel, a finer one shows at that pixel times
the power of two between them. -/
theorem level_transforms_agree (made : create levelCount base size = .ok g) :
    (∀ level, level < levelCount → level < 2 ^ 31 → ∃ toModel toImage,
      g.imageToModelAt level = .ok toModel ∧ g.modelToImageAt level = .ok toImage ∧
      (∀ x y, toModel.apply x y = base.apply (2 ^ level * x) (2 ^ level * y)) ∧
      (∀ x y, toImage.apply (toModel.apply x y).x (toModel.apply x y).y = ⟨x, y⟩) ∧
      ∀ x y, toModel.apply (toImage.apply x y).x (toImage.apply x y).y = ⟨x, y⟩) ∧
    (∀ a b, a ≤ b → b < levelCount → b < 2 ^ 31 → ∀ fine coarse,
      g.imageToModelAt a = .ok fine → g.imageToModelAt b = .ok coarse →
      ∀ x y x' y', fine.apply x' y' = coarse.apply x y ↔
        x' = 2 ^ (b - a) * x ∧ y' = 2 ^ (b - a) * y) ∧
    ∀ level, levelCount ≤ level →
      g.imageToModelAt level = .error (.noSuchLevel level levelCount) ∧
      g.modelToImageAt level = .error (.noSuchLevel level levelCount) := by
  obtain ⟨_, _, inverse, found, rfl⟩ := create_eq_ok_iff.mp made
  refine ⟨fun level inside small => ?_, fun a b finer inside small fine coarse atA atB => ?_,
    fun level outside => ?_⟩
  · have scale : (2 ^ level : Rat) ≠ 0 := pow_ne_zero level two_ne_zero
    obtain ⟨shrunk, grown⟩ := Affine.scaling_reciprocal scale
    have back := Affine.after_after_eq_identity (Affine.inverse_after found) shrunk
    have forth := Affine.after_after_eq_identity grown (Affine.after_inverse found)
    refine ⟨_, _, imageToModelAt_eq_ok inside small, modelToImageAt_eq_ok inside small,
      fun x y => ?_, fun x y => ?_, fun x y => ?_⟩
    · rw [Affine.apply_after, Affine.apply_scaling]
    · rw [← Affine.apply_after, back, Affine.apply_identity]
    · rw [← Affine.apply_after, forth, Affine.apply_identity]
  · intro x y x' y'
    have split : (2 ^ b : Rat) = 2 ^ a * 2 ^ (b - a) := by
      rw [← pow_add, Nat.add_sub_cancel' finer]
    have scale : (2 ^ a : Rat) ≠ 0 := pow_ne_zero a two_ne_zero
    have insideA : a < levelCount := lt_of_le_of_lt finer inside
    cases (imageToModelAt_eq_ok insideA (lt_of_le_of_lt finer small)).symm.trans atA
    cases (imageToModelAt_eq_ok inside small).symm.trans atB
    rw [Affine.apply_after, Affine.apply_scaling, Affine.apply_after, Affine.apply_scaling,
      Affine.apply_eq_apply_iff found, split, mul_assoc, mul_assoc, mul_right_inj' scale,
      mul_right_inj' scale]
  · constructor
    · rw [imageToModelAt, check_of_outside outside]
      rfl
    · rw [modelToImageAt, check_of_outside outside]
      rfl

theorem level_transforms_agree_sheared :
    ∃ g, create 4 Affine.shearedGrid ⟨1000, 700⟩ = .ok g ∧
      (∃ fine coarse toImage, g.imageToModelAt 1 = .ok fine ∧ g.imageToModelAt 3 = .ok coarse ∧
        g.modelToImageAt 3 = .ok toImage ∧ coarse.apply 1 2 = ⟨500088, 4599838⟩ ∧
        fine.apply 4 8 = ⟨500088, 4599838⟩ ∧ toImage.apply 500088 4599838 = ⟨1, 2⟩) ∧
      g.modelToImageAt 4 = .error (.noSuchLevel 4 4) := by
  have regular : 1 / 2 ^ 52 ≤ |Affine.shearedGrid.det| := by decide +kernel
  obtain ⟨inverse, found, _⟩ := Affine.exists_inverse regular
  have made : create 4 Affine.shearedGrid ⟨1000, 700⟩ =
      .ok ⟨4, ⟨1000, 700⟩, Affine.shearedGrid, inverse⟩ :=
    create_eq_ok_iff.mpr ⟨by decide, rfl, inverse, found, rfl⟩
  have shown : Affine.shearedGrid.apply (2 ^ 3 * 1) (2 ^ 3 * 2) = ⟨500088, 4599838⟩ :=
    congrArg₂ MapPoint.mk (by decide +kernel) (by decide +kernel)
  obtain ⟨levels, pixels, outside⟩ := level_transforms_agree made
  obtain ⟨fine, _, atFine, _⟩ := levels 1 (by decide) (by decide)
  obtain ⟨coarse, toImage, atCoarse, back, forward, returns, _⟩ :=
    levels 3 (by decide) (by decide)
  have there : coarse.apply 1 2 = ⟨500088, 4599838⟩ := (forward 1 2).trans shown
  have same := (pixels 1 3 (by decide) (by decide) (by decide) fine coarse atFine atCoarse
    1 2 4 8).mpr ⟨by norm_num, by norm_num⟩
  have again := returns 1 2
  rw [there] at again
  exact ⟨_, made, ⟨fine, coarse, toImage, atFine, atCoarse, back, there, same.trans there, again⟩,
    (outside 4 (by decide)).2⟩

end Levels

end LevelGeometry
end RasterMosaic
