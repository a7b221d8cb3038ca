import Mathlib.Tactic.FieldSimp
import Mathlib.Tactic.LinearCombination
import Mathlib.Tactic.Ring
import RasterMosaic.Proofs.Geometry.Affine
import RasterMosaic.Proofs.Product.Building

/-!
Where the pixels of a band lie in the model space of its scene, in exact numbers. A band without
an anchor that has the size of the scene lies where the scene does. One of another size is
stretched over the pixels of the scene and not over its map, so the two lie alike just where the
map of the scene, if there is one, leaves every pixel at its place.
-/

namespace RasterMosaic

namespace Affine

/-- The model point at a relative position within a raster. -/
def pointAt (t : Affine Rat) (size : Size) (u v : Rat) : MapPoint Rat :=
  t.apply (u * (size.width : Rat)) (v * (size.height : Rat))

/-- Stretched over a scene, a raster has the points of the scene's own pixels. -/
theorem pointAt_stretch {raster : Size} (nonempty : raster.isEmpty = false) (scene : Size)
    (u v : Rat) :
    (scaling ((scene.width : Rat) / (raster.width : Rat))
      ((scene.height : Rat) / (raster.height : Rat))).pointAt raster u v =
        (identity : Affine Rat).pointAt scene u v := by
  obtain ⟨hwidth, hheight⟩ := (Size.isEmpty_eq_false_iff _).mp nonempty
  have width : (raster.width : Rat) ≠ 0 := Nat.cast_ne_zero.mpr hwidth.ne'
  have height : (raster.height : Rat) ≠ 0 := Nat.cast_ne_zero.mpr hheight.ne'
  have hx : (scene.width : Rat) / raster.width * (u * raster.width) = u * scene.width := by
    field_simp
  have hy : (scene.height : Rat) / raster.height * (v * raster.height) = v * scene.height := by
    field_simp
  rw [pointAt, apply_scaling, pointAt, apply_identity]
  exact congrArg₂ MapPoint.mk hx hy

/-- A transform that leaves three corners of a raster at their places is the identity. -/
theorem eq_identity_of_corners {t : Affine Rat} {size : Size} (nonempty : size.isEmpty = false)
    (corner : t.pointAt size 0 0 = (identity : Affine Rat).pointAt size 0 0)
    (right : t.pointAt size 1 0 = (identity : Affine Rat).pointAt size 1 0)
    (below : t.pointAt size 0 1 = (identity : Affine Rat).pointAt size 0 1) : t = identity := by
  obtain ⟨hwidth, hheight⟩ := (Size.isEmpty_eq_false_iff _).mp nonempty
  have width : (size.width : Rat) ≠ 0 := Nat.cast_ne_zero.mpr hwidth.ne'
  have height : (size.height : Rat) ≠ 0 := Nat.cast_ne_zero.mpr hheight.ne'
  simp only [pointAt, apply_identity] at corner right below
  simp only [apply, MapPoint.mk.injEq, zero_mul, mul_zero, zero_add, add_zero, one_mul]
    at corner right below
  obtain ⟨shiftX, shiftY⟩ := corner
  have scaleX : t.scaleX = 1 :=
    mul_right_cancel₀ width (by linear_combination right.1 - shiftX)
  have shearY : t.shearY = 0 :=
    mul_right_cancel₀ width (by linear_combination right.2 - shiftY)
  have shearX : t.shearX = 0 :=
    mul_right_cancel₀ height (by linear_combination below.1 - shiftX)
  have scaleY : t.scaleY = 1 :=
    mul_right_cancel₀ height (by linear_combination below.2 - shiftY)
  obtain ⟨_, _, _, _, _, _⟩ := t
  subst scaleX shearY shearX scaleY shiftX shiftY
  rfl

end Affine

namespace Product

/-- Bands without an anchor, in exact numbers: one of the scene's size shows at every relative
position the point that the scene shows there, and one of another size the scene's pixel. So all
do as the scene does where it has no anchor, and where it has one, those whose size is the scene's
or whose scene has a map that moves nothing. -/
theorem points_of_unanchored_band [CrsRegistry] {S : Type} {n : Nat} [LevelSource S]
    {name : String} {scene : SceneReference Rat} {inputs : List (BandInput Rat n)} {config : Config}
    {sources : Vector S n} {p : Product Rat n}
    (built : build name scene inputs config sources = .ok p) {band : Band Rat n}
    (hmem : band ∈ p.bands) (unanchored : band.description.reference.anchor = none) :
    let size := band.description.reference.size
    let whole : Affine Rat := (p.geocoding.map Geocoding.imageToModel).getD .identity
    (size = p.size →
      ∀ u v, band.imageToModel.pointAt size u v = whole.pointAt p.size u v) ∧
    (size ≠ p.size →
      ∀ u v, band.imageToModel.pointAt size u v =
        (.identity : Affine Rat).pointAt p.size u v) ∧
    (scene.anchor = none →
      ∀ u v, band.imageToModel.pointAt size u v = whole.pointAt p.size u v) ∧
    ((∀ u v, 0 ≤ u → u ≤ 1 → 0 ≤ v → v ≤ 1 →
        band.imageToModel.pointAt size u v = whole.pointAt p.size u v) ↔
      size = p.size ∨ whole = .identity) := by
  intro size whole
  obtain ⟨_, _, covers, _, ofScene, geocoding, bands⟩ := isBuiltFrom_of_build built
  obtain ⟨input, _, made⟩ := exists_of_mem_forall₂ bands.flip hmem
  have nonempty : size.isEmpty = false := made.covers
  have transform : band.imageToModel =
      (band.description.reference.position scene).transform scene.geocoding? := by
    rw [made.imageToModel, made.description]
    rfl
  have whole_eq : whole = scene.imageToModel := by
    simp only [whole, geocoding]
    rfl
  have alike : size = p.size →
      ∀ u v, band.imageToModel.pointAt size u v = whole.pointAt p.size u v := by
    intro same u v
    have unstretched := same.trans ofScene
    rw [transform, BandReference.transform_of_alike unanchored (.inl unstretched), whole_eq, same]
  have stretched : size ≠ p.size → ∀ u v, band.imageToModel.pointAt size u v =
      (.identity : Affine Rat).pointAt p.size u v := by
    intro other u v
    rw [ofScene] at other ⊢
    rw [transform, BandReference.transform_of_other unanchored other nonempty]
    exact Affine.pointAt_stretch nonempty scene.size u v
  have agree : size = p.size ∨ whole = .identity →
      ∀ u v, band.imageToModel.pointAt size u v = whole.pointAt p.size u v := by
    intro h u v
    by_cases same : size = p.size
    · exact alike same u v
    · rw [stretched same, h.resolve_left same]
  refine ⟨alike, stretched, fun unanchored => agree (.inr ?_), fun h => ?_,
    fun h u v _ _ _ _ => agree h u v⟩
  · rw [whole_eq, SceneReference.imageToModel_of_loose unanchored]
  · by_cases same : size = p.size
    · exact .inl same
    · -- The corners of a stretched band are the corners of the scene's pixels.
      rw [ofScene] at h
      simp only [ofScene ▸ stretched same] at h
      refine .inr (Affine.eq_identity_of_corners covers ?_ ?_ ?_)
      · exact (h 0 0 (by decide) (by decide) (by decide) (by decide)).symm
      · exact (h 1 0 (by decide) (by decide) (by decide) (by decide)).symm
      · exact (h 0 1 (by decide) (by decide) (by decide) (by decide)).symm

theorem imageToModel_northScene [CrsRegistry]
    (listed : CrsRegistry.parameters? 4326 = some Crs.worldParameters) :
    (northScene Rat).imageToModel = ⟨1, 0, 10, 0, -1, 50⟩ := by
  rw [SceneReference.imageToModel, geocoding?_northScene listed (by decide +kernel)]
  simp [Geocoding.imageToModel, northMap]

theorem points_of_unanchored_band_north : ∃ p band,
    build "north" (northScene Rat) [bareInput Rat "half" 0] {} #v[halfSource] = .ok p ∧
    band ∈ p.bands ∧ band.description.reference.anchor = none ∧
    (∀ u v, band.imageToModel.pointAt ⟨2, 1⟩ u v = (.identity : Affine Rat).pointAt ⟨4, 2⟩ u v) ∧
    ¬ ∀ u v, 0 ≤ u → u ≤ 1 → 0 ≤ v → v ≤ 1 →
      band.imageToModel.pointAt ⟨2, 1⟩ u v = (northScene Rat).imageToModel.pointAt ⟨4, 2⟩ u v := by
  obtain ⟨band, built, made⟩ := build_half "north" (northScene Rat) rfl (by decide +kernel)
  have unanchored : band.description.reference.anchor = none := by
    rw [made.description]
    rfl
  have size : band.description.reference.size = ⟨2, 1⟩ := by
    rw [made.description]
    rfl
  have stretched : (⟨2, 1⟩ : Size) ≠ ⟨4, 2⟩ := by decide
  obtain ⟨_, other, _, agree⟩ :=
    points_of_unanchored_band built List.mem_cons_self unanchored
  rw [size] at other agree
  refine ⟨_, band, built, List.mem_cons_self, unanchored, other stretched, fun all => ?_⟩
  obtain same | unmoved := agree.mp all
  · exact stretched same
  · have moves : (northScene Rat).imageToModel = .identity := unmoved
    rw [imageToModel_northScene Crs.lists_world] at moves
    cases congrArg Affine.shiftX moves

/-- The last corner of the scene is 14 and 48 in its map, and that of its band is 4 and 2. -/
theorem half_band_off_the_map : ∃ p band,
    build "north" (northScene Rat) [bareInput Rat "half" 0] {} #v[halfSource] = .ok p ∧
    band ∈ p.bands ∧ band.description.reference.anchor = none ∧
    band.imageToModel.pointAt band.description.reference.size 1 1 = ⟨4, 2⟩ ∧
    ((p.geocoding.map Geocoding.imageToModel).getD .identity).pointAt p.size 1 1 =
      ⟨14, 48⟩ := by
  obtain ⟨band, built, made⟩ := build_half "north" (northScene Rat) rfl (by decide +kernel)
  refine ⟨_, band, built, List.mem_cons_self, ?_, ?_, ?_⟩
  · rw [made.description]
    rfl
  · rw [made.description, made.imageToModel, imageToModel_bareInput (by decide) rfl]
    exact congrArg₂ MapPoint.mk (by decide +kernel) (by decide +kernel)
  · change (northScene Rat).imageToModel.pointAt ⟨4, 2⟩ 1 1 = _
    rw [imageToModel_northScene Crs.lists_world]
    exact congrArg₂ MapPoint.mk (by decide +kernel) (by decide +kernel)

end Product
end RasterMosaic
