import RasterMosaic.Geocoding.MapGeocoding
import RasterMosaic.Proofs.Crs.Registry
import RasterMosaic.Proofs.Geometry.Affine

/-!
The way back from a place to a pixel in a map, in exact numbers. A map is created for pixels of any
size but zero, and shows every pixel whose map position its system can project. From the place shown
it finds the pixel again, unless the area of a pixel is so small that the transform of the map
counts as singular; then it finds none.
-/

namespace RasterMosaic

section Undone
variable [MapProjection Rat]

/-- Wherever the projection has a place for a map position, it leads back from there. -/
def Projection.IsUndone (projection : Projection) : Prop :=
  ∀ (map : MapPoint Rat) (place : GeoPoint Rat),
    MapProjection.toGeographic projection map = .ok place →
      MapProjection.fromGeographic projection place = .ok map

theorem ReferenceSystem.fromGeographic_of_toGeographic {system : ReferenceSystem}
    (undone : ∀ projection, system.kind = .projected projection → projection.IsUndone)
    {map : MapPoint Rat} {place : GeoPoint Rat} (shown : system.toGeographic map = .ok place) :
    system.fromGeographic place = .ok map := by
  cases kind : system.kind with
  | geographic =>
      simp only [toGeographic, kind] at shown
      cases shown
      simp only [fromGeographic, kind]
  | unavailable cause =>
      simp only [toGeographic, kind] at shown
      cases shown
  | projected projection =>
      simp only [toGeographic, kind, mapError_eq_ok_iff] at shown
      simp only [fromGeographic, kind, mapError_eq_ok_iff]
      exact undone projection kind map place shown

end Undone

namespace MapGeocoding

theorem create_eq_ok_iff {K : Type} [Scalar K] {system : ReferenceSystem} {size : Size}
    {easting northing pixelX pixelY refX refY : K} {g : MapGeocoding K} :
    create system size easting northing pixelX pixelY refX refY = .ok g ↔
      size.isEmpty = false ∧ (pixelX == ((0 : Nat) : K)) = false ∧
        (pixelY == ((0 : Nat) : K)) = false ∧
        g = ⟨system, size, ⟨pixelX, (0 : Nat), easting - refX * pixelX, (0 : Nat), -pixelY,
          northing + refY * pixelY⟩⟩ := by
  cases empty : size.isEmpty with
  | true => simp [create, empty]
  | false =>
      cases stepX : pixelX == ((0 : Nat) : K) with
      | true => simp [create, empty, stepX]
      | false =>
          cases stepY : pixelY == ((0 : Nat) : K) with
          | true => simp [create, empty, stepX, stepY]
          | false => simp [create, empty, stepX, stepY, eq_comm]

section Created
variable {system : ReferenceSystem} {size : Size}
  {easting northing pixelX pixelY refX refY : Rat} {g : MapGeocoding Rat}

variable (made : create system size easting northing pixelX pixelY refX refY = .ok g)
include made

theorem system_of_create : g.system = system := by
  obtain ⟨_, _, _, rfl⟩ := create_eq_ok_iff.mp made
  rfl

theorem det_of_create : g.imageToMap.det = -(pixelX * pixelY) := by
  obtain ⟨_, _, _, rfl⟩ := create_eq_ok_iff.mp made
  simp [Affine.det]

theorem apply_of_create (p : PixelPoint Rat) :
    g.imageToMap.apply p.x p.y =
      ⟨easting + (p.x - refX) * pixelX, northing - (p.y - refY) * pixelY⟩ := by
  obtain ⟨_, _, _, rfl⟩ := create_eq_ok_iff.mp made
  ext <;> simp only [Affine.apply] <;> ring

end Created

section Back
variable [MapProjection Rat] {g : MapGeocoding Rat} {map : MapPoint Rat} {place : GeoPoint Rat}

theorem toPixel_of_inverse {i : Affine Rat} (mapped : g.system.fromGeographic place = .ok map)
    (found : g.imageToMap.inverse = .ok i) :
    g.toPixel place = .ok ⟨(i.apply map.x map.y).x, (i.apply map.x map.y).y⟩ := by
  rw [toPixel, mapped, found]
  rfl

theorem toPixel_of_singular (mapped : g.system.fromGeographic place = .ok map)
    (singular : |g.imageToMap.det| < 1 / 2 ^ 52) :
    g.toPixel place =
      .error (.badArgument (.singularTransform (Scalar.toFloat g.imageToMap.det))) := by
  rw [toPixel, mapped, Affine.inverse_of_singular singular]
  rfl

/-- In a system whose projection leads back, the pixels of a map lie as its reference pixel and its
steps say, a geographic system shows all of them, and each is found again from the place it shows
when the area of a pixel does not count as zero. When it does, no pixel is found. -/
theorem pixels_found_again {system : ReferenceSystem} {size : Size}
    {easting northing pixelX pixelY refX refY : Rat}
    (made : create system size easting northing pixelX pixelY refX refY = .ok g)
    (undone : ∀ projection, system.kind = .projected projection → projection.IsUndone) :
    (∀ p, g.toGlobe p =
      (system.toGeographic
        ⟨easting + (p.x - refX) * pixelX, northing - (p.y - refY) * pixelY⟩).mapError
          .badSystem) ∧
    (system.kind = .geographic → ∀ p, ∃ place, g.toGlobe p = .ok place) ∧
    (1 / 2 ^ 52 ≤ |pixelX * pixelY| →
      ∀ p place, g.toGlobe p = .ok place → g.toPixel place = .ok p) ∧
    (|pixelX * pixelY| < 1 / 2 ^ 52 → ∀ p place, g.toGlobe p = .ok place →
      g.toPixel place =
        .error (.badArgument (.singularTransform (Scalar.toFloat (-(pixelX * pixelY)))))) := by
  have same := system_of_create made
  have det := det_of_create made
  have area : |g.imageToMap.det| = |pixelX * pixelY| := by rw [det, abs_neg]
  have mapped : ∀ p place, g.toGlobe p = .ok place →
      g.system.fromGeographic place = .ok (g.imageToMap.apply p.x p.y) := by
    intro p place shown
    rw [toGlobe, mapError_eq_ok_iff] at shown
    exact ReferenceSystem.fromGeographic_of_toGeographic (same ▸ undone) shown
  refine ⟨fun p => ?_, fun geographic p => ?_, fun regular p place shown => ?_,
    fun singular p place shown => ?_⟩
  · rw [toGlobe, same, apply_of_create made]
  · rw [toGlobe, same, ReferenceSystem.toGeographic, geographic]
    exact ⟨_, rfl⟩
  · obtain ⟨i, found, _⟩ := Affine.exists_inverse (area ▸ regular)
    rw [toPixel_of_inverse (mapped p place shown) found, Affine.apply_inverse_apply found]
  · rw [toPixel_of_singular (mapped p place shown) (area ▸ singular), det]

end Back

/-- The projection of the thirty-third zone where its central meridian crosses the equator. -/
@[reducible] def meridianPoint : MapProjection Rat where
  toGeographic projection map :=
    if projection = .utm 33 .north .wgs84 ∧ map.x = 500000 ∧ map.y = 0 then .ok ⟨0, 15⟩
    else .error .inverseOutsideDomain
  fromGeographic projection place :=
    if projection = .utm 33 .north .wgs84 ∧ place.lat = 0 ∧ place.lon = 15 then .ok ⟨500000, 0⟩
    else .error .outsideDomain

theorem isUndone_meridianPoint (projection : Projection) :
    @Projection.IsUndone meridianPoint projection := by
  intro map place shown
  simp only [MapProjection.toGeographic] at shown
  split at shown
  · rename_i known
    obtain ⟨rfl, x, y⟩ := known
    cases shown
    obtain ⟨_, _⟩ := map
    cases x
    cases y
    rfl
  · cases shown

/-- The system of the thirty-third zone in the north. -/
def zoneSystem : ReferenceSystem where
  epsg := 32633
  kind := .projected (.utm 33 .north .wgs84)
  parameters := "+proj=utm +zone=33 +datum=WGS84 +units=m +no_defs"

/-- Pixels of 10 by 20 metres, the first of which has its middle a kilometre west and two kilometres
north of the crossing. -/
theorem pixels_found_again_zone :
    letI : MapProjection Rat := meridianPoint
    ∃ g : MapGeocoding Rat,
      create zoneSystem ⟨1000, 800⟩ 499000 2000 10 20 (1 / 2) (1 / 2) = .ok g ∧
      g.toGlobe ⟨201 / 2, 201 / 2⟩ = .ok ⟨0, 15⟩ ∧ g.toPixel ⟨0, 15⟩ = .ok ⟨201 / 2, 201 / 2⟩ := by
  let _ : MapProjection Rat := meridianPoint
  have made : create zoneSystem ⟨1000, 800⟩ (499000 : Rat) 2000 10 20 (1 / 2) (1 / 2) = .ok _ :=
    create_eq_ok_iff.mpr ⟨rfl, rfl, rfl, rfl⟩
  obtain ⟨shows, _, again, _⟩ :=
    pixels_found_again made fun projection _ => isUndone_meridianPoint projection
  have shown := shows ⟨201 / 2, 201 / 2⟩
  have crossing : (⟨499000 + (201 / 2 - 1 / 2) * 10, 2000 - (201 / 2 - 1 / 2) * 20⟩ :
      MapPoint Rat) = ⟨500000, 0⟩ := by norm_num
  rw [crossing] at shown
  exact ⟨_, made, shown, again (by norm_num) _ _ shown⟩

/-- Pixels of about eight nanodegrees are accepted and shown, and none of them is found again. -/
theorem fine_pixels_not_found :
    letI : MapProjection Rat := meridianPoint
    ∃ system g, Crs.find "EPSG:4326" = .ok system ∧
      create system ⟨2, 2⟩ 0 0 (1 / 2 ^ 27) (1 / 2 ^ 27) 0 0 = .ok g ∧
      g.toGlobe ⟨1, 1⟩ = .ok (⟨-1 / 2 ^ 27, 1 / 2 ^ 27⟩ : GeoPoint Rat) ∧
      ∃ det, g.toPixel ⟨-1 / 2 ^ 27, 1 / 2 ^ 27⟩ =
        .error (.badArgument (.singularTransform det)) := by
  let _ : MapProjection Rat := meridianPoint
  have step : ((1 / 2 ^ 27 : Rat) == ((0 : Nat) : Rat)) = false := by decide +kernel
  have made : create Crs.worldSystem ⟨2, 2⟩ (0 : Rat) 0 (1 / 2 ^ 27) (1 / 2 ^ 27) 0 0 = .ok _ :=
    create_eq_ok_iff.mpr ⟨rfl, step, step, rfl⟩
  refine ⟨_, _, Crs.find_world Crs.lists_world, made, ?_, _, toPixel_of_singular rfl ?_⟩
  · rw [toGlobe, apply_of_create made]
    norm_num [ReferenceSystem.toGeographic, Crs.worldSystem]
    rfl
  · rw [det_of_create made]
    norm_num

end MapGeocoding
end RasterMosaic
