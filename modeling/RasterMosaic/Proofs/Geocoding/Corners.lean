import Mathlib.Tactic.FieldSimp
import Mathlib.Tactic.Linarith
import RasterMosaic.Geocoding.Reference
import RasterMosaic.Proofs.Geocoding.CornerGrid
import RasterMosaic.Proofs.Geocoding.MapGeocoding

/-!
Rasters placed by their corners against rasters placed in a map, in exact numbers. Between corners
that follow from a lower left position and pixel steps lie the places of a geographic map, with one
exception: an extent of more than half a turn from a western longitude is taken for one across the
antimeridian, and shown the other way round the globe.
-/

namespace RasterMosaic

open AddCommGroup

/-- Between corners, latitudes are bilinear, and longitudes after western ones may have been moved
by a turn. -/
theorem TieGeocoding.ofCorners_toGlobe (lats lons : Corners Rat) (offset : PixelPoint Rat)
    {raster : Size} (nonempty : raster.isEmpty = false) :
    ∃ g, ofCorners lats lons offset.x offset.y raster = .ok g ∧
      ∀ p : PixelPoint Rat, g.toGlobe p =
        let u := (p.x - offset.x) / raster.width
        let v := (p.y - offset.y) / raster.height
        ⟨lats.cell.bilinear u v, normalizeLongitude (lons.cell.unwrapped.bilinear u v)⟩ :=
  ⟨placed lats lons offset raster, ofCorners_eq_ok_iff.mpr ⟨nonempty, rfl⟩, toGlobe_placed _ _ _ _⟩

namespace Cell

theorem bilinear_columns (left right u v : Rat) :
    (⟨left, right, left, right⟩ : Cell Rat).bilinear u v = left + u * (right - left) := by
  simp only [bilinear_eq_rows, linear]
  ring

theorem bilinear_rows (upper lower u v : Rat) :
    (⟨upper, upper, lower, lower⟩ : Cell Rat).bilinear u v = upper + v * (lower - upper) := by
  simp only [bilinear_eq_rows, linear]
  ring

theorem crossesAntimeridian_columns {left width : Rat} (positive : 0 < width) :
    (⟨left, left + width, left, left + width⟩ : Cell Rat).crossesAntimeridian =
      decide (180 < width) := by
  have none : ¬ (180 : Rat) < 0 := by decide
  have back : ¬ (180 : Rat) < -width := by linarith
  change ([left, left + width, left, left + width].any fun a =>
    [left, left + width, left, left + width].any fun b => decide ((180 : Rat) < a - b)) = _
  simp [none, back]

/-- The longitudes of the left edge are moved by a turn when they are western and the extent is
more than half a turn; all others are taken as they are. -/
theorem unwrapped_columns {left width : Rat} (positive : 0 < width) (west : -180 ≤ left) :
    (⟨left, left + width, left, left + width⟩ : Cell Rat).unwrapped =
      if 180 < width ∧ left < 0 then ⟨left + 360, left + width, left + 360, left + width⟩
      else ⟨left, left + width, left, left + width⟩ := by
  rw [unwrapped, crossesAntimeridian_columns positive]
  by_cases wide : 180 < width
  · have right : ¬ left + width < 0 := by linarith
    rw [if_pos (decide_eq_true wide)]
    change Cell.mk (if left < 0 then left + 360 else left)
      (if left + width < 0 then left + width + 360 else left + width)
      (if left < 0 then left + 360 else left)
      (if left + width < 0 then left + width + 360 else left + width) = _
    rw [if_neg right]
    by_cases negative : left < 0
    · rw [if_pos negative, if_pos ⟨wide, negative⟩]
    · rw [if_neg negative, if_neg fun both => negative both.2]
  · rw [decide_eq_false wide, if_neg Bool.false_ne_true, if_neg fun both => wide both.1]

end Cell

namespace MapAnchor

/-- The place of a pixel position on a raster whose lower left corner is anchored. -/
def place (origin : MapAnchor Rat) (size : Size) (p : PixelPoint Rat) : GeoPoint Rat where
  lat := origin.y + (size.height - p.y) * origin.stepY
  lon := origin.x + p.x * origin.stepX

/-- The anchor of the upper left corner, with the same steps. -/
def raised (origin : MapAnchor Rat) (size : Size) : MapAnchor Rat :=
  { origin with y := origin.y + size.height * origin.stepY }

/-- More than half a turn wide, from a western longitude on. -/
def TakenForCrossing (origin : MapAnchor Rat) (size : Size) : Prop :=
  180 < size.width * origin.stepX ∧ origin.x < 0

theorem toGlobe_raised [MapProjection Rat] {origin : MapAnchor Rat} {size : Size}
    (nonempty : size.isEmpty = false) (stepX : 0 < origin.stepX) (stepY : 0 < origin.stepY)
    {system : ReferenceSystem} (geographic : system.kind = .geographic) :
    ∃ mapped, MapGeocoding.ofAnchor system size (origin.raised size) = .ok mapped ∧
      ∀ p, mapped.toGlobe p = .ok (origin.place size p) := by
  have zeroX : (origin.stepX == ((0 : Nat) : Rat)) = false := by simp [stepX.ne']
  have zeroY : (origin.stepY == ((0 : Nat) : Rat)) = false := by simp [stepY.ne']
  have made : MapGeocoding.ofAnchor system size (origin.raised size) = .ok _ :=
    MapGeocoding.create_eq_ok_iff.mpr ⟨nonempty, zeroX, zeroY, rfl⟩
  refine ⟨_, made, fun p => ?_⟩
  rw [MapGeocoding.toGlobe, MapGeocoding.apply_of_create made]
  simp only [ReferenceSystem.toGeographic, geographic]
  refine congrArg Except.ok (congrArg₂ GeoPoint.mk ?_ ?_)
  · simp only [raised]
    push_cast
    ring
  · simp only [raised]
    push_cast
    ring

end MapAnchor

/-- Two places are one: the latitudes are equal, the longitudes up to whole turns. -/
def GeoPoint.SamePlace (a b : GeoPoint Rat) : Prop :=
  a.lat = b.lat ∧ a.lon ≡ b.lon [PMOD (360 : Rat)]

namespace TieGeocoding

theorem ofLowerLeft_toGlobe {origin : MapAnchor Rat} {size : Size}
    (nonempty : size.isEmpty = false) (stepX : 0 < origin.stepX) (west : -180 ≤ origin.x) :
    let corners := CornerPositions.ofLowerLeft origin size
    ∃ tied, ofCorners corners.lats corners.lons 0 0 size = .ok tied ∧
      ∀ p, (tied.toGlobe p).lat = (origin.place size p).lat ∧
        (¬ origin.TakenForCrossing size →
          (tied.toGlobe p).lon ≡ (origin.place size p).lon [PMOD (360 : Rat)]) ∧
        (origin.TakenForCrossing size →
          (tied.toGlobe p).lon ≡
            origin.x - p.x * (360 / size.width - origin.stepX) [PMOD (360 : Rat)]) := by
  intro corners
  obtain ⟨hwidth, hheight⟩ := (Size.isEmpty_eq_false_iff _).mp nonempty
  have width : (size.width : Rat) ≠ 0 := Nat.cast_ne_zero.mpr hwidth.ne'
  have height : (size.height : Rat) ≠ 0 := Nat.cast_ne_zero.mpr hheight.ne'
  have extent : 0 < size.width * origin.stepX := mul_pos (Nat.cast_pos.mpr hwidth) stepX
  have lats : corners.lats.cell = ⟨origin.y + size.height * origin.stepY,
    origin.y + size.height * origin.stepY, origin.y, origin.y⟩ := rfl
  have lons : corners.lons.cell = ⟨origin.x, origin.x + size.width * origin.stepX, origin.x,
    origin.x + size.width * origin.stepX⟩ := rfl
  obtain ⟨tied, made, shows⟩ := ofCorners_toGlobe corners.lats corners.lons ⟨0, 0⟩ nonempty
  refine ⟨tied, made, fun p => ?_⟩
  rw [shows, lats, lons, Cell.unwrapped_columns extent west]
  simp only [Cell.bilinear_rows, sub_zero]
  refine ⟨?_, fun plain => ?_, fun taken => ?_⟩
  · simp only [MapAnchor.place]
    field_simp
    ring
  · have plain : ¬ (180 < size.width * origin.stepX ∧ origin.x < 0) := plain
    rw [if_neg plain, Cell.bilinear_columns]
    refine (normalizeLongitude_modEq _).trans ?_
    have there : origin.x + p.x / size.width * (origin.x + size.width * origin.stepX - origin.x) =
        (origin.place size p).lon := by
      simp only [MapAnchor.place]
      field_simp
      ring
    rw [there]
  · have taken : 180 < size.width * origin.stepX ∧ origin.x < 0 := taken
    rw [if_pos taken, Cell.bilinear_columns]
    refine (normalizeLongitude_modEq _).trans ?_
    refine modEq_iff_zsmul.mpr ⟨-1, ?_⟩
    rw [neg_one_zsmul]
    field_simp
    ring

end TieGeocoding

/-- Across a raster, the share of a turn is whole on its two edges only. -/
theorem whole_turns_iff {x width : Rat} (positive : 0 < width) (left : 0 ≤ x)
    (right : x ≤ width) :
    (∃ turns : ℤ, turns • (360 : Rat) = x / width * 360) ↔ x = 0 ∨ x = width := by
  constructor
  · rintro ⟨turns, whole⟩
    rw [zsmul_eq_mul] at whole
    have share : (turns : Rat) = x / width := mul_right_cancel₀ (by norm_num) whole
    have least : (0 : Rat) ≤ turns := share ▸ div_nonneg left positive.le
    have most : (turns : Rat) ≤ 1 := share ▸ div_le_one_of_le₀ right positive.le
    have least : 0 ≤ turns := by exact_mod_cast least
    have most : turns ≤ 1 := by exact_mod_cast most
    obtain rfl | rfl : turns = 0 ∨ turns = 1 := by omega
    · exact .inl ((div_eq_zero_iff.mp (by simpa using share.symm)).resolve_right positive.ne')
    · exact .inr ((div_eq_one_iff_eq positive.ne').mp (by simpa using share.symm))
  · rintro (edge | edge)
    · exact ⟨0, by rw [edge, zero_div, zero_mul, zero_zsmul]⟩
    · exact ⟨1, by rw [edge, div_self positive.ne', one_mul, one_zsmul]⟩

/-- A raster placed by the corners that follow from its lower left one is where a geographic map
from its upper left corner has it, up to whole turns, unless it is taken for one across the
antimeridian. Then its longitudes run westward from the left edge to the right one, and only on
these two edges does it lie where the map has it. -/
theorem corners_versus_map {origin : MapAnchor Rat} {size : Size}
    (nonempty : size.isEmpty = false) (west : -180 ≤ origin.x) (stepX : 0 < origin.stepX)
    (stepY : 0 < origin.stepY) :
    let corners := CornerPositions.ofLowerLeft origin size
    ∃ tied, TieGeocoding.ofCorners corners.lats corners.lons 0 0 size = .ok tied ∧
      (∀ [MapProjection Rat] (system : ReferenceSystem), system.kind = .geographic →
        ∃ mapped, MapGeocoding.ofAnchor system size (origin.raised size) = .ok mapped ∧
          ∀ p, mapped.toGlobe p = .ok (origin.place size p)) ∧
      (¬ origin.TakenForCrossing size →
        ∀ p, (tied.toGlobe p).SamePlace (origin.place size p)) ∧
      (origin.TakenForCrossing size →
        ∀ p, (tied.toGlobe p).SamePlace
          ⟨(origin.place size p).lat,
            origin.x - p.x * (360 / size.width - origin.stepX)⟩) ∧
      (origin.TakenForCrossing size → ∀ p : PixelPoint Rat, 0 ≤ p.x → p.x ≤ size.width →
        ((tied.toGlobe p).SamePlace (origin.place size p) ↔ p.x = 0 ∨ p.x = size.width)) := by
  intro corners
  obtain ⟨hwidth, hheight⟩ := (Size.isEmpty_eq_false_iff _).mp nonempty
  have width : (0 : Rat) < size.width := Nat.cast_pos.mpr hwidth
  obtain ⟨tied, made, shows⟩ := TieGeocoding.ofLowerLeft_toGlobe nonempty stepX west
  refine ⟨tied, made, fun system geographic =>
    MapAnchor.toGlobe_raised nonempty stepX stepY geographic,
    fun plain p => ⟨(shows p).1, (shows p).2.1 plain⟩,
    fun taken p => ⟨(shows p).1, (shows p).2.2 taken⟩, fun taken p left right => ?_⟩
  have back := (shows p).2.2 taken
  have same : (tied.toGlobe p).SamePlace (origin.place size p) ↔
      ∃ turns : ℤ, turns • (360 : Rat) =
        (origin.place size p).lon - (origin.x - p.x * (360 / size.width - origin.stepX)) := by
    rw [← modEq_iff_zsmul]
    exact ⟨fun h => back.symm.trans h.2, fun h => ⟨(shows p).1, back.trans h⟩⟩
  have apart : (origin.place size p).lon - (origin.x - p.x * (360 / size.width - origin.stepX)) =
      p.x / size.width * 360 := by
    simp only [MapAnchor.place]
    field_simp
    ring
  rw [same, apart, whole_turns_iff width left right]

/-- For two pixels of 100 degrees from 100 degrees west on. -/
def wideOrigin : MapAnchor Rat := ⟨-100, 0, 100, 1⟩

theorem corners_versus_map_wide :
    let corners := CornerPositions.ofLowerLeft wideOrigin ⟨2, 1⟩
    ∃ tied, TieGeocoding.ofCorners corners.lats corners.lons 0 0 ⟨2, 1⟩ = .ok tied ∧
      (tied.toGlobe ⟨2, 1⟩).SamePlace ⟨0, 100⟩ ∧
      (tied.toGlobe ⟨1, 1 / 2⟩).SamePlace ⟨1 / 2, -180⟩ ∧
      ¬ (tied.toGlobe ⟨1, 1 / 2⟩).SamePlace ⟨1 / 2, 0⟩ := by
  have taken : wideOrigin.TakenForCrossing ⟨2, 1⟩ := by
    unfold MapAnchor.TakenForCrossing
    decide +kernel
  obtain ⟨tied, made, _, _, back, edges⟩ :=
    @corners_versus_map wideOrigin ⟨2, 1⟩ rfl (by decide +kernel) (by decide +kernel)
      (by decide +kernel)
  have right : wideOrigin.place ⟨2, 1⟩ ⟨2, 1⟩ = ⟨0, 100⟩ :=
    congrArg₂ GeoPoint.mk (by decide +kernel) (by decide +kernel)
  have middle : wideOrigin.place ⟨2, 1⟩ ⟨1, 1 / 2⟩ = ⟨1 / 2, 0⟩ :=
    congrArg₂ GeoPoint.mk (by decide +kernel) (by decide +kernel)
  have behind : wideOrigin.x - 1 * (360 / (2 : Nat) - wideOrigin.stepX) = -180 := by
    decide +kernel
  refine ⟨tied, made, ?_, ?_, fun same => ?_⟩
  · rw [← right]
    exact (edges taken ⟨2, 1⟩ (by decide +kernel) (by decide +kernel)).mpr (.inr rfl)
  · have shown := back taken ⟨1, 1 / 2⟩
    rw [middle] at shown
    exact behind ▸ shown
  · rw [← middle, edges taken ⟨1, 1 / 2⟩ (by decide +kernel) (by decide +kernel)] at same
    revert same
    decide +kernel

/-- The middle of the raster is on the zero meridian, and is shown on the opposite one. -/
theorem wide_raster_shown_behind :
    let corners := CornerPositions.ofLowerLeft wideOrigin ⟨2, 1⟩
    ∃ tied, TieGeocoding.ofCorners corners.lats corners.lons 0 0 ⟨2, 1⟩ = .ok tied ∧
      (wideOrigin.place ⟨2, 1⟩ ⟨1, 1 / 2⟩).lon = 0 ∧
      (tied.toGlobe ⟨1, 1 / 2⟩).lon = 180 ∧ ¬ 180 ≡ 0 [PMOD (360 : Rat)] := by
  intro corners
  obtain ⟨tied, made, shows⟩ :=
    @TieGeocoding.ofCorners_toGlobe corners.lats corners.lons ⟨0, 0⟩ ⟨2, 1⟩ rfl
  refine ⟨tied, made, by decide +kernel, ?_, ?_⟩
  · rw [shows]
    decide +kernel
  · rw [modEq_iff_zsmul]
    rintro ⟨turns, half⟩
    rw [zsmul_eq_mul] at half
    have half : (turns * 360 : Int) = -180 := by exact_mod_cast half.trans (zero_sub (180 : Rat))
    omega

end RasterMosaic
