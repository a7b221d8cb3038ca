import Mathlib.Tactic.LinearCombination
import RasterMosaic.Proofs.Geocoding.CornerGrid

/-!
The way back from a place to a pixel between the corners of a raster, in exact numbers. A Newton
step solves for the missing latitude and longitude exactly, so what it leaves is the twist of the
corners times the product of its parts, and a search that ends has left next to nothing. Where the
corners are those of parallelograms a step leads to the pixel at once.
-/

namespace RasterMosaic

open AddCommGroup

/-- Two linear equations in two unknowns. -/
theorem solution_iff {a b c d r s x y : Rat} (det : a * d - b * c ≠ 0) :
    (r * d - s * b) / (a * d - b * c) = x ∧ (a * s - c * r) / (a * d - b * c) = y ↔
      a * x + b * y = r ∧ c * x + d * y = s := by
  rw [div_eq_iff det, div_eq_iff det]
  constructor
  · rintro ⟨hx, hy⟩
    constructor
    · exact mul_left_cancel₀ det (by linear_combination -a * hx - b * hy)
    · exact mul_left_cancel₀ det (by linear_combination -c * hx - d * hy)
  · rintro ⟨rfl, rfl⟩
    constructor <;> ring

namespace TieGeocoding

theorem tolerance_eq : (tolerance : Rat) = 1 / 10 ^ 6 := by
  norm_num [tolerance]

theorem leastGradient_eq : (leastGradient : Rat) = 1 / 10 ^ 15 := by
  norm_num [leastGradient]

section Search
variable {g : TieGeocoding Rat} {target : GeoPoint Rat} {p q step : PixelPoint Rat}

/-- The determinant of the gradients at a pixel. -/
def slope (g : TieGeocoding Rat) (p : PixelPoint Rat) : Rat :=
  (g.lat.interpolate p.x p.y).dx * (g.lon.interpolate p.x p.y).dy -
    (g.lat.interpolate p.x p.y).dy * (g.lon.interpolate p.x p.y).dx

/-- The step makes up for what is missing, along the gradients at the pixel. -/
structure Solves (g : TieGeocoding Rat) (target : GeoPoint Rat) (p step : PixelPoint Rat) :
    Prop where
  lat : (g.lat.interpolate p.x p.y).dx * step.x + (g.lat.interpolate p.x p.y).dy * step.y =
    target.lat - (g.lat.interpolate p.x p.y).value
  lon : (g.lon.interpolate p.x p.y).dx * step.x + (g.lon.interpolate p.x p.y).dy * step.y =
    normalizeLongitude (target.lon - (g.lon.interpolate p.x p.y).value)

theorem newtonStep_eq_some_iff :
    g.newtonStep target p = some step ↔
      1 / 10 ^ 15 ≤ |g.slope p| ∧ g.Solves target p step := by
  have unfolded : g.newtonStep target p =
      if |g.slope p| < 1 / 10 ^ 15 then none
      else
        let missingLat := target.lat - (g.lat.interpolate p.x p.y).value
        let missingLon := normalizeLongitude (target.lon - (g.lon.interpolate p.x p.y).value)
        some ⟨(missingLat * (g.lon.interpolate p.x p.y).dy -
            missingLon * (g.lat.interpolate p.x p.y).dy) / g.slope p,
          ((g.lat.interpolate p.x p.y).dx * missingLon -
            (g.lon.interpolate p.x p.y).dx * missingLat) / g.slope p⟩ := by
    rw [← scalar_abs, ← leastGradient_eq]
    rfl
  rw [unfolded]
  by_cases flat : |g.slope p| < 1 / 10 ^ 15
  · rw [if_pos flat]
    exact ⟨nofun, fun h => absurd h.1 (not_le.mpr flat)⟩
  · have steep : g.slope p ≠ 0 := by
      intro level
      rw [level, abs_zero] at flat
      exact flat (by norm_num)
    rw [if_neg flat, Option.some_inj]
    have solved := @solution_iff _ _ _ _ (target.lat - (g.lat.interpolate p.x p.y).value)
      (normalizeLongitude (target.lon - (g.lon.interpolate p.x p.y).value)) step.x step.y steep
    constructor
    · rintro rfl
      obtain ⟨lat, lon⟩ := solved.mp ⟨rfl, rfl⟩
      exact ⟨not_lt.mp flat, lat, lon⟩
    · rintro ⟨_, lat, lon⟩
      obtain ⟨hx, hy⟩ := solved.mpr ⟨lat, lon⟩
      exact congrArg₂ PixelPoint.mk hx hy

/-- The pixel that a step leads to. -/
def moved (p step : PixelPoint Rat) : PixelPoint Rat := ⟨p.x + step.x, p.y + step.y⟩

/-- The step from one pixel to another. -/
def apart (p q : PixelPoint Rat) : PixelPoint Rat := ⟨q.x - p.x, q.y - p.y⟩

@[simp] theorem moved_apart (p q : PixelPoint Rat) : moved p (apart p q) = q := by
  simp only [moved, apart, add_sub_cancel]

/-- Both parts of a step are within tolerance. -/
def IsShort (step : PixelPoint Rat) : Prop := |step.x| < 1 / 10 ^ 6 ∧ |step.y| < 1 / 10 ^ 6

instance (step : PixelPoint Rat) : Decidable (IsShort step) := inferInstanceAs (Decidable (_ ∧ _))

theorem search_of_step {steps : Nat} (made : g.newtonStep target p = some step) :
    g.search target (steps + 1) p =
      if IsShort step then some (moved p step) else g.search target steps (moved p step) := by
  rw [search, made, Option.bind_some]
  simp only [scalar_abs, tolerance_eq, Bool.and_eq_true, decide_eq_true_eq]
  rfl

/-- A search finds the pixel that its last step leads to, which is short. -/
theorem search_eq_some {steps : Nat} (h : g.search target steps p = some q) :
    ∃ last step, g.newtonStep target last = some step ∧ IsShort step ∧ q = moved last step := by
  induction steps generalizing p with
  | zero => cases h
  | succ steps ih =>
      cases made : g.newtonStep target p with
      | none =>
          rw [search, made] at h
          cases h
      | some step =>
          rw [search_of_step made] at h
          split at h
          · rename_i short
            exact ⟨p, step, made, short, (Option.some.inj h).symm⟩
          · exact ih h

/-- A search that a step leads to a place where nothing is missing finds it. -/
theorem search_of_landing {steps : Nat} (landing : g.newtonStep target p = some (apart p q))
    (stay : g.newtonStep target q = some (apart q q)) :
    g.search target (steps + 2) p = some q := by
  have still : IsShort (apart q q) := by
    simp only [IsShort, apart, sub_self]
    norm_num
  rw [search_of_step landing, moved_apart, search_of_step stay, moved_apart, if_pos still, ite_self]

end Search

theorem toPixel_eq_search (g : TieGeocoding Rat) (target : GeoPoint Rat) :
    g.toPixel target = g.search target maxSteps g.lat.centre := rfl

/-- Away from a pixel the values follow the gradient there, up to the twist of the corners. -/
theorem value_moved (name : String) (corners : Corners Rat) (offset : PixelPoint Rat)
    (raster : Size) (wraps : Bool) (p step : PixelPoint Rat) :
    let grid := TieGrid.placed name corners offset raster wraps
    (grid.interpolate (moved p step).x (moved p step).y).value =
      (grid.interpolate p.x p.y).value + ((grid.interpolate p.x p.y).dx * step.x +
        (grid.interpolate p.x p.y).dy * step.y) +
        (if wraps then corners.cell.unwrapped else corners.cell).twist * (step.x * step.y) /
          (raster.width * raster.height) := by
  have across : (p.x + step.x - offset.x) / raster.width =
      (p.x - offset.x) / raster.width + step.x / raster.width := by ring
  have down : (p.y + step.y - offset.y) / raster.height =
      (p.y - offset.y) / raster.height + step.y / raster.height := by ring
  simp only [TieGrid.interpolate_placed, moved, across, down]
  generalize (if wraps then corners.cell.unwrapped else corners.cell) = c
  change Cell.bilinear _ _ _ = Cell.bilinear _ _ _ + _ + _
  rw [Cell.bilinear_add]
  ring

section Placed
variable {lats lons : Corners Rat} {offset : PixelPoint Rat} {raster : Size}
  {target : GeoPoint Rat} {p step : PixelPoint Rat}

theorem lat_moved :
    ((placed lats lons offset raster).lat.interpolate (moved p step).x (moved p step).y).value =
      ((placed lats lons offset raster).lat.interpolate p.x p.y).value +
        (((placed lats lons offset raster).lat.interpolate p.x p.y).dx * step.x +
          ((placed lats lons offset raster).lat.interpolate p.x p.y).dy * step.y) +
        lats.cell.twist * (step.x * step.y) / (raster.width * raster.height) :=
  value_moved "latitude" lats offset raster false p step

theorem lon_moved :
    ((placed lats lons offset raster).lon.interpolate (moved p step).x (moved p step).y).value =
      ((placed lats lons offset raster).lon.interpolate p.x p.y).value +
        (((placed lats lons offset raster).lon.interpolate p.x p.y).dx * step.x +
          ((placed lats lons offset raster).lon.interpolate p.x p.y).dy * step.y) +
        lons.cell.unwrapped.twist * (step.x * step.y) / (raster.width * raster.height) :=
  value_moved "longitude" lons offset raster true p step

/-- A step leaves of the missing latitude and longitude what the corners twist over it. -/
theorem Solves.lat_toGlobe (h : (placed lats lons offset raster).Solves target p step) :
    ((placed lats lons offset raster).toGlobe (moved p step)).lat =
      target.lat + lats.cell.twist * (step.x * step.y) / (raster.width * raster.height) :=
  calc ((placed lats lons offset raster).toGlobe (moved p step)).lat
      = _ := @lat_moved lats lons offset raster p step
    _ = target.lat + lats.cell.twist * (step.x * step.y) / (raster.width * raster.height) := by
        rw [h.lat, add_sub_cancel]

theorem Solves.lon_toGlobe (h : (placed lats lons offset raster).Solves target p step) :
    ((placed lats lons offset raster).toGlobe (moved p step)).lon ≡
      target.lon + lons.cell.unwrapped.twist * (step.x * step.y) /
        (raster.width * raster.height) [PMOD (360 : Rat)] := by
  have missing := normalizeLongitude_modEq
    (target.lon - ((placed lats lons offset raster).lon.interpolate p.x p.y).value)
  refine (normalizeLongitude_modEq _).trans ?_
  rw [lon_moved, h.lon]
  refine ModEq.add_right _ ?_
  refine (missing.add_left _).trans ?_
  rw [add_sub_cancel]

/-- What a short step leaves. -/
theorem IsShort.abs_remainder_le (short : IsShort step) (twist : Rat) (raster : Size) :
    |twist * (step.x * step.y) / (raster.width * raster.height)| ≤
      |twist| * (1 / 10 ^ 12) / (raster.width * raster.height) := by
  have pixels : (0 : Rat) ≤ raster.width * raster.height :=
    mul_nonneg (Nat.cast_nonneg _) (Nat.cast_nonneg _)
  have product : |step.x * step.y| ≤ 1 / 10 ^ 12 := by
    calc |step.x * step.y| = |step.x| * |step.y| := abs_mul _ _
      _ ≤ 1 / 10 ^ 6 * (1 / 10 ^ 6) :=
          mul_le_mul short.1.le short.2.le (abs_nonneg _) (by norm_num)
      _ = 1 / 10 ^ 12 := by norm_num
  rw [abs_div, abs_mul, abs_of_nonneg pixels]
  exact div_le_div_of_nonneg_right (mul_le_mul_of_nonneg_left product (abs_nonneg _)) pixels

end Placed

/-- A pixel that is found shows the place that was searched for, up to the twist of the corners
times what two short steps can span. -/
theorem toGlobe_of_toPixel {lats lons : Corners Rat} {offset : PixelPoint Rat} {raster : Size}
    {g : TieGeocoding Rat} (made : ofCorners lats lons offset.x offset.y raster = .ok g)
    {target : GeoPoint Rat} {q : PixelPoint Rat} (found : g.toPixel target = some q) :
    |(g.toGlobe q).lat - target.lat| ≤
        |lats.cell.twist| * (1 / 10 ^ 12) / (raster.width * raster.height) ∧
      ∃ turns : ℤ, |(g.toGlobe q).lon - target.lon - turns * 360| ≤
        |lons.cell.unwrapped.twist| * (1 / 10 ^ 12) / (raster.width * raster.height) := by
  obtain ⟨_, rfl⟩ := ofCorners_eq_ok_iff.mp made
  rw [toPixel_eq_search] at found
  obtain ⟨last, step, stepped, short, rfl⟩ := search_eq_some found
  obtain ⟨_, solves⟩ := newtonStep_eq_some_iff.mp stepped
  constructor
  · rw [solves.lat_toGlobe, add_sub_cancel_left]
    exact short.abs_remainder_le _ raster
  · obtain ⟨turns, apart⟩ := modEq_iff_zsmul.mp solves.lon_toGlobe.symm
    rw [zsmul_eq_mul] at apart
    refine ⟨turns, ?_⟩
    have left : ((placed lats lons offset raster).toGlobe (moved last step)).lon - target.lon -
        turns * 360 = lons.cell.unwrapped.twist * (step.x * step.y) /
          (raster.width * raster.height) := by linarith
    rw [left]
    exact short.abs_remainder_le _ raster

/-- Corners across the antimeridian, the lower right one of which is out of place. -/
def twistedLats : Corners Rat := ⟨10, 10, 9, 8⟩

def twistedLons : Corners Rat := ⟨179, -179, 179, -178⟩

theorem toGlobe_of_toPixel_twisted :
    ∃ g, ofCorners twistedLats twistedLons (1 / 2) (-3) ⟨2, 2⟩ = .ok g ∧
      ∃ q, g.toPixel ⟨37 / 4, -180⟩ = some q ∧ |(g.toGlobe q).lat - 37 / 4| ≤ 1 / 4 / 10 ^ 12 ∧
        ∃ turns : ℤ, |(g.toGlobe q).lon - -180 - turns * 360| ≤ 1 / 4 / 10 ^ 12 := by
  have made : ofCorners twistedLats twistedLons (1 / 2) (-3) ⟨2, 2⟩ =
      .ok (placed twistedLats twistedLons ⟨1 / 2, -3⟩ ⟨2, 2⟩) :=
    (@ofCorners_eq_ok_iff _ _ ⟨1 / 2, -3⟩ _ _).mpr ⟨rfl, rfl⟩
  have ends : ((placed twistedLats twistedLons ⟨1 / 2, -3⟩ ⟨2, 2⟩).toPixel
      ⟨37 / 4, -180⟩).isSome := by decide +kernel
  obtain ⟨q, found⟩ := Option.isSome_iff_exists.mp ends
  have lat : |twistedLats.cell.twist| * (1 / 10 ^ 12) / (((2 : Nat) : Rat) * ((2 : Nat) : Rat)) =
      1 / 4 / 10 ^ 12 := by decide +kernel
  have lon : |twistedLons.cell.unwrapped.twist| * (1 / 10 ^ 12) /
      (((2 : Nat) : Rat) * ((2 : Nat) : Rat)) = 1 / 4 / 10 ^ 12 := by decide +kernel
  have back := @toGlobe_of_toPixel _ _ ⟨1 / 2, -3⟩ _ _ made _ _ found
  rw [lat, lon] at back
  exact ⟨_, made, q, found, back⟩

section Parallelograms
variable {lats lons : Corners Rat} {offset : PixelPoint Rat} {raster : Size}
  (lat : lats.cell.IsParallelogram) (lon : lons.cell.unwrapped.IsParallelogram)
include lat lon

/-- The gradients are the same at all pixels. -/
theorem slope_eq_slope (p q : PixelPoint Rat) :
    (placed lats lons offset raster).slope p = (placed lats lons offset raster).slope q := by
  simp only [slope, placed, TieGrid.interpolate_placed, Bool.false_eq_true, if_false, if_true,
    lat.gradient_dx, lat.gradient_dy, lon.gradient_dx, lon.gradient_dy]

/-- One step from a pixel leads to every other that is less than half a turn away. -/
theorem newtonStep_toGlobe {p q : PixelPoint Rat}
    (steep : 1 / 10 ^ 15 ≤ |(placed lats lons offset raster).slope q|)
    (near : |((placed lats lons offset raster).lon.interpolate p.x p.y).value -
      ((placed lats lons offset raster).lon.interpolate q.x q.y).value| < 180) :
    (placed lats lons offset raster).newtonStep ((placed lats lons offset raster).toGlobe p) q =
      some (apart q p) := by
  refine newtonStep_eq_some_iff.mpr ⟨steep, ?_, ?_⟩
  · have straight := @lat_moved lats lons offset raster q (apart q p)
    rw [moved_apart, lat.twist_eq_zero, zero_mul, zero_div, add_zero] at straight
    exact eq_sub_of_add_eq' straight.symm
  · have straight := @lon_moved lats lons offset raster q (apart q p)
    rw [moved_apart, lon.twist_eq_zero, zero_mul, zero_div, add_zero] at straight
    refine (eq_sub_of_add_eq' straight.symm).trans (normalizeLongitude_eq ?_ near).symm
    exact (normalizeLongitude_modEq _).sub_right _

end Parallelograms

/-- Between the corners of parallelograms that are not too flat, a pixel is found again from the
place that it shows, inside the raster and outside, if its longitude is less than half a turn away
from that of the middle, as the longitudes run on between the corners. -/
theorem toPixel_toGlobe {lats lons : Corners Rat} {offset : PixelPoint Rat} {raster : Size}
    {g : TieGeocoding Rat} (made : ofCorners lats lons offset.x offset.y raster = .ok g)
    (lat : lats.cell.IsParallelogram) (lon : lons.cell.unwrapped.IsParallelogram)
    (steep : ∃ r, 1 / 10 ^ 15 ≤ |g.slope r|) {p : PixelPoint Rat}
    (near : |(g.lon.interpolate p.x p.y).value -
      (g.lon.interpolate g.lat.centre.x g.lat.centre.y).value| < 180) :
    g.toPixel (g.toGlobe p) = some p := by
  obtain ⟨_, rfl⟩ := ofCorners_eq_ok_iff.mp made
  obtain ⟨r, steep⟩ := steep
  have steep (q : PixelPoint Rat) : 1 / 10 ^ 15 ≤ |(placed lats lons offset raster).slope q| := by
    rwa [slope_eq_slope lat lon q r]
  have here : |((placed lats lons offset raster).lon.interpolate p.x p.y).value -
      ((placed lats lons offset raster).lon.interpolate p.x p.y).value| < 180 := by
    rw [sub_self, abs_zero]
    norm_num
  have steps : maxSteps = 18 + 2 := rfl
  rw [toPixel_eq_search, steps]
  exact search_of_landing (newtonStep_toGlobe lat lon (steep _) near)
    (newtonStep_toGlobe lat lon (steep p) here)

/-- Corners of a parallelogram across the antimeridian, turned against the parallels. -/
def pacificLats : Corners Rat := ⟨10, 11, 8, 9⟩

def pacificLons : Corners Rat := ⟨178, -179, 179, -178⟩

theorem toPixel_toGlobe_pacific :
    ∃ g, ofCorners pacificLats pacificLons (1 / 2) (-3) ⟨100, 50⟩ = .ok g ∧
      g.toGlobe ⟨401 / 2, 22⟩ = ⟨11, -351 / 2⟩ ∧
      g.toPixel (g.toGlobe ⟨401 / 2, 22⟩) = some ⟨401 / 2, 22⟩ := by
  have made : ofCorners pacificLats pacificLons (1 / 2) (-3) ⟨100, 50⟩ =
      .ok (placed pacificLats pacificLons ⟨1 / 2, -3⟩ ⟨100, 50⟩) :=
    (@ofCorners_eq_ok_iff _ _ ⟨1 / 2, -3⟩ _ _).mpr ⟨rfl, rfl⟩
  refine ⟨_, made, congrArg₂ GeoPoint.mk (by decide +kernel) (by decide +kernel), ?_⟩
  exact @toPixel_toGlobe _ _ ⟨1 / 2, -3⟩ _ _ made (by decide +kernel) (by decide +kernel)
    ⟨⟨0, 0⟩, by decide +kernel⟩ _ (by decide +kernel)

end TieGeocoding

end RasterMosaic
