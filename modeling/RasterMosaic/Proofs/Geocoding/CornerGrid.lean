import RasterMosaic.Geocoding.TieGeocoding
import RasterMosaic.Proofs.Except
import RasterMosaic.Proofs.Geocoding.TieGrid

/-!
Geocodings over the corners of a raster, in exact numbers. Every raster that is not empty has one.
Its grids have one cell, which serves every position inside the raster and outside.
-/

namespace RasterMosaic

/-- The corners as those of a cell. -/
def Corners.cell {K : Type} (c : Corners K) : Cell K :=
  ⟨c.upperLeft, c.upperRight, c.lowerLeft, c.lowerRight⟩

namespace TieGrid

/-- The grid that has the corners of a raster for its tie points. -/
def placed (name : String) (corners : Corners Rat) (offset : PixelPoint Rat) (raster : Size)
    (wraps : Bool) : TieGrid Rat where
  name := name
  offsetX := offset.x
  offsetY := offset.y
  spacingX := raster.width
  spacingY := raster.height
  points := ⟨2, 2, corners.toList.toArray, rfl⟩
  two_le_rows := Nat.le_refl 2
  two_le_cols := Nat.le_refl 2
  wraps := wraps

theorem spanning_corners (name : String) (corners : Corners Rat) (offset : PixelPoint Rat)
    {raster : Size} (nonempty : raster.isEmpty = false) :
    spanning name ⟨2, 2⟩ offset.x offset.y raster corners.toList =
      .ok (placed name corners offset raster false) := by
  obtain ⟨hwidth, hheight⟩ := (Size.isEmpty_eq_false_iff _).mp nonempty
  have width : (raster.width : Rat) / ((1 : Nat) : Rat) = raster.width := by
    rw [Nat.cast_one, div_one]
  have height : (raster.height : Rat) / ((1 : Nat) : Rat) = raster.height := by
    rw [Nat.cast_one, div_one]
  have made : spanning name ⟨2, 2⟩ offset.x offset.y raster corners.toList =
      create name offset.x offset.y (raster.width / ((1 : Nat) : Rat))
        (raster.height / ((1 : Nat) : Rat)) ⟨2, 2, corners.toList.toArray, rfl⟩ := by
    rw [spanning, if_neg (by decide), nonempty]
    rfl
  rw [made, width, height, create_eq_ok_iff]
  exact ⟨⟨Nat.cast_pos.mpr hwidth, Nat.cast_pos.mpr hheight⟩, Nat.le_refl 2, Nat.le_refl 2, rfl⟩

section Placed
variable (name : String) (corners : Corners Rat) (offset : PixelPoint Rat) (raster : Size)
  (wraps : Bool)

theorem cell_placed (across down : Rat) :
    (placed name corners offset raster wraps).cell across down =
      if wraps then corners.cell.unwrapped else corners.cell := by
  have stored (i j : Nat) (hi : i + 1 < 2) (hj : j + 1 < 2) :
      (placed name corners offset raster wraps).storedCell i j hi hj = corners.cell := by
    obtain rfl : i = 0 := by omega
    obtain rfl : j = 0 := by omega
    rfl
  rw [cell, stored _ _ (cellColumn_lt _ _) (cellRow_lt _ _)]
  rfl

/-- The value and its derivatives are those of the cell, at the shares of the raster's width and
height. -/
theorem interpolate_placed (x y : Rat) :
    (placed name corners offset raster wraps).interpolate x y =
      let u := (x - offset.x) / raster.width
      let v := (y - offset.y) / raster.height
      let inCell := (if wraps then corners.cell.unwrapped else corners.cell).gradient u v
      ⟨inCell.value, inCell.dx / raster.width, inCell.dy / raster.height⟩ := by
  have column (position : Rat) :
      (placed name corners offset raster wraps).cellColumn position = 0 := Nat.min_zero _
  have row (position : Rat) :
      (placed name corners offset raster wraps).cellRow position = 0 := Nat.min_zero _
  have first (position : Rat) : position - ((0 : Nat) : Rat) = position := by
    rw [Nat.cast_zero, sub_zero]
  simp only [interpolate, cell_placed, column, row]
  change (let inCell := Cell.gradient _ (_ - ((0 : Nat) : Rat)) (_ - ((0 : Nat) : Rat))
    Gradient.mk inCell.value (inCell.dx / _) (inCell.dy / _)) = _
  rw [first, first]
  rfl

end Placed

end TieGrid

namespace TieGeocoding

/-- The geocoding that places the corners of a raster. -/
def placed (lats lons : Corners Rat) (offset : PixelPoint Rat) (raster : Size) :
    TieGeocoding Rat where
  lat := .placed "latitude" lats offset raster false
  lon := .placed "longitude" lons offset raster true

theorem ofCorners_eq_ok_iff {lats lons : Corners Rat} {offset : PixelPoint Rat} {raster : Size}
    {g : TieGeocoding Rat} :
    ofCorners lats lons offset.x offset.y raster = .ok g ↔
      raster.isEmpty = false ∧ g = placed lats lons offset raster := by
  cases nonempty : raster.isEmpty with
  | true =>
      have refused (name : String) (corners : Corners Rat) :
          TieGrid.spanning name ⟨2, 2⟩ offset.x offset.y raster corners.toList =
            .error (.gridSpansNothing name) := by
        rw [TieGrid.spanning, if_neg (by decide), nonempty]
        rfl
      simp [ofCorners, refused, bind, Except.bind]
  | false =>
      have aligned : (TieGrid.placed "latitude" lats offset raster false).isAlignedWith
          (TieGrid.placed "longitude" lons offset raster false) = true := by
        simp [TieGrid.isAlignedWith, TieGrid.placed, Raster.size]
      have made : ofCorners lats lons offset.x offset.y raster =
          .ok (placed lats lons offset raster) := by
        rw [ofCorners, TieGrid.spanning_corners _ _ _ nonempty,
          TieGrid.spanning_corners _ _ _ nonempty]
        exact if_pos aligned
      rw [made, Except.ok.injEq]
      exact ⟨fun same => ⟨rfl, same.symm⟩, fun same => same.2.symm⟩

/-- Between corners latitudes are bilinear, and longitudes after western ones may have been moved by
a turn. -/
theorem toGlobe_placed (lats lons : Corners Rat) (offset : PixelPoint Rat) (raster : Size)
    (p : PixelPoint Rat) :
    (placed lats lons offset raster).toGlobe p =
      let u := (p.x - offset.x) / raster.width
      let v := (p.y - offset.y) / raster.height
      ⟨lats.cell.bilinear u v, normalizeLongitude (lons.cell.unwrapped.bilinear u v)⟩ := by
  simp only [toGlobe, placed, TieGrid.valueAt, TieGrid.interpolate_placed]
  rfl

end TieGeocoding

end RasterMosaic
