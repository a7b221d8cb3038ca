import RasterMosaic.Proofs.Mosaic.Building
import RasterMosaic.Proofs.Mosaic.Composition
import RasterMosaic.Proofs.Pyramid.Rounding

/-!
Mosaics of one source, placed at the origin. A level of one has a single tile, and every pixel of
its image shows the sample of the tile that is nearest to it, or the background where that sample
holds no data to the source or to the whole.
-/

namespace RasterMosaic

section Tile
variable {T : Type} {image : Raster T} {own whole : Option T} {background : T}

theorem overlaidSample_single [Sample T] {r c : Nat} (hr : r < image.rows) (hc : c < image.cols) :
    overlaidSample [⟨image, 0, 0, own⟩] background whole r c =
      if lacksData (image.get r c hr hc) own || lacksData (image.get r c hr hc) whole then
        background
      else image.get r c hr hc := by
  have held : (⟨image, 0, 0, own⟩ : PlacedRaster T).at? r c = some (image.get r c hr hc) := by
    rw [PlacedRaster.at?, if_pos ⟨Nat.zero_le _, Nat.zero_le _⟩]
    exact Raster.get?_eq_some_get image hr hc
  simp only [overlaidSample, List.reverse_singleton, List.findSome?_singleton,
    PlacedRaster.visible?, held, Option.filter_some]
  cases lacksData (image.get r c hr hc) own <;>
    cases lacksData (image.get r c hr hc) whole <;> rfl

theorem overlayExtent_single (own : Option T) (nonempty : image.isEmpty = false) :
    (overlayExtent [⟨image, 0, 0, own⟩]).size = image.size := by
  have kept : (⟨image, 0, 0, own⟩ : PlacedRaster T).bounds.isEmpty = false := by
    rwa [PlacedRaster.isEmpty_bounds]
  simp only [PlacedRaster.bounds] at kept
  simp [overlayExtent, PlacedRaster.bounds, kept, Rectangle.sized, Rectangle.maxX,
    Rectangle.maxY, Rectangle.size, Raster.size]

end Tile

variable {K S : Type} {n : Nat} [LevelSource S]

namespace MosaicPlan

/-- An image of a level in which every pixel is the nearest sample of a raster, or the background
where that one holds no data. -/
structure ShowsNearest (plan : MosaicPlan K n) (level : Nat) (given : Raster Float32)
    (own : Option Float32) (image : Raster Float32) : Prop where
  size : image.size = plan.geometry.size.atLevel level
  nearest : ∀ r c hr hc, ∃ s,
    given.get? (min r (given.rows - 1)) (min c (given.cols - 1)) = some s ∧
      image.get r c hr hc =
        if lacksData s own || lacksData s plan.noData then plan.config.background else s

theorem compose_single (plan : MosaicPlan K n) (level : Nat) {given : Raster Float32}
    (nonempty : given.isEmpty = false)
    (fits : given.size.FitsIn (plan.geometry.size.atLevel level)) (own : Option Float32) :
    ∃ image, plan.compose level [⟨given, 0, 0, own⟩] = .ok image ∧
      plan.ShowsNearest level given own image := by
  have full := Raster.isEmpty_eq_false_iff.mp nonempty
  have extent := overlayExtent_single own nonempty
  have covers : given.size.isEmpty = false := (Size.isEmpty_eq_false_iff _).mpr full.symm
  obtain ⟨image, composed, size, sample⟩ :=
    plan.compose_of_fit level [⟨given, 0, 0, own⟩] (extent ▸ covers) (extent ▸ fits)
  refine ⟨image, composed, size, fun r c hr hc => ?_⟩
  have hrow : min r (given.rows - 1) < given.rows := by omega
  have hcol : min c (given.cols - 1) < given.cols := by omega
  refine ⟨_, Raster.get?_eq_some_get given hrow hcol, ?_⟩
  rw [sample, extent]
  exact overlaidSample_single hrow hcol

section Computed
variable {plan : MosaicPlan K n} {k : Fin n} (single : plan.placements = [⟨k, 0, 0⟩])
  {level : Nat} {sources : Vector S n}

include single

theorem turns_single : turns level plan.placements sources = [⟨⟨k, 0, 0⟩, sources.get k⟩] := by
  rw [single]
  rfl

/-- A level whose only tile is not empty and fits is shown by the tile. -/
theorem fst_computeLevel_single {given : Raster Float32} {own : Option Float32}
    (answered : LevelSource.Answers (sources.get k) level)
    (tile : Turn.tile? plan level ⟨⟨k, 0, 0⟩, sources.get k⟩ = some ⟨given, 0, 0, own⟩)
    (nonempty : given.isEmpty = false)
    (fits : given.size.FitsIn (plan.geometry.size.atLevel level)) :
    ∃ image, (plan.computeLevel level sources).1 = .ok image ∧
      plan.ShowsNearest level given own image := by
  obtain ⟨image, composed, shows⟩ := plan.compose_single level nonempty fits own
  have answered : ∀ turn ∈ turns level plan.placements sources,
      LevelSource.Answers turn.source level := by
    rw [turns_single single]
    intro turn hmem
    obtain rfl := List.mem_singleton.mp hmem
    exact answered
  have tiles : plan.levelTiles level sources = [⟨given, 0, 0, own⟩] := by
    rw [levelTiles, turns_single single, List.filterMap_cons, tile, List.filterMap_nil]
  refine ⟨image, ?_, shows⟩
  rw [plan.fst_computeLevel_of_answers answered, tiles, composed]
  rfl

/-- An image that the source gives is the tile, under the no-data value of the source. -/
theorem fst_computeLevel_of_given {given : Raster Float32}
    (fetched : (LevelSource.fetch (sources.get k) level).1 = .ok given)
    (nonempty : given.isEmpty = false)
    (fits : given.size.FitsIn (plan.geometry.size.atLevel level)) :
    ∃ image, (plan.computeLevel level sources).1 = .ok image ∧
      plan.ShowsNearest level given
        ((LevelSource.noData (LevelSource.fetch (sources.get k) level).2).map Sample.narrow)
        image := by
  refine fst_computeLevel_single single ?_ ?_ nonempty fits
  · intro fault faulty
    cases fetched.symm.trans faulty
  · rw [Turn.tile?_of_ok fetched, offsetAtLevel_origin]

end Computed
end MosaicPlan
end RasterMosaic
