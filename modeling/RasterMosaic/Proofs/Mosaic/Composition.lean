import RasterMosaic.Proofs.Except
import RasterMosaic.Proofs.Mosaic.Turns
import RasterMosaic.Proofs.Pyramid.Rounding
import RasterMosaic.Proofs.Raster.Compositing

/-!
From the turns of a level to its image. A level is one of three kinds: nothing to show, tiles
that lie within it, or tiles that reach over an edge. Fillers never do.
-/

namespace RasterMosaic

variable {K S : Type} {n : Nat} [LevelSource S]

theorem Rectangle.contains_sized_iff (a b : Size) :
    (Rectangle.sized a).contains (.sized b) = true ↔ b.FitsIn a := by
  simp [contains, sized, maxX, maxY, Size.FitsIn]

namespace MosaicPlan

section Compose
variable (plan : MosaicPlan K n) (level : Nat) (tiles : List (PlacedRaster Float32))

theorem compose_of_empty (empty : (overlayExtent tiles).size.isEmpty = true) :
    plan.compose level tiles =
      .ok (.filled (plan.geometry.size.atLevel level)
        (plan.noData.getD Sample.notANumber)) := by
  have hempty : (overlayExtent tiles).isEmpty = true := empty
  simp only [compose, if_pos hempty]
  rfl

theorem compose_of_overhang (full : (overlayExtent tiles).size.isEmpty = false)
    (hangs : ¬ (overlayExtent tiles).size.FitsIn (plan.geometry.size.atLevel level)) :
    plan.compose level tiles =
      .error (.compositeTooLarge level (.sized (overlayExtent tiles).size)
        (.sized (plan.geometry.size.atLevel level))) := by
  have hfull : (overlayExtent tiles).isEmpty = false := full
  have hcontains : (plan.bounds level).contains (overlayExtent tiles) = false := by
    rw [overlayExtent_eq_sized, ← Bool.not_eq_true, bounds, Rectangle.contains_sized_iff]
    exact hangs
  simp only [compose, hfull, hcontains, ← overlayExtent_eq_sized]
  rfl

theorem compose_of_fit (full : (overlayExtent tiles).size.isEmpty = false)
    (fit : (overlayExtent tiles).size.FitsIn (plan.geometry.size.atLevel level)) :
    ∃ image, plan.compose level tiles = .ok image ∧
      image.size = plan.geometry.size.atLevel level ∧
      ∀ r c hr hc, image.get r c hr hc =
        overlaidSample tiles plan.config.background plan.noData
          (min r ((overlayExtent tiles).size.height - 1))
          (min c ((overlayExtent tiles).size.width - 1)) := by
  have hfull : (overlayExtent tiles).isEmpty = false := full
  have hcontains : (plan.bounds level).contains (overlayExtent tiles) = true := by
    rw [overlayExtent_eq_sized, bounds, Rectangle.contains_sized_iff]
    exact fit
  obtain ⟨hw, hh⟩ := (Size.isEmpty_eq_false_iff _).mp full
  let canvas := overlay tiles plan.config.background plan.noData
  have hrows : canvas.rows = (overlayExtent tiles).size.height := rows_overlay ..
  have hcols : canvas.cols = (overlayExtent tiles).size.width := cols_overlay ..
  have hpad := Raster.extendBorder_eq_ok (by omega : 0 < canvas.rows) (by omega)
    (hrows ▸ fit.2) (hcols ▸ fit.1)
  simp only [canvas, get_overlay, rows_overlay, cols_overlay] at hpad
  simp only [compose, hfull, hcontains]
  exact ⟨_, congrArg (Except.mapError RasterError.badArgument) hpad, rfl,
    fun r c hr hc => Raster.get_ofFn _ _ _ r c hr hc⟩

theorem size_of_compose {image : Raster Float32} (h : plan.compose level tiles = .ok image) :
    image.size = plan.geometry.size.atLevel level := by
  cases empty : (overlayExtent tiles).size.isEmpty with
  | true =>
      rw [compose_of_empty plan level tiles empty] at h
      cases h
      rfl
  | false =>
      by_cases fit : (overlayExtent tiles).size.FitsIn (plan.geometry.size.atLevel level)
      · obtain ⟨composed, hcompose, hsize, _⟩ := compose_of_fit plan level tiles empty fit
        rw [hcompose] at h
        cases h
        exact hsize
      · rw [compose_of_overhang plan level tiles empty fit] at h
        cases h

end Compose

theorem fst_computeLevel_of_answers (plan : MosaicPlan K n) {level : Nat} {sources : Vector S n}
    (answered : ∀ turn ∈ turns level plan.placements sources,
      LevelSource.Answers turn.source level) :
    (plan.computeLevel level sources).1 =
      (plan.compose level (plan.levelTiles level sources)).mapError .error := by
  obtain ⟨answers, hanswers, htiles⟩ := fetchLevel_of_answers plan answered
  simp only [computeLevel, hanswers, levelTiles, ← htiles]
  rfl

theorem size_of_computeLevel {plan : MosaicPlan K n} {level : Nat} {sources : Vector S n}
    {image : Raster Float32} (h : (plan.computeLevel level sources).1 = .ok image) :
    image.size = plan.geometry.size.atLevel level := by
  obtain ⟨answers, _, hcompose⟩ := bind_eq_ok_iff.mp h
  exact size_of_compose plan level _ (mapError_eq_ok_iff.mp hcompose)

/-- A source that faults in its turn leaves the level without an image. -/
theorem fst_computeLevel_of_fault (plan : MosaicPlan K n) {level : Nat} {sources : Vector S n}
    {turn : Turn S n} (mem : turn ∈ turns level plan.placements sources)
    (faulty : ¬ LevelSource.Answers turn.source level) :
    ∃ fault, (plan.computeLevel level sources).1 = .error (.fault fault) := by
  cases h : (fetchLevel level plan.placements sources).1 with
  | ok answers => exact absurd (answers_of_fetchLevel_eq_ok h turn mem) faulty
  | error fault =>
      refine ⟨fault, ?_⟩
      simp only [computeLevel, h]
      rfl

end MosaicPlan

/-- In this turn the source answers with an image that is not empty and reaches over the right or
the bottom edge of the level. -/
def Turn.Overhangs (plan : MosaicPlan K n) (level : Nat) (turn : Turn S n) : Prop :=
  ∃ image, (LevelSource.fetch turn.source level).1 = .ok image ∧ image.isEmpty = false ∧
    (lengthAtLevel plan.geometry.size.width level <
        offsetAtLevel turn.placement.x level + image.cols ∨
      lengthAtLevel plan.geometry.size.height level <
        offsetAtLevel turn.placement.y level + image.rows)

/-- Offsets that are machine words are rounded down. -/
theorem Turn.overhangs_iff {plan : MosaicPlan K n} {level : Nat} {turn : Turn S n}
    (hx : turn.placement.x < 2 ^ wordBits) (hy : turn.placement.y < 2 ^ wordBits) :
    turn.Overhangs plan level ↔
      ∃ image, (LevelSource.fetch turn.source level).1 = .ok image ∧ image.isEmpty = false ∧
        (lengthAtLevel plan.geometry.size.width level <
            turn.placement.x / 2 ^ level + image.cols ∨
          lengthAtLevel plan.geometry.size.height level <
            turn.placement.y / 2 ^ level + image.rows) := by
  rw [Overhangs, offsetAtLevel_eq_div hx, offsetAtLevel_eq_div hy]

/-- Fillers are cut off at the edges, so a tile reaches over one only as the image of a source. -/
theorem Turn.tile?_within_or_overhangs {plan : MosaicPlan K n} {level : Nat} {turn : Turn S n}
    {tile : PlacedRaster Float32} (h : turn.tile? plan level = some tile)
    (full : tile.image.isEmpty = false) :
    turn.Overhangs plan level ∨
      tile.x + tile.image.cols ≤ (plan.geometry.size.atLevel level).width ∧
        tile.y + tile.image.rows ≤ (plan.geometry.size.atLevel level).height := by
  cases fetched : LevelSource.fetch turn.source level with
  | mk answer source =>
      cases answer with
      | ok image =>
          simp only [tile?, fetched] at h
          cases h
          by_cases hangs : turn.Overhangs plan level
          · exact .inl hangs
          · refine .inr ⟨Nat.not_lt.mp fun hx => hangs ?_, Nat.not_lt.mp fun hy => hangs ?_⟩
            · exact ⟨image, by rw [fetched], full, .inl hx⟩
            · exact ⟨image, by rw [fetched], full, .inr hy⟩
      | error failure =>
          simp only [tile?, fetched] at h
          split at h
          · cases h
          · cases h
            simp only [Raster.cols_filled, Raster.rows_filled, Size.atLevel]
            omega

theorem Turn.Overhangs.tile {plan : MosaicPlan K n} {level : Nat} {turn : Turn S n}
    (h : turn.Overhangs plan level) :
    ∃ tile, turn.tile? plan level = some tile ∧ tile.image.isEmpty = false ∧
      ((plan.geometry.size.atLevel level).width < tile.x + tile.image.cols ∨
        (plan.geometry.size.atLevel level).height < tile.y + tile.image.rows) := by
  obtain ⟨image, hanswer, full, hedge⟩ := h
  cases fetched : LevelSource.fetch turn.source level with
  | mk answer source =>
      rw [fetched] at hanswer
      cases hanswer
      simp only [tile?, fetched]
      exact ⟨_, rfl, full, hedge⟩

namespace MosaicPlan

variable (plan : MosaicPlan K n) (level : Nat) (sources : Vector S n)

theorem fitsIn_level_iff :
    (overlayExtent (plan.levelTiles level sources)).size.FitsIn
        (plan.geometry.size.atLevel level) ↔
      ∀ turn ∈ turns level plan.placements sources, ¬ turn.Overhangs plan level := by
  rw [← encloses_iff]
  constructor
  · intro encloses turn hmem hangs
    obtain ⟨tile, htile, full, hedge⟩ := hangs.tile
    have hwithin := encloses tile (List.mem_filterMap.mpr ⟨turn, hmem, htile⟩) full
    omega
  · intro none tile hmem full
    obtain ⟨turn, hturn, htile⟩ := List.mem_filterMap.mp hmem
    exact (Turn.tile?_within_or_overhangs htile full).resolve_left (none turn hturn)

end MosaicPlan

/-- Where every tile is empty, any size is large enough. -/
theorem fitsIn_of_isEmpty_extent {T : Type} {tiles : List (PlacedRaster T)}
    (empty : (overlayExtent tiles).size.isEmpty = true) (size : Size) :
    (overlayExtent tiles).size.FitsIn size := by
  rw [← encloses_iff]
  intro tile hmem full
  have hwithin := (isExtent_overlayExtent tiles).1 tile hmem full
  rw [Raster.isEmpty_eq_false_iff] at full
  simp only [Size.isEmpty, Bool.or_eq_true, beq_iff_eq] at empty
  omega

end RasterMosaic
