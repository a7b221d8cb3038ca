import RasterMosaic.Proofs.Mosaic.Provenance

/-!
Scenes that their components cover. Offsets are rounded down and lengths up, so on a level a
component may end short of where it ends in the scene. Within the scene another one always takes
over. In the windows that the scene ends in none has to, and such a pixel shows a component only
if the nearest one within the extent of the tiles is covered.
-/

namespace RasterMosaic

variable {K S : Type} {n : Nat} [LevelSource S]

namespace Rectangle

/-- A rectangle of the scene as it is placed on a level. -/
def atLevel (a : Rectangle) (level : Nat) : Rectangle where
  x := offsetAtLevel a.x level
  y := offsetAtLevel a.y level
  width := lengthAtLevel a.width level
  height := lengthAtLevel a.height level

theorem sized_contains_iff {scene : Size} {a : Rectangle} :
    (sized scene).contains a = true ↔
      a.x + a.width ≤ scene.width ∧ a.y + a.height ≤ scene.height := by
  simp [contains, sized, maxX, maxY]

theorem covers_atLevel {a : Rectangle} {scene : Size} {level r c : Nat} (hl : level < wordBits)
    (within : (sized scene).contains a = true)
    (hr : r * 2 ^ level < scene.height) (hc : c * 2 ^ level < scene.width)
    (last : a.Covers (lastInWindow scene.width level c) (lastInWindow scene.height level r))
    (phaseX : scene.width < (c + 1) * 2 ^ level → a.x % 2 ^ level < scene.width % 2 ^ level)
    (phaseY : scene.height < (r + 1) * 2 ^ level →
      a.y % 2 ^ level < scene.height % 2 ^ level) :
    (a.atLevel level).Covers c r := by
  obtain ⟨startX, endX, startY, endY⟩ := last
  obtain ⟨fitX, fitY⟩ := sized_contains_iff.mp within
  obtain ⟨hx, hxEnd⟩ := level_holds_of_lastInWindow hl fitX hc startX endX phaseX
  obtain ⟨hy, hyEnd⟩ := level_holds_of_lastInWindow hl fitY hr startY endY phaseY
  exact ⟨hx, hxEnd, hy, hyEnd⟩

theorem Covers.atLevel_origin {a : Rectangle} (h : a.Covers 0 0) (level : Nat) :
    (a.atLevel level).Covers 0 0 := by
  obtain ⟨startX, endX, startY, endY⟩ := h
  simp only [maxX, maxY] at endX endY
  have hpos : 0 < 2 ^ level := Nat.two_pow_pos level
  have hwidth := lengthAtLevel_pos (by omega : 0 < a.width) level
  have hheight := lengthAtLevel_pos (by omega : 0 < a.height) level
  refine ⟨offsetAtLevel_le (by omega), ?_, offsetAtLevel_le (by omega), ?_⟩
  · exact Nat.lt_of_lt_of_le hwidth (Nat.le_add_left ..)
  · exact Nat.lt_of_lt_of_le hheight (Nat.le_add_left ..)

theorem sized_covers_origin {scene : Size} (hwidth : 0 < scene.width)
    (hheight : 0 < scene.height) : (sized scene).Covers 0 0 := by
  simp [Covers, sized, maxX, maxY, hwidth, hheight]

end Rectangle

namespace Placement

/-- The part of the scene that the base of a placement's source takes. -/
def bounds (p : Placement n) (sources : Vector S n) : Rectangle where
  x := p.x
  y := p.y
  width := (LevelSource.baseSize (sources.get p.source)).width
  height := (LevelSource.baseSize (sources.get p.source)).height

/-- An image of the placement's source as it is placed on a level. -/
def place (p : Placement n) (level : Nat) (image : Raster Float32) : Rectangle where
  x := offsetAtLevel p.x level
  y := offsetAtLevel p.y level
  width := image.cols
  height := image.rows

theorem place_eq_atLevel {p : Placement n} {start : Vector S n} {level : Nat}
    {image : Raster Float32}
    (hsize : image.size = (LevelSource.baseSize (start.get p.source)).atLevel level) :
    p.place level image = (p.bounds start).atLevel level := by
  have hcols : image.cols = _ := congrArg Size.width hsize
  have hrows : image.rows = _ := congrArg Size.height hsize
  simp only [place, bounds, Rectangle.atLevel, hcols, hrows, Size.atLevel]

/-- The placement's source, as it was at some time, has the sample for a pixel of the level. -/
def Gives (p : Placement n) (start : Vector S n) (level r c : Nat) (value : Float32) : Prop :=
  ∃ source image, LevelSource.Later (start.get p.source) source ∧
    (LevelSource.fetch source level).1 = .ok image ∧ (p.place level image).Covers c r ∧
    image.get? (r - offsetAtLevel p.y level) (c - offsetAtLevel p.x level) = some value

end Placement

/-- The components lie within the scene and leave none of it open. -/
structure MosaicPlan.Covered (plan : MosaicPlan K n) (start : Vector S n) : Prop where
  within : ∀ p ∈ plan.placements,
    (Rectangle.sized plan.geometry.size).contains (p.bounds start) = true
  filled : ∀ px py, (Rectangle.sized plan.geometry.size).Covers px py →
    ∃ p ∈ plan.placements, (p.bounds start).Covers px py

theorem turns_placement (level : Nat) (placements : List (Placement n)) (sources : Vector S n) :
    (turns level placements sources).map Turn.placement = placements := by
  induction placements generalizing sources with
  | nil => rfl
  | cons placement rest ih => simp only [turns, List.map_cons, ih]

theorem overlayExtent_congr {T : Type} {first second : List (PlacedRaster T)}
    (h : first.map PlacedRaster.bounds = second.map PlacedRaster.bounds) :
    overlayExtent first = overlayExtent second := by
  simp only [overlayExtent, h]

namespace MosaicPlan

section Furnished
variable {plan : MosaicPlan K n} {start past : Vector S n} {level : Nat}
  (furnished : ∀ p ∈ plan.placements, LevelSource.Furnishes (start.get p.source) level)
  (later : AllLater start past)

include furnished later

/-- In each turn there is an image, so no filler is ever painted. -/
theorem image_of_mem_turns {turn : Turn S n} (mem : turn ∈ turns level plan.placements past) :
    turn.placement ∈ plan.placements ∧
      LevelSource.Later (start.get turn.placement.source) turn.source ∧
      ∃ image, (LevelSource.fetch turn.source level).1 = .ok image ∧
        turn.placement.place level image = (turn.placement.bounds start).atLevel level := by
  obtain ⟨hmem, hturn⟩ := later_of_mem_turns mem
  have hlater := (later turn.placement.source).trans hturn
  obtain ⟨image, answer, hsize⟩ := furnished turn.placement hmem turn.source hlater
  exact ⟨hmem, hlater, image, answer, Placement.place_eq_atLevel hsize⟩

theorem bounds_levelTiles :
    (plan.levelTiles level past).map PlacedRaster.bounds =
      plan.placements.map fun p => (p.bounds start).atLevel level := by
  have hturn : ∀ turn ∈ turns level plan.placements past,
      (turn.tile? plan level).map PlacedRaster.bounds =
        some ((turn.placement.bounds start).atLevel level) := by
    intro turn mem
    obtain ⟨_, _, image, answer, hplace⟩ := image_of_mem_turns furnished later mem
    rw [Turn.tile?_of_ok answer, ← hplace]
    rfl
  rw [levelTiles, List.map_filterMap, List.filterMap_congr hturn, List.filterMap_eq_map',
    ← turns_placement level plan.placements past, List.map_map, turns_placement]
  rfl

theorem overlayExtent_levelTiles :
    overlayExtent (plan.levelTiles level past) =
      overlayExtent (plan.levelTiles level start) :=
  overlayExtent_congr <| (bounds_levelTiles furnished later).trans
    (bounds_levelTiles furnished (.refl start)).symm

theorem bounds_of_mem_levelTiles {tile : PlacedRaster Float32}
    (mem : tile ∈ plan.levelTiles level past) :
    ∃ p ∈ plan.placements, (p.bounds start).atLevel level = tile.bounds := by
  have hmem := List.mem_map_of_mem (f := PlacedRaster.bounds) mem
  rw [bounds_levelTiles furnished later] at hmem
  exact List.mem_map.mp hmem

theorem fitsIn_of_covered (covered : plan.Covered start) :
    (overlayExtent (plan.levelTiles level past)).size.FitsIn
      (plan.geometry.size.atLevel level) := by
  rw [← encloses_iff]
  intro tile mem _
  obtain ⟨p, hp, hbounds⟩ := bounds_of_mem_levelTiles furnished later mem
  obtain ⟨fitX, fitY⟩ := Rectangle.sized_contains_iff.mp (covered.within p hp)
  have hwidth := level_end_le fitX level
  have hheight := level_end_le fitY level
  simp only [Rectangle.atLevel, PlacedRaster.bounds, Rectangle.mk.injEq] at hbounds
  obtain ⟨hx, hy, hcols, hrows⟩ := hbounds
  simp only [Size.atLevel]
  omega

theorem lt_extent_of_covers {p : Placement n} (hp : p ∈ plan.placements) {r c : Nat}
    (covers : ((p.bounds start).atLevel level).Covers c r) :
    r < (overlayExtent (plan.levelTiles level past)).size.height ∧
      c < (overlayExtent (plan.levelTiles level past)).size.width := by
  have hmem : (p.bounds start).atLevel level ∈
      (plan.levelTiles level past).map PlacedRaster.bounds := by
    rw [bounds_levelTiles furnished later]
    exact List.mem_map_of_mem hp
  obtain ⟨tile, htile, hbounds⟩ := List.mem_map.mp hmem
  rw [← hbounds] at covers
  have full : tile.image.isEmpty = false := by
    rw [← PlacedRaster.isEmpty_bounds]
    exact Rectangle.isEmpty_eq_false_of_covers covers
  obtain ⟨startX, endX, startY, endY⟩ := covers
  simp only [PlacedRaster.bounds, Rectangle.maxX, Rectangle.maxY] at startX endX startY endY
  have hwithin := (isExtent_overlayExtent (plan.levelTiles level past)).1 tile htile full
  omega

/-- A pixel that is covered is its own nearest one within the extent. -/
theorem min_extent_of_covers {p : Placement n} (hp : p ∈ plan.placements) {r c : Nat}
    (covers : ((p.bounds start).atLevel level).Covers c r) :
    min r ((overlayExtent (plan.levelTiles level past)).size.height - 1) = r ∧
      min c ((overlayExtent (plan.levelTiles level past)).size.width - 1) = c := by
  obtain ⟨hr, hc⟩ := lt_extent_of_covers furnished later hp covers
  exact ⟨Nat.min_eq_left (Nat.le_sub_one_of_lt hr), Nat.min_eq_left (Nat.le_sub_one_of_lt hc)⟩

theorem isEmpty_extent_of_covered (covered : plan.Covered start)
    (scene : plan.geometry.size.isEmpty = false) :
    (overlayExtent (plan.levelTiles level past)).size.isEmpty = false := by
  obtain ⟨hwidth, hheight⟩ := (Size.isEmpty_eq_false_iff _).mp scene
  obtain ⟨p, hp, covers⟩ := covered.filled 0 0 (Rectangle.sized_covers_origin hwidth hheight)
  obtain ⟨hrows, hcols⟩ :=
    lt_extent_of_covers furnished later hp (covers.atLevel_origin level)
  exact (Size.isEmpty_eq_false_iff _).mpr ⟨hcols, hrows⟩

theorem gives_of_shows {tile : PlacedRaster Float32} {noData : Option Float32} {r c : Nat}
    {value : Float32} (mem : tile ∈ plan.levelTiles level past)
    (shows : tile.Shows noData r c value) :
    ∃ p ∈ plan.placements, p.Gives start level r c value := by
  obtain ⟨turn, hturn, htile⟩ := List.mem_filterMap.mp mem
  obtain ⟨hmem, hlater, image, answer, _⟩ := image_of_mem_turns furnished later hturn
  rw [Turn.tile?_of_ok answer] at htile
  cases htile
  exact ⟨turn.placement, hmem, turn.source, image, hlater, answer, shows.covers, shows.sample⟩

theorem shows_of_covers
    (solid : ∀ p ∈ plan.placements, LevelSource.Solid (start.get p.source) level plan.noData)
    {p : Placement n} (hp : p ∈ plan.placements) {r c : Nat}
    (covers : ((p.bounds start).atLevel level).Covers c r) :
    ∃ tile ∈ plan.levelTiles level past, ∃ value, tile.Shows plan.noData r c value := by
  rw [← turns_placement level plan.placements past, List.mem_map] at hp
  obtain ⟨turn, hturn, rfl⟩ := hp
  obtain ⟨hmem, hlater, image, answer, hplace⟩ := image_of_mem_turns furnished later hturn
  rw [← hplace] at covers
  refine ⟨_, List.mem_filterMap.mpr ⟨turn, hturn, Turn.tile?_of_ok answer⟩, ?_⟩
  obtain ⟨startX, endX, startY, endY⟩ := covers
  simp only [Placement.place, Rectangle.maxX, Rectangle.maxY] at startX endX startY endY
  have sample := image.get?_eq_some_get
    (by omega : r - offsetAtLevel turn.placement.y level < image.rows)
    (by omega : c - offsetAtLevel turn.placement.x level < image.cols)
  obtain ⟨own, whole⟩ := solid _ hmem turn.source hlater image answer _ _ _ sample
  obtain ⟨number, hown⟩ := lacksData_eq_false_iff.mp own
  exact ⟨_, ⟨startX, endX, startY, endY⟩, sample, number, hown,
    (lacksData_eq_false_iff.mp whole).2⟩

/-- A pixel that some component covers shows one of them. -/
theorem gives_overlaidSample
    (solid : ∀ p ∈ plan.placements, LevelSource.Solid (start.get p.source) level plan.noData)
    {r c : Nat}
    (covered : ∃ p ∈ plan.placements, ((p.bounds start).atLevel level).Covers c r) :
    ∃ p ∈ plan.placements, p.Gives start level r c
      (overlaidSample (plan.levelTiles level past) plan.config.background plan.noData r c) := by
  obtain ⟨p, hp, covers⟩ := covered
  obtain ⟨tile, mem, value, shows⟩ := shows_of_covers furnished later solid hp covers
  have shown := lastShown_overlaidSample (plan.levelTiles level past) plan.config.background
    plan.noData r c
  generalize overlaidSample (plan.levelTiles level past) plan.config.background plan.noData r c =
    sample at shown ⊢
  cases shown with
  | background none => exact absurd shows (none tile mem value)
  | tile split last =>
      refine gives_of_shows furnished later ?_ last
      rw [split]
      exact List.mem_append_right _ List.mem_cons_self

theorem overlaidSample_eq_background {r c : Nat}
    (uncovered : ¬ ∃ p ∈ plan.placements, ((p.bounds start).atLevel level).Covers c r) :
    overlaidSample (plan.levelTiles level past) plan.config.background plan.noData r c =
      plan.config.background := by
  have none : ∀ tile ∈ plan.levelTiles level past, tile.visible? plan.noData r c = none := by
    intro tile mem
    rw [PlacedRaster.visible?_eq_none_iff]
    intro value shows
    obtain ⟨p, hp, hbounds⟩ := bounds_of_mem_levelTiles furnished later mem
    exact uncovered ⟨p, hp, hbounds ▸ shows.covers⟩
  have search : (plan.levelTiles level past).reverse.findSome?
      (fun tile => tile.visible? plan.noData r c) = .none :=
    List.findSome?_eq_none_iff.mpr fun tile mem => none tile (List.mem_reverse.mp mem)
  rw [overlaidSample, search]
  rfl

/-- A covered scene always has its level image, each sample of it taken where the pixel lies
nearest to the extent of the tiles. -/
theorem computeLevel_of_covered (covered : plan.Covered start)
    (scene : plan.geometry.size.isEmpty = false) :
    ∃ image, (plan.computeLevel level past).1 = .ok image ∧
      image.size = plan.geometry.size.atLevel level ∧
      ∀ r c hr hc, image.get r c hr hc =
        overlaidSample (plan.levelTiles level past) plan.config.background plan.noData
          (min r ((overlayExtent (plan.levelTiles level start)).size.height - 1))
          (min c ((overlayExtent (plan.levelTiles level start)).size.width - 1)) := by
  have answered : ∀ turn ∈ turns level plan.placements past,
      LevelSource.Answers turn.source level := by
    intro turn mem fault faulty
    obtain ⟨_, _, image, answer, _⟩ := image_of_mem_turns furnished later mem
    cases answer.symm.trans faulty
  obtain ⟨image, composed, hsize, hget⟩ := compose_of_fit plan level
    (plan.levelTiles level past) (isEmpty_extent_of_covered furnished later covered scene)
    (fitsIn_of_covered furnished later covered)
  refine ⟨image, ?_, hsize, fun r c hr hc => ?_⟩
  · rw [fst_computeLevel_of_answers plan answered, composed]
    rfl
  · rw [hget, overlayExtent_levelTiles furnished later]

end Furnished

/-- A whole window leaves its pixel covered on the level. -/
theorem Covered.level_covers {plan : MosaicPlan K n} {start : Vector S n} {level r c : Nat}
    (covered : plan.Covered start) (hl : level < wordBits)
    (wholeY : (r + 1) * 2 ^ level ≤ plan.geometry.size.height)
    (wholeX : (c + 1) * 2 ^ level ≤ plan.geometry.size.width) :
    ∃ p ∈ plan.placements, ((p.bounds start).atLevel level).Covers c r := by
  have hpos : 0 < 2 ^ level := Nat.two_pow_pos level
  have hnextX : (c + 1) * 2 ^ level = c * 2 ^ level + 2 ^ level := Nat.succ_mul c _
  have hnextY : (r + 1) * 2 ^ level = r * 2 ^ level + 2 ^ level := Nat.succ_mul r _
  obtain ⟨p, hp, last⟩ := covered.filled (lastInWindow plan.geometry.size.width level c)
    (lastInWindow plan.geometry.size.height level r) (by
      simp only [Rectangle.Covers, Rectangle.sized, Rectangle.maxX, Rectangle.maxY, lastInWindow]
      omega)
  exact ⟨p, hp, Rectangle.covers_atLevel hl (covered.within p hp) (by omega) (by omega) last
    (fun cut => by omega) fun cut => by omega⟩

end MosaicPlan

end RasterMosaic
