import RasterMosaic.Proofs.Mosaic.Covering
import RasterMosaic.Proofs.Source.Listed

/-!
Seams in the level images of a covered scene. Wherever a window lies whole in the scene its pixel
is taken from a component. In the windows that the scene ends in it is just when the pixel
nearest to it within the extent of the tiles is covered, and else it is a hole that shows the
background, though the components leave nothing open.
-/

namespace RasterMosaic

variable {K S : Type} {n : Nat} [LevelSource S]

theorem Placement.Gives.covers {p : Placement n} {start : Vector S n} {level r c : Nat}
    {value : Float32} (h : p.Gives start level r c value)
    (furnishes : LevelSource.Furnishes (start.get p.source) level) :
    ((p.bounds start).atLevel level).Covers c r := by
  obtain ⟨source, image, later, answer, covers, _⟩ := h
  obtain ⟨given, same, hsize⟩ := furnishes source later
  obtain rfl : image = given := Except.ok.inj (answer.symm.trans same)
  rwa [place_eq_atLevel hsize] at covers

namespace Mosaic

section Image
variable [Scalar K] [DecidableLT K] {m now : Mosaic K n} {start sources : Vector S n}
  {level : Nat}

/-- A covered scene has its level images. A pixel shows what the nearest one within the extent of
the tiles shows, a component if there is one, and else the background. -/
theorem image_of_covered (built : Built S m) (covered : m.plan.Covered start)
    (furnished : ∀ p ∈ m.plan.placements, LevelSource.Furnishes (start.get p.source) level)
    (solid : ∀ p ∈ m.plan.placements,
      LevelSource.Solid (start.get p.source) level m.plan.noData)
    (reached : Reached m start now sources) (active : now.disposed = false)
    (inRange : level < m.plan.geometry.levelCount) :
    ∃ image, (now.image level sources).1 = .ok image ∧
      image.size = m.plan.geometry.size.atLevel level ∧
      ∀ r c value, image.get? r c = some value →
        let extent := (overlayExtent (m.plan.levelTiles level start)).size
        let r' := min r (extent.height - 1)
        let c' := min c (extent.width - 1)
        ((∃ p ∈ m.plan.placements, ((p.bounds start).atLevel level).Covers c' r') →
          ∃ p ∈ m.plan.placements, p.Gives start level r' c' value) ∧
        ((¬ ∃ p ∈ m.plan.placements, ((p.bounds start).atLevel level).Covers c' r') →
          value = m.plan.config.background) := by
  obtain ⟨past, later, same⟩ := reached.fst_image built active inRange
  obtain ⟨image, computed, hsize, hget⟩ :=
    MosaicPlan.computeLevel_of_covered furnished later covered built.scene_isEmpty
  refine ⟨image, same.trans computed, hsize, fun r c value sample => ?_⟩
  obtain ⟨hr, hc⟩ := Raster.lt_of_get?_eq_some sample
  rw [image.get?_eq_some_get hr hc, hget r c hr hc] at sample
  obtain rfl := Option.some.inj sample
  exact ⟨MosaicPlan.gives_overlaidSample furnished later solid,
    MosaicPlan.overlaidSample_eq_background furnished later⟩

end Image

/-- Where a window lies whole in a covered scene, the image of some component lies over its pixel
on the level, so the mosaic takes the pixel from a component. -/
theorem taken_within_scene [Scalar K] [DecidableLT K] {m : Mosaic K n} (built : Built S m)
    {start : Vector S n} (covered : m.plan.Covered start) {level : Nat} (hl : level < wordBits)
    (furnished : ∀ p ∈ m.plan.placements, LevelSource.Furnishes (start.get p.source) level) :
    let scene := m.plan.geometry.size
    (∀ later, AllLater start later →
      ∀ r c, (r + 1) * 2 ^ level ≤ scene.height → (c + 1) * 2 ^ level ≤ scene.width →
        ∃ p ∈ m.plan.placements, ∃ image,
          (LevelSource.fetch (later.get p.source) level).1 = .ok image ∧
          (p.place level image).Covers c r) ∧
    ((∀ p ∈ m.plan.placements,
        LevelSource.Solid (start.get p.source) level m.plan.noData) →
      ∀ now sources, Reached m start now sources → now.disposed = false →
        level < m.plan.geometry.levelCount →
        ∃ image, (now.image level sources).1 = .ok image ∧
          ∀ r c, (r + 1) * 2 ^ level ≤ scene.height → (c + 1) * 2 ^ level ≤ scene.width →
            ∃ value, image.get? r c = some value ∧
              ∃ p ∈ m.plan.placements, p.Gives start level r c value) := by
  intro scene
  constructor
  · intro later hlater r c wholeY wholeX
    obtain ⟨p, hp, covers⟩ := covered.level_covers hl wholeY wholeX
    obtain ⟨image, answer, hsize⟩ := furnished p hp _ (hlater p.source)
    exact ⟨p, hp, image, answer, by rwa [Placement.place_eq_atLevel hsize]⟩
  · intro solid now sources reached active inRange
    obtain ⟨image, answer, hsize, pixels⟩ :=
      image_of_covered built covered furnished solid reached active inRange
    refine ⟨image, answer, fun r c wholeY wholeX => ?_⟩
    obtain ⟨p, hp, covers⟩ := covered.level_covers hl wholeY wholeX
    obtain ⟨hr, hc⟩ := MosaicPlan.lt_extent_of_covers furnished (.refl start) hp covers
    obtain ⟨fitX, fitY⟩ := MosaicPlan.fitsIn_of_covered furnished (.refl start) covered
    rw [← hsize] at fitX fitY
    have sample := image.get?_eq_some_get (Nat.lt_of_lt_of_le hr fitY) (Nat.lt_of_lt_of_le hc fitX)
    have given := (pixels r c _ sample).1
    obtain ⟨hr', hc'⟩ := MosaicPlan.min_extent_of_covers furnished (.refl start) hp covers
    rw [hr', hc'] at given
    exact ⟨_, sample, given ⟨p, hp, covers⟩⟩

/-- A source of two levels with one sample everywhere. -/
def flatSource (base : Size) : ListedSource where
  baseSize := base
  tileSize := ⟨4, 4⟩
  levelCount := 2
  noData := none
  answers := #[.ok (.filled base 7), .ok (.filled (base.atLevel 1) 7)]

theorem fetch_flatSource (base : Size) :
    (LevelSource.fetch (flatSource base) 1).1 = .ok (.filled (base.atLevel 1) 7) := rfl

theorem furnishes_flatSource (base : Size) : LevelSource.Furnishes (flatSource base) 1 :=
  ListedSource.furnishes_of_fetch (fetch_flatSource base) rfl

theorem solid_flatSource (base : Size) : LevelSource.Solid (flatSource base) 1 none := by
  apply ListedSource.solid_of_fetch (fetch_flatSource base)
  intro r c value sample
  obtain rfl := Raster.eq_of_get?_filled sample
  have data : lacksData (7 : Float32) none = false := by decide
  exact ⟨data, data⟩

/-- Two components side by side over one that is as wide as both, in a scene of 5 by 4 pixels. -/
def staggeredSources : Vector ListedSource 3 :=
  #v[flatSource ⟨3, 2⟩, flatSource ⟨2, 2⟩, flatSource ⟨5, 2⟩]

def staggeredPlacements : List (Placement 3) := [⟨0, 0, 0⟩, ⟨1, 3, 0⟩, ⟨2, 0, 2⟩]

def staggeredScene : Mosaic Rat 3 :=
  fresh
    { placements := staggeredPlacements
      geometry := ⟨2, ⟨5, 4⟩, .identity, .identity⟩
      tileSize := ⟨4, 4⟩
      noData := none
      config := { backgroundValue := some (-5) } }

theorem create_staggeredScene :
    create staggeredSources staggeredPlacements ⟨5, 4⟩ ⟨4, 4⟩ 2 Affine.identity
      { backgroundValue := some (-5) } = .ok staggeredScene :=
  create_eq_ok_iff.mpr
    ⟨_, _, _, rfl, rfl, rfl, LevelGeometry.create_eq_ok_iff.mpr
      ⟨by decide, rfl, _, Affine.inverse_identity, rfl⟩, rfl⟩

theorem built_staggeredScene : Built ListedSource staggeredScene := .create create_staggeredScene

theorem covered_staggeredScene : staggeredScene.plan.Covered staggeredSources where
  within := by decide
  filled px py inside := by
    have cells : ∀ px < 5, ∀ py < 4, ∃ p ∈ staggeredPlacements,
        (p.bounds staggeredSources).Covers px py := by decide
    obtain ⟨_, hx, _, hy⟩ := inside
    have hx : px < 0 + 5 := hx
    have hy : py < 0 + 4 := hy
    exact cells px (by omega) py (by omega)

theorem get_staggeredSources (k : Fin 3) : ∃ base, staggeredSources.get k = flatSource base := by
  match k with
  | 0 | 1 | 2 => exact ⟨_, rfl⟩

theorem furnished_staggeredScene : ∀ p ∈ staggeredScene.plan.placements,
    LevelSource.Furnishes (staggeredSources.get p.source) 1 := by
  intro p _
  obtain ⟨base, hbase⟩ := get_staggeredSources p.source
  rw [hbase]
  exact furnishes_flatSource base

theorem solid_staggeredScene : ∀ p ∈ staggeredScene.plan.placements,
    LevelSource.Solid (staggeredSources.get p.source) 1 staggeredScene.plan.noData := by
  intro p _
  obtain ⟨base, hbase⟩ := get_staggeredSources p.source
  rw [hbase]
  exact solid_flatSource base

theorem taken_within_staggeredScene :
    ∃ image, (staggeredScene.image 1 staggeredSources).1 = .ok image ∧
      ∀ r c, (r + 1) * 2 ≤ 4 → (c + 1) * 2 ≤ 5 →
        ∃ value, image.get? r c = some value ∧
          ∃ p ∈ staggeredPlacements, p.Gives staggeredSources 1 r c value :=
  (taken_within_scene built_staggeredScene covered_staggeredScene (by decide)
    furnished_staggeredScene).2 solid_staggeredScene staggeredScene staggeredSources .start rfl
    (by decide)

/-- The windows that a covered scene ends in. Their pixels are taken from a component exactly when
one covers the nearest pixel within the extent of the tiles, and are holes otherwise. A component
that reaches the end of the window covers the pixel if it starts, within its own first window,
before the place at which the scene ends in its last. -/
theorem taken_at_edges [Scalar K] [DecidableLT K] {m : Mosaic K n} (built : Built S m)
    {start : Vector S n} (covered : m.plan.Covered start) {level : Nat} (hl : level < wordBits)
    (furnished : ∀ p ∈ m.plan.placements, LevelSource.Furnishes (start.get p.source) level)
    (solid : ∀ p ∈ m.plan.placements,
      LevelSource.Solid (start.get p.source) level m.plan.noData)
    {now : Mosaic K n} {sources : Vector S n} (reached : Reached m start now sources)
    (active : now.disposed = false) (inRange : level < m.plan.geometry.levelCount) :
    let scene := m.plan.geometry.size
    let covers (r c : Nat) :=
      ∃ p ∈ m.plan.placements, ((p.bounds start).atLevel level).Covers c r
    ∃ image, ∃ extent : Size, (now.image level sources).1 = .ok image ∧
      image.size = scene.atLevel level ∧
      (∀ later, AllLater start later → extent.IsExtent (m.plan.levelTiles level later)) ∧
      ∀ r c value, image.get? r c = some value →
        scene.height < (r + 1) * 2 ^ level ∨ scene.width < (c + 1) * 2 ^ level →
        let r' := min r (extent.height - 1)
        let c' := min c (extent.width - 1)
        ((∃ p ∈ m.plan.placements, p.Gives start level r' c' value) ↔ covers r' c') ∧
        (¬ covers r' c' → value = m.plan.config.background) ∧
        ((∃ p ∈ m.plan.placements,
            (p.bounds start).Covers (lastInWindow scene.width level c)
              (lastInWindow scene.height level r) ∧
            (scene.width < (c + 1) * 2 ^ level → p.x % 2 ^ level < scene.width % 2 ^ level) ∧
            (scene.height < (r + 1) * 2 ^ level →
              p.y % 2 ^ level < scene.height % 2 ^ level)) →
          ∃ p ∈ m.plan.placements, p.Gives start level r c value) := by
  intro scene covers
  obtain ⟨image, answer, hsize, pixels⟩ :=
    image_of_covered built covered furnished solid reached active inRange
  refine ⟨image, (overlayExtent (m.plan.levelTiles level start)).size, answer, hsize, ?_, ?_⟩
  · intro later hlater
    rw [← MosaicPlan.overlayExtent_levelTiles furnished hlater]
    exact isExtent_overlayExtent _
  · intro r c value sample _ r' c'
    obtain ⟨given, hole⟩ := pixels r c value sample
    refine ⟨⟨?_, given⟩, hole, ?_⟩
    · rintro ⟨p, hp, gives⟩
      exact ⟨p, hp, gives.covers (furnished p hp)⟩
    · rintro ⟨p, hp, last, phaseX, phaseY⟩
      obtain ⟨hr, hc⟩ := Raster.lt_of_get?_eq_some sample
      have hrows : image.rows = _ := congrArg Size.height hsize
      have hcols : image.cols = _ := congrArg Size.width hsize
      rw [hrows] at hr
      rw [hcols] at hc
      have lies := Rectangle.covers_atLevel hl (covered.within p hp)
        ((lt_lengthAtLevel_iff hl).mp hr) ((lt_lengthAtLevel_iff hl).mp hc) last phaseX phaseY
      obtain ⟨hr', hc'⟩ := MosaicPlan.min_extent_of_covers furnished (.refl start) hp lies
      rw [hr', hc'] at given
      exact given ⟨p, hp, lies⟩

/-- The lower component is taken as far as the scene goes. -/
theorem taken_at_edges_staggered :
    ∃ image value, (staggeredScene.image 1 staggeredSources).1 = .ok image ∧
      image.get? 1 2 = some value ∧
      ∃ p ∈ staggeredPlacements, p.Gives staggeredSources 1 1 2 value := by
  obtain ⟨image, extent, answer, hsize, _, pixels⟩ :=
    taken_at_edges built_staggeredScene covered_staggeredScene (by decide)
      furnished_staggeredScene solid_staggeredScene .start rfl (by decide)
  have hrows : image.rows = 2 := congrArg Size.height hsize
  have hcols : image.cols = 3 := congrArg Size.width hsize
  have sample := image.get?_eq_some_get (by omega : 1 < image.rows) (by omega : 2 < image.cols)
  obtain ⟨_, _, reached⟩ := pixels 1 2 _ sample (.inr (by decide))
  exact ⟨image, _, answer, sample, reached (by decide)⟩

/-- The last pixel of the upper row is in no component. The one that ends the scene there starts in
the second half of a window, and the lower one is what makes the extent so wide. -/
theorem hole_at_edge_staggered :
    (Built ListedSource staggeredScene ∧ staggeredScene.plan.Covered staggeredSources ∧
      (∀ p ∈ staggeredPlacements,
        LevelSource.Furnishes (staggeredSources.get p.source) 1 ∧
        LevelSource.Solid (staggeredSources.get p.source) 1 none)) ∧
    ∃ image, (staggeredScene.image 1 staggeredSources).1 = .ok image ∧
      image.get? 0 2 = some (-5) ∧ 5 < (2 + 1) * 2 ^ 1 ∧
      ∀ p ∈ staggeredPlacements, ∀ r c, ¬ p.Gives staggeredSources 1 r c (-5) := by
  refine ⟨⟨built_staggeredScene, covered_staggeredScene, fun p hp =>
    ⟨furnished_staggeredScene p hp, solid_staggeredScene p hp⟩⟩, ?_⟩
  obtain ⟨image, answer, hsize, pixels⟩ :=
    image_of_covered built_staggeredScene covered_staggeredScene furnished_staggeredScene
      solid_staggeredScene .start rfl (by decide)
  have hrows : image.rows = 2 := congrArg Size.height hsize
  have hcols : image.cols = 3 := congrArg Size.width hsize
  have sample := image.get?_eq_some_get (by omega : 0 < image.rows) (by omega : 2 < image.cols)
  have hole := (pixels 0 2 _ sample).2 (by decide)
  refine ⟨image, answer, sample.trans (congrArg some hole), by decide, ?_⟩
  rintro p _ r c ⟨source, given, later, same, _, here⟩
  obtain ⟨base, hbase⟩ := get_staggeredSources p.source
  rw [hbase] at later
  have flat := ListedSource.fetch_of_later (fetch_flatSource base) later
  obtain rfl := Except.ok.inj (flat.symm.trans same)
  exact absurd (Raster.eq_of_get?_filled here) (by decide)

end Mosaic
end RasterMosaic
