import RasterMosaic.Mosaic.Level
import RasterMosaic.Raster.Crop

/-!
Requests to a mosaic: level images, tiles, prefetching, resetting and disposing. Each takes the
mosaic and its sources and gives back both; level images are computed once and held until the
next reset.
-/

namespace RasterMosaic

namespace Mosaic

variable {K S : Type} {n : Nat} [Scalar K] [LevelSource S]

/-- The image of a level, of exactly the level's size. -/
def image (m : Mosaic K n) (level : Nat) (sources : Vector S n) :
    Except Failure (Raster Float32) × Mosaic K n × Vector S n :=
  if m.disposed then (.error (.error .disposed), m, sources)
  else
    match m.plan.geometry.check level with
    | .error cause => (.error (.error cause), m, sources)
    | .ok () =>
      let (image, store, sources) := m.store.ensure level (m.plan.computeLevel level) sources
      (image, { m with store }, sources)

/-- The tile in one column and row of tiles, cut off at the right and bottom edges. -/
def cutTile (tileSize : Size) (level tileX tileY : Nat) (image : Raster Float32) :
    Except ArgumentError (Raster Float32) :=
  let x := tileX * tileSize.width
  let y := tileY * tileSize.height
  if image.cols ≤ x ∨ image.rows ≤ y then
    .error (.tileOutside tileX tileY level image.size)
  else .ok (image.crop y x (y + tileSize.height) (x + tileSize.width))

def tile (m : Mosaic K n) (level tileX tileY : Nat) (sources : Vector S n) :
    Except Failure (Raster Float32) × Mosaic K n × Vector S n :=
  let (image, m, sources) := m.image level sources
  let tile := image.bind fun image =>
    (cutTile m.plan.tileSize level tileX tileY image).mapError (.error ∘ .badArgument)
  (tile, m, sources)

/-- The images of several levels in turn, up to the first that fails. -/
def images (m : Mosaic K n) : List Nat → Vector S n →
    Except Failure (List (Raster Float32)) × Mosaic K n × Vector S n
  | [], sources => (.ok [], m, sources)
  | level :: rest, sources =>
    match m.image level sources with
    | (.error failure, m, sources) => (.error failure, m, sources)
    | (.ok image, m, sources) =>
      let (images, m, sources) := m.images rest sources
      (images.map (image :: ·), m, sources)

/-- The images of all levels, finest first. -/
def prefetch (m : Mosaic K n) (sources : Vector S n) :
    Except Failure (List (Raster Float32)) × Mosaic K n × Vector S n :=
  m.images (List.range m.plan.geometry.levelCount) sources

/-- Releases each placement's source, once for every placement that uses it. -/
def releaseSources (placements : List (Placement n)) (sources : Vector S n) : Vector S n :=
  placements.foldl
    (fun sources p =>
      LevelSource.put sources p.source (LevelSource.release (sources.get p.source))) sources

/-- Forgets every level image and releases the sources. -/
def reset (m : Mosaic K n) (sources : Vector S n) : Mosaic K n × Vector S n :=
  let (store, sources) := m.store.resetAfter (releaseSources m.plan.placements) sources
  ({ m with store }, sources)

/-- Resets and refuses level images from now on. A disposed mosaic stays as it is. -/
def dispose (m : Mosaic K n) (sources : Vector S n) : Mosaic K n × Vector S n :=
  if m.disposed then (m, sources) else { m with disposed := true }.reset sources

end Mosaic

end RasterMosaic
