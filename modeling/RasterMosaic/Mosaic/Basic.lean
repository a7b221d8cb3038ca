import RasterMosaic.Config
import RasterMosaic.Pyramid.LevelGeometry
import RasterMosaic.Pyramid.LevelStore
import RasterMosaic.Sample
import RasterMosaic.Source.Basic

/-!
Mosaics over a family of `n` sources. A placement names its source by index, so several may
share one, and sharing is seen in the state of the sources, which is passed beside the mosaic.
The plan of a mosaic never changes; the level images it holds do.
-/

namespace RasterMosaic

/-- A source placed at a level-0 pixel offset. -/
structure Placement (n : Nat) where
  source : Fin n
  x : Nat
  y : Nat

/-- What every level image follows from. -/
structure MosaicPlan (K : Type) (n : Nat) where
  /-- Later placements lie in front. -/
  placements : List (Placement n)
  geometry : LevelGeometry K
  tileSize : Size
  /-- Transparent in every tile, and the sample of a level without any. -/
  noData : Option Float32
  config : Config

structure Mosaic (K : Type) (n : Nat) where
  plan : MosaicPlan K n
  /-- The level images computed since the last reset. -/
  store : LevelStore (Raster Float32)
  disposed : Bool

namespace Mosaic

variable {K S : Type} {n : Nat} [Scalar K] [LevelSource S]

/-- A mosaic of at least one placement. Its no-data value is that of the first one's source. -/
def create [DecidableLT K] (sources : Vector S n) (placements : List (Placement n))
    (size tileSize : Size) (levelCount : Nat) (transform : Affine K) (config : Config) :
    Except RasterError (Mosaic K n) :=
  match placements with
  | [] => .error (.badArgument .nothingPlaced)
  | first :: _ =>
    if tileSize.isEmpty then .error (.badArgument (.mosaicTile tileSize))
    else do
      config.check.mapError .badConfig
      let geometry ← (LevelGeometry.create levelCount transform size).mapError .badArgument
      let noData := (LevelSource.noData (sources.get first.source)).map Sample.narrow
      let plan := { placements, geometry, tileSize, noData, config }
      return ⟨plan, .empty levelCount, false⟩

def withNoData (m : Mosaic K n) (noData : Option Float) : Mosaic K n :=
  { m with plan := { m.plan with noData := noData.map Sample.narrow } }

def heldLevels (m : Mosaic K n) : Nat := m.store.heldCount

def sizeAt (m : Mosaic K n) (level : Nat) : Except RasterError Size :=
  m.plan.geometry.sizeAt level

def transformAt (m : Mosaic K n) (level : Nat) : Except RasterError (Affine K) :=
  m.plan.geometry.imageToModelAt level

end Mosaic

end RasterMosaic
