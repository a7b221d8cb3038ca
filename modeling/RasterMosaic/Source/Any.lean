import RasterMosaic.Source.Decimated
import RasterMosaic.Source.Listed
import RasterMosaic.Source.Uniform

/-!
Sources of several kinds side by side in one mosaic.
-/

namespace RasterMosaic

inductive AnySource
  | decimated (source : DecimatedPyramid)
  | listed (source : ListedSource)
  | uniform (source : UniformSource)

namespace AnySource

def fetch : AnySource → Nat → Except Failure (Raster Float32) × AnySource
  | .decimated s, level => (LevelSource.fetch s level).map id .decimated
  | .listed s, level => (LevelSource.fetch s level).map id .listed
  | .uniform s, level => (LevelSource.fetch s level).map id .uniform

def release : AnySource → AnySource
  | .decimated s => .decimated (LevelSource.release s)
  | .listed s => .listed (LevelSource.release s)
  | .uniform s => .uniform (LevelSource.release s)

/-- What every kind of source reports about itself. -/
def ask {α : Type} (question : {S : Type} → [LevelSource S] → S → α) : AnySource → α
  | .decimated s => question s
  | .listed s => question s
  | .uniform s => question s

instance : LevelSource AnySource where
  fetch := fetch
  baseSize := ask LevelSource.baseSize
  tileSize := ask LevelSource.tileSize
  levelCount := ask LevelSource.levelCount
  noData := ask LevelSource.noData
  release := release

end AnySource

end RasterMosaic
