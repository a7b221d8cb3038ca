import RasterMosaic.Error
import RasterMosaic.Sample

/-!
Settings of a mosaic, their defaults, and the checks that make a set of them usable.
-/

namespace RasterMosaic

structure Config where
  /-- The sample of a tile that stands in for an image that could not be decoded. -/
  fillValue : Float32 := 0
  /-- The sample where no tile lies; NaN when absent. -/
  backgroundValue : Option Float32 := none
  minTileSize : Nat := 256
  maxTileSize : Nat := 512
  tileGranularity : Nat := 1
  /-- Levels may be prefetched side by side. The answers are the same. -/
  parallelPrefetch : Bool := true
deriving Inhabited, DecidableEq

namespace Config

def background (c : Config) : Float32 := c.backgroundValue.getD Sample.notANumber

/-- Accepts a usable configuration, or else gives the first error, tile edges before the fill
value. -/
def check (c : Config) : Except ConfigError Unit :=
  if c.minTileSize = 0 then .error .noMinTileSize
  else if c.maxTileSize < c.minTileSize then .error (.tileRange c.maxTileSize c.minTileSize)
  else if c.tileGranularity = 0 then .error .noGranularity
  else if !c.fillValue.isFinite then .error .fillNotFinite
  else .ok ()

end Config

end RasterMosaic
