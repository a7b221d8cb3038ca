import RasterMosaic.Raster.Basic
import RasterMosaic.Error

/-!
Sources of level images. A source answers for one band at several levels and may keep decoded
images between answers, so fetching and releasing change its state; its sizes and its no-data
value do not depend on it.
-/

namespace RasterMosaic

class LevelSource (S : Type) where
  /-- The whole image of a level. -/
  fetch : S → Nat → Except Failure (Raster Float32) × S
  baseSize : S → Size
  tileSize : S → Size
  levelCount : S → Nat
  noData : S → Option Float
  /-- Drops decoded images; later fetches decode again. -/
  release : S → S

/-- The sources with the one at an index in another state. -/
def LevelSource.put {S : Type} {n : Nat} (sources : Vector S n) (k : Fin n) (source : S) :
    Vector S n :=
  sources.set k source k.isLt

end RasterMosaic
