import RasterMosaic.Source.Basic

/-!
A source with a list of prepared answers, one per level, that counts how often it is fetched
from and released.
-/

namespace RasterMosaic

structure ListedSource where
  baseSize : Size
  tileSize : Size
  /-- The number of levels it reports, which need not be the number of answers. -/
  levelCount : Nat
  noData : Option Float
  answers : Array (Except RasterError (Raster Float32))
  fetches : Nat := 0
  releases : Nat := 0

namespace ListedSource

def fetch (s : ListedSource) (level : Nat) : Except Failure (Raster Float32) × ListedSource :=
  let answer := s.answers.getD level (.error (.noSuchLevel level s.levelCount))
  (answer.mapError .error, { s with fetches := s.fetches + 1 })

instance : LevelSource ListedSource where
  fetch := fetch
  baseSize := baseSize
  tileSize := tileSize
  levelCount := levelCount
  noData := noData
  release s := { s with releases := s.releases + 1 }

end ListedSource

end RasterMosaic
