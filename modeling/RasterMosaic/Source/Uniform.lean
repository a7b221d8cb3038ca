import RasterMosaic.Source.Basic

/-!
A source that has one raster for every level, and nothing to release.
-/

namespace RasterMosaic

structure UniformSource where
  raster : Raster Float32
  levelCount : Nat

instance : LevelSource UniformSource where
  fetch s _ := (.ok s.raster, s)
  baseSize s := s.raster.size
  tileSize s := s.raster.size
  levelCount := UniformSource.levelCount
  noData _ := none
  release s := s

end RasterMosaic
