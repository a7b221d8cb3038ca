import RasterMosaic.Raster.Decimation
import RasterMosaic.Pyramid.LevelStore
import RasterMosaic.Source.Basic

/-!
A pyramid made from one raster in memory. Level 0 is the raster itself, held from the start;
coarser levels are decimated on first request and held until released.
-/

namespace RasterMosaic

structure DecimatedPyramid where
  base : Raster Float32
  tileSize : Size
  levelCount : Nat
  noData : Option Float
  /-- The base, and the coarser levels decoded since the last release. -/
  levels : LevelStore (Raster Float32)
  decodeCount : Nat

namespace DecimatedPyramid

def create (base : Raster Float32) (tileSize : Size) (levelCount : Nat)
    (noData : Option Float) : Except ArgumentError DecimatedPyramid :=
  if base.isEmpty then .error .nothingToDecimate
  else if tileSize.isEmpty then .error (.sourceTile tileSize)
  else if levelCount = 0 then .error .noLevels
  else .ok ⟨base, tileSize, levelCount, noData, (LevelStore.empty levelCount).hold 0 base, 0⟩

/-- Levels held in memory, the base among them. -/
def heldLevels (s : DecimatedPyramid) : Nat := s.levels.heldCount

/-- One decoding of a level, counted. A window edge of `2 ^ level` pixels has to be a machine
word. -/
def decode (base : Raster Float32) (noData : Option Float) (level decodeCount : Nat) :
    Except Failure (Raster Float32) × Nat :=
  if wordBits ≤ level then (.error (.fault .shiftOverflow), decodeCount)
  else (.ok (base.decimate noData level), decodeCount + 1)

def fetch (s : DecimatedPyramid) (level : Nat) :
    Except Failure (Raster Float32) × DecimatedPyramid :=
  if s.levelCount ≤ level then
    (.error (.error (.noSuchLevel level s.levelCount)), s)
  else
    let (answer, levels, decodeCount) :=
      s.levels.ensure level (decode s.base s.noData level) s.decodeCount
    (answer, { s with levels, decodeCount })

def release (s : DecimatedPyramid) : DecimatedPyramid :=
  { s with levels := s.levels.dropCoarser }

instance : LevelSource DecimatedPyramid where
  fetch := fetch
  baseSize s := s.base.size
  tileSize := tileSize
  levelCount := levelCount
  noData := noData
  release := release

end DecimatedPyramid

end RasterMosaic
