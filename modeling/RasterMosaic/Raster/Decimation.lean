import RasterMosaic.Raster.Basic
import RasterMosaic.Pyramid.Scale
import RasterMosaic.Sample

/-!
Decimation: a sample of level `l` is the mean of the samples in its window, `2 ^ l` pixels on
each side and cut off at the edges of the raster. Only valid samples count; a window without any
gives the no-data value. The sum is taken row by row in the wide format.
-/

namespace RasterMosaic

/-- The sample is a number and, widened, is not the no-data value. -/
def countsInMean (noData : Option Float) (value : Float32) : Bool :=
  !value.isNaN && !noData.any fun mark => Sample.widen value == mark

namespace Raster

/-- The base rows or columns that one pixel of a level stands for, in order. -/
def windowSpan (length level k : Nat) : List Nat :=
  let first := k <<< level
  List.range' first (min ((k + 1) <<< level) length - first)

def windowPixels (base : Raster Float32) (level r c : Nat) : List (Nat × Nat) :=
  (windowSpan base.rows level r).flatMap fun i =>
    (windowSpan base.cols level c).map fun j => (i, j)

def windowSamples (base : Raster Float32) (level r c : Nat) : List Float32 :=
  (base.windowPixels level r c).filterMap fun (i, j) => base.get? i j

/-- The mean of the valid samples, rounded to the narrow format. -/
def meanOfValid (noData : Option Float) (samples : List Float32) : Float32 :=
  let valid := samples.filter (countsInMean noData)
  if valid.isEmpty then
    match noData with
    | some mark => Sample.narrow mark
    | none => Sample.notANumber
  else
    let sum := valid.foldl (fun acc v => acc + Sample.widen v) 0
    Sample.narrow (sum / Float.ofNat valid.length)

/-- The raster at a level, each of its samples from one window. -/
def decimate (base : Raster Float32) (noData : Option Float) (level : Nat) :
    Raster Float32 :=
  .ofFn (lengthAtLevel base.rows level) (lengthAtLevel base.cols level) fun r c =>
    meanOfValid noData (base.windowSamples level r c)

end Raster

end RasterMosaic
