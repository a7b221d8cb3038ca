import RasterMosaic.Scalar

/-!
Longitudes as points of a circle of 360 degrees. Whole turns are taken off in powers of two,
from the largest that the size of the longitude admits, so the number of steps grows with the
number of its digits only.
-/

namespace RasterMosaic

variable {K : Type} [Scalar K] [DecidableLT K]

/-- Takes `2 ^ (k - 1)`, …, two and one whole turns off a longitude, or adds them, where that
does not lead past the opposite end of the range from -180 to 180. -/
def takeTurns : Nat → K → K
  | 0, x => x
  | k + 1, x =>
    let turns : K := ((360 <<< k : Nat) : K)
    let half : K := (180 : Nat)
    takeTurns k <|
      if -half < x - turns then x - turns
      else if x + turns < half then x + turns
      else x

/-- The longitude from -180 to 180 on the same meridian. -/
def normalizeLongitude (x : K) : K := takeTurns ((Scalar.trunc (Scalar.abs x)).log2 + 1) x

end RasterMosaic
