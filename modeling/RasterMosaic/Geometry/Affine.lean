import RasterMosaic.Geometry.Point
import RasterMosaic.Error

/-!
Affine transforms of the plane, from image to model coordinates:
`x' = scaleX * x + shearX * y + shiftX` and `y' = shearY * x + scaleY * y + shiftY`.
-/

namespace RasterMosaic

structure Affine (K : Type) where
  scaleX : K
  shearX : K
  shiftX : K
  shearY : K
  scaleY : K
  shiftY : K

namespace Affine

variable {K : Type} [Scalar K]

def identity : Affine K :=
  ⟨(1 : Nat), (0 : Nat), (0 : Nat), (0 : Nat), (1 : Nat), (0 : Nat)⟩

def scaling (sx sy : K) : Affine K :=
  ⟨sx, (0 : Nat), (0 : Nat), (0 : Nat), sy, (0 : Nat)⟩

def shift (tx ty : K) : Affine K :=
  ⟨(1 : Nat), (0 : Nat), tx, (0 : Nat), (1 : Nat), ty⟩

/-- A transform given in the order raster headers use: origin, pixel width and row rotation for
`x`, then origin, column rotation and pixel height for `y`. -/
def ofHeader (originX pixelWidth rowRotation originY colRotation pixelHeight : K) : Affine K :=
  ⟨pixelWidth, rowRotation, originX, colRotation, pixelHeight, originY⟩

def header (t : Affine K) : List K :=
  [t.shiftX, t.scaleX, t.shearX, t.shiftY, t.shearY, t.scaleY]

def coefficients (t : Affine K) : List K :=
  [t.scaleX, t.shearX, t.shiftX, t.shearY, t.scaleY, t.shiftY]

def apply (t : Affine K) (x y : K) : MapPoint K :=
  ⟨t.scaleX * x + t.shearX * y + t.shiftX, t.shearY * x + t.scaleY * y + t.shiftY⟩

/-- The transform that applies `u` first, then `t`. -/
def after (t u : Affine K) : Affine K where
  scaleX := t.scaleX * u.scaleX + t.shearX * u.shearY
  shearX := t.scaleX * u.shearX + t.shearX * u.scaleY
  shiftX := t.scaleX * u.shiftX + t.shearX * u.shiftY + t.shiftX
  shearY := t.shearY * u.scaleX + t.scaleY * u.shearY
  scaleY := t.shearY * u.shearX + t.scaleY * u.scaleY
  shiftY := t.shearY * u.shiftX + t.scaleY * u.shiftY + t.shiftY

/-- The transform that applies `t` first, then `u`. -/
def before (t u : Affine K) : Affine K := u.after t

def det (t : Affine K) : K := t.scaleX * t.scaleY - t.shearX * t.shearY

/-- The gap between one and the next machine number; a smaller determinant counts as zero. -/
def leastDet : K := ((1 : Nat) : K) / ((1 <<< 52 : Nat) : K)

def inverse [DecidableLT K] (t : Affine K) : Except ArgumentError (Affine K) :=
  let det := t.det
  if Scalar.abs det < leastDet || !Scalar.isFinite det then
    .error (.singularTransform (Scalar.toFloat det))
  else
    let scaleX := t.scaleY / det
    let shearX := -t.shearX / det
    let shearY := -t.shearY / det
    let scaleY := t.scaleX / det
    .ok
      { scaleX
        shearX
        shiftX := -(scaleX * t.shiftX + shearX * t.shiftY)
        shearY
        scaleY
        shiftY := -(shearY * t.shiftX + scaleY * t.shiftY) }

def equals (t u : Affine K) : Bool :=
  (t.coefficients.zip u.coefficients).all fun (a, b) => a == b

def isIdentity (t : Affine K) : Bool := t.equals identity

/-- Two numbers are at most `tolerance` apart. No number is within a negative tolerance of
another, not even of itself. -/
def closeTo [DecidableLT K] (tolerance a b : K) : Bool :=
  let distance := Scalar.abs (a - b)
  distance < tolerance || distance == tolerance

def isClose [DecidableLT K] (t u : Affine K) (tolerance : K) : Bool :=
  (t.coefficients.zip u.coefficients).all fun (a, b) => closeTo tolerance a b

end Affine

end RasterMosaic
