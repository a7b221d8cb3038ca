import RasterMosaic.Geometry.Affine
import RasterMosaic.Pyramid.Scale

/-!
The geometry of a pyramid: the size of each level, and the transforms between the pixels of a
level and model coordinates. A pixel of level `l` is `2 ^ l` pixels of level 0 on each side.
-/

namespace RasterMosaic

structure LevelGeometry (K : Type) where
  levelCount : Nat
  /-- The size of level 0. -/
  size : Size
  imageToModel : Affine K
  modelToImage : Affine K

namespace LevelGeometry

variable {K : Type} [Scalar K]

/-- At least one level of at least one pixel, under a transform that can be inverted. -/
def create [DecidableLT K] (levelCount : Nat) (imageToModel : Affine K) (size : Size) :
    Except ArgumentError (LevelGeometry K) :=
  if levelCount = 0 then .error .noLevels
  else if size.isEmpty then .error (.emptyBase size)
  else do
    let modelToImage ← imageToModel.inverse
    return ⟨levelCount, size, imageToModel, modelToImage⟩

def check (g : LevelGeometry K) (level : Nat) : Except RasterError Unit :=
  if g.levelCount ≤ level then .error (.noSuchLevel level g.levelCount) else .ok ()

def sizeAt (g : LevelGeometry K) (level : Nat) : Except RasterError Size := do
  g.check level
  return g.size.atLevel level

def boundsAt (g : LevelGeometry K) (level : Nat) : Except RasterError Rectangle :=
  (g.sizeAt level).map .sized

/-- Level-0 pixels along one pixel of a level. The level is taken as a signed 32-bit number. -/
def pixelScale (level : Nat) : K := Scalar.twoZpow (Int.bmod level (1 <<< 32))

def imageToModelAt (g : LevelGeometry K) (level : Nat) : Except RasterError (Affine K) := do
  g.check level
  let s : K := pixelScale level
  return g.imageToModel.after (.scaling s s)

def modelToImageAt (g : LevelGeometry K) (level : Nat) : Except RasterError (Affine K) := do
  g.check level
  let s : K := (1 : Nat) / pixelScale level
  return (Affine.scaling s s).after g.modelToImage

end LevelGeometry

/-- The coarsest level whose pixels are no coarser than `scale` level-0 pixels. -/
def LevelGeometry.coarsestWithin (g : LevelGeometry Float) (scale : Float) : Nat :=
  if scale > 1 then min scale.log2.toUInt64.toNat (g.levelCount - 1) else 0

end RasterMosaic
