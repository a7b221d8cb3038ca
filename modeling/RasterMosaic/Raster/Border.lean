import RasterMosaic.Raster.Basic
import RasterMosaic.Error

/-!
Border extension: an image grows to a size by repeating its last column and its last row.
-/

namespace RasterMosaic

namespace Raster

/-- The image extended to a size. One of that size already stays as it is, one that is too large
is refused, and an empty one has no border to repeat. -/
def extendBorder {α : Type} (image : Raster α) (target : Size) :
    Except ArgumentError (Raster α) :=
  if target.width < image.cols ∨ target.height < image.rows then
    .error (.exceedsPadding image.size target)
  else if image.cols = target.width ∧ image.rows = target.height then .ok image
  else if h : 0 < image.rows ∧ 0 < image.cols then
    .ok <| .ofFn target.height target.width fun r c =>
      image.get (min r (image.rows - 1)) (min c (image.cols - 1)) (by omega) (by omega)
  else .error .nothingToExtend

end Raster

end RasterMosaic
