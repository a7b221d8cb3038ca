import RasterMosaic.Raster.Basic

/-!
Cutting a rectangle out of a raster.
-/

namespace RasterMosaic

namespace Raster

/-- The part from the upper left pixel `(top, left)` up to, and without, row `bottom` and column
`right`, as far as the raster reaches. -/
def crop {α : Type} (image : Raster α) (top left bottom right : Nat) : Raster α :=
  .ofFn (min bottom image.rows - top) (min right image.cols - left) fun r c =>
    image.get (top + r) (left + c) (by omega) (by omega)

end Raster

end RasterMosaic
