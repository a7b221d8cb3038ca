import RasterMosaic.Raster.Basic
import RasterMosaic.Sample

/-!
Painting placed tiles over one another. Later tiles win wherever they hold data; where no tile
does, the background stays. The canvas reaches from the origin to the far edges of the tiles
that are not empty.
-/

namespace RasterMosaic

/-- A raster placed at a pixel offset, with the no-data value of its own source. -/
structure PlacedRaster (T : Type) where
  image : Raster T
  x : Nat
  y : Nat
  noData : Option T

namespace PlacedRaster

variable {T : Type}

def bounds (tile : PlacedRaster T) : Rectangle :=
  ⟨tile.x, tile.y, tile.image.cols, tile.image.rows⟩

/-- The sample a tile holds for a canvas pixel, if it covers the pixel. -/
def at? (tile : PlacedRaster T) (r c : Nat) : Option T :=
  if tile.y ≤ r ∧ tile.x ≤ c then tile.image.get? (r - tile.y) (c - tile.x) else none

/-- The sample a tile shows on a canvas pixel: one it holds there and that is data both to its
own source and to the whole. -/
def visible? [Sample T] (tile : PlacedRaster T) (noData : Option T) (r c : Nat) : Option T :=
  (tile.at? r c).filter fun value => !lacksData value tile.noData && !lacksData value noData

end PlacedRaster

/-- The smallest rectangle from the origin around every tile that is not empty. -/
def overlayExtent {T : Type} (tiles : List (PlacedRaster T)) : Rectangle :=
  let edges := (tiles.map PlacedRaster.bounds).filter fun b => !b.isEmpty
  edges.foldl (fun acc b => .sized ⟨max acc.width b.maxX, max acc.height b.maxY⟩)
    (.sized ⟨0, 0⟩)

def paint {T : Type} [Sample T] (noData : Option T) (canvas : Raster T) (tile : PlacedRaster T) :
    Raster T :=
  .ofFn canvas.rows canvas.cols fun r c =>
    (tile.visible? noData r c).getD (canvas.get r c r.isLt c.isLt)

/-- All tiles painted in order over the background. -/
def overlay {T : Type} [Sample T] (tiles : List (PlacedRaster T)) (background : T)
    (noData : Option T) : Raster T :=
  let bounds := overlayExtent tiles
  tiles.foldl (paint noData) (.filled ⟨bounds.width, bounds.height⟩ background)

/-- What an overlay shows on one pixel: the last tile that shows anything there. -/
def overlaidSample {T : Type} [Sample T] (tiles : List (PlacedRaster T)) (background : T)
    (noData : Option T) (r c : Nat) : T :=
  (tiles.reverse.findSome? fun tile => tile.visible? noData r c).getD background

end RasterMosaic
