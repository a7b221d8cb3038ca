import RasterMosaic.Geocoding.Longitude
import RasterMosaic.Geometry.Point
import RasterMosaic.Raster.Basic
import RasterMosaic.Error

/-!
Sparse grids of samples over a raster. Between tie points the grid is bilinear, past the outer
ones it is extended by the outermost cells. Every grid has a cell, so every position has one.
-/

namespace RasterMosaic

structure TieGrid (K : Type) where
  name : String
  /-- The pixel position of the first tie point. -/
  offsetX : K
  offsetY : K
  /-- Pixels between neighbouring tie points. -/
  spacingX : K
  spacingY : K
  points : Raster K
  two_le_rows : 2 ≤ points.rows
  two_le_cols : 2 ≤ points.cols
  /-- The samples are longitudes, which jump where 180 meets -180. -/
  wraps : Bool

/-- The samples at the corners of a cell: `p10` to the right of `p00`, `p01` below it. -/
structure Cell (K : Type) where
  p00 : K
  p10 : K
  p01 : K
  p11 : K

structure Gradient (K : Type) where
  value : K
  dx : K
  dy : K

variable {K : Type} [Scalar K]

namespace Cell

def toList (c : Cell K) : List K := [c.p00, c.p10, c.p01, c.p11]

def map (f : K → K) (c : Cell K) : Cell K := ⟨f c.p00, f c.p10, f c.p01, f c.p11⟩

/-- Two corners are more than half a turn apart. -/
def crossesAntimeridian [DecidableLT K] (c : Cell K) : Bool :=
  c.toList.any fun a => c.toList.any fun b => ((180 : Nat) : K) < a - b

/-- The longitudes of a cell as one continuous range: across the antimeridian, western ones
count on past 180. -/
def unwrapped [DecidableLT K] (c : Cell K) : Cell K :=
  if c.crossesAntimeridian then
    c.map fun p => if p < (0 : Nat) then p + (360 : Nat) else p
  else c

/-- The bilinear value at the fractions `u` across and `v` down. -/
def bilinear (c : Cell K) (u v : K) : K :=
  let one : K := (1 : Nat)
  (one - u) * (one - v) * c.p00 + u * (one - v) * c.p10 + (one - u) * v * c.p01 + u * v * c.p11

def gradient (c : Cell K) (u v : K) : Gradient K :=
  let one : K := (1 : Nat)
  { value := c.bilinear u v
    dx := (one - v) * (c.p10 - c.p00) + v * (c.p11 - c.p01)
    dy := (one - u) * (c.p01 - c.p00) + u * (c.p11 - c.p10) }

end Cell

namespace TieGrid

def withWrapping (g : TieGrid K) : TieGrid K := { g with wraps := true }

/-- The tie points lie at the same places. -/
def isAlignedWith (g h : TieGrid K) : Bool :=
  g.points.size == h.points.size && g.offsetX == h.offsetX && g.offsetY == h.offsetY &&
    g.spacingX == h.spacingX && g.spacingY == h.spacingY

/-- The column of the cell for a position in units of the spacing: the last cell whose left edge
is not beyond it, within the grid. -/
def cellColumn (g : TieGrid K) (position : K) : Nat :=
  min (Scalar.trunc position) (g.points.cols - 2)

def cellRow (g : TieGrid K) (position : K) : Nat :=
  min (Scalar.trunc position) (g.points.rows - 2)

/-- The stored samples of a cell of the grid. -/
def storedCell (g : TieGrid K) (i j : Nat) (hi : i + 1 < g.points.cols)
    (hj : j + 1 < g.points.rows) : Cell K where
  p00 := g.points.get j i (by omega) (by omega)
  p10 := g.points.get j (i + 1) (by omega) hi
  p01 := g.points.get (j + 1) i hj (by omega)
  p11 := g.points.get (j + 1) (i + 1) hj hi

theorem cellColumn_lt (g : TieGrid K) (position : K) :
    g.cellColumn position + 1 < g.points.cols := by
  have := g.two_le_cols
  unfold cellColumn
  omega

theorem cellRow_lt (g : TieGrid K) (position : K) :
    g.cellRow position + 1 < g.points.rows := by
  have := g.two_le_rows
  unfold cellRow
  omega

def centre (g : TieGrid K) : PixelPoint K where
  x := g.offsetX + g.spacingX * ((g.points.cols - 1 : Nat) : K) / ((2 : Nat) : K)
  y := g.offsetY + g.spacingY * ((g.points.rows - 1 : Nat) : K) / ((2 : Nat) : K)

variable [DecidableLT K]

def create (name : String) (offsetX offsetY spacingX spacingY : K) (points : Raster K) :
    Except ArgumentError (TieGrid K) :=
  let zero : K := (0 : Nat)
  if h : 2 ≤ points.rows ∧ 2 ≤ points.cols then
    if zero < spacingX && zero < spacingY then
      .ok ⟨name, offsetX, offsetY, spacingX, spacingY, points, h.1, h.2, false⟩
    else .error (.gridSpacing name (Scalar.toFloat spacingX) (Scalar.toFloat spacingY))
  else .error (.gridPoints name points.size)

/-- A grid whose first and last tie points lie at opposite corners of a raster, up to the
offset. -/
def spanning (name : String) (gridSize : Size) (offsetX offsetY : K) (raster : Size)
    (samples : List K) : Except ArgumentError (TieGrid K) :=
  if gridSize.width < 2 ∨ gridSize.height < 2 then .error (.spannedGridPoints name)
  else if raster.isEmpty then .error (.gridSpansNothing name)
  else
    match Raster.ofList? gridSize.height gridSize.width samples with
    | none =>
      .error (if samples.length < gridSize.height * gridSize.width then .tooFewGridSamples name
        else .tooManyGridSamples name)
    | some points =>
      create name offsetX offsetY
        ((raster.width : K) / ((gridSize.width - 1 : Nat) : K))
        ((raster.height : K) / ((gridSize.height - 1 : Nat) : K)) points

/-- The cell a pair of positions falls into, longitudes made continuous. -/
def cell (g : TieGrid K) (across down : K) : Cell K :=
  let stored := g.storedCell (g.cellColumn across) (g.cellRow down)
    (g.cellColumn_lt across) (g.cellRow_lt down)
  if g.wraps then stored.unwrapped else stored

/-- The value at a pixel position and its derivatives by the pixel coordinates. -/
def interpolate (g : TieGrid K) (x y : K) : Gradient K :=
  let across := (x - g.offsetX) / g.spacingX
  let down := (y - g.offsetY) / g.spacingY
  let u := across - (g.cellColumn across : K)
  let v := down - (g.cellRow down : K)
  let inCell := (g.cell across down).gradient u v
  { inCell with dx := inCell.dx / g.spacingX, dy := inCell.dy / g.spacingY }

def valueAt (g : TieGrid K) (x y : K) : K :=
  let value := (g.interpolate x y).value
  if g.wraps then normalizeLongitude value else value

end TieGrid

end RasterMosaic
