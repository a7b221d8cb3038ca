import RasterMosaic.Geocoding.TieGrid

/-!
Geocoding by a latitude and a longitude grid over the same tie points. The way back from a
position on the globe to a pixel is found by Newton steps from the middle of the grid.
-/

namespace RasterMosaic

structure Corners (K : Type) where
  upperLeft : K
  upperRight : K
  lowerLeft : K
  lowerRight : K

def Corners.toList {K : Type} (c : Corners K) : List K :=
  [c.upperLeft, c.upperRight, c.lowerLeft, c.lowerRight]

structure TieGeocoding (K : Type) where
  lat : TieGrid K
  lon : TieGrid K

namespace TieGeocoding

variable {K : Type} [Scalar K] [DecidableLT K]

def create (lat lon : TieGrid K) : Except ArgumentError (TieGeocoding K) :=
  if lat.isAlignedWith lon then .ok ⟨lat, lon.withWrapping⟩ else .error .gridsDiffer

/-- One cell over a raster, from the positions of its corners. -/
def ofCorners (lats lons : Corners K) (offsetX offsetY : K) (raster : Size) :
    Except ArgumentError (TieGeocoding K) := do
  let lat ← TieGrid.spanning "latitude" ⟨2, 2⟩ offsetX offsetY raster lats.toList
  let lon ← TieGrid.spanning "longitude" ⟨2, 2⟩ offsetX offsetY raster lons.toList
  create lat lon

def toGlobe (g : TieGeocoding K) (p : PixelPoint K) : GeoPoint K :=
  ⟨g.lat.valueAt p.x p.y, g.lon.valueAt p.x p.y⟩

/-- A determinant of the gradients below this is too small to divide by. -/
def leastGradient : K := ((1 : Nat) : K) / ((Nat.pow 10 15 : Nat) : K)

/-- Steps below this end the search, in pixels. -/
def tolerance : K := ((1 : Nat) : K) / ((Nat.pow 10 6 : Nat) : K)

/-- The Newton step from a pixel towards a position, unless the grids are flat there. -/
def newtonStep (g : TieGeocoding K) (target : GeoPoint K) (p : PixelPoint K) :
    Option (PixelPoint K) :=
  let lat := g.lat.interpolate p.x p.y
  let lon := g.lon.interpolate p.x p.y
  let missingLat := target.lat - lat.value
  let missingLon := normalizeLongitude (target.lon - lon.value)
  let det := lat.dx * lon.dy - lat.dy * lon.dx
  if Scalar.abs det < leastGradient then none
  else
    some ⟨(missingLat * lon.dy - missingLon * lat.dy) / det,
      (lat.dx * missingLon - lon.dx * missingLat) / det⟩

/-- At most so many Newton steps, until one is within tolerance. -/
def search (g : TieGeocoding K) (target : GeoPoint K) :
    Nat → PixelPoint K → Option (PixelPoint K)
  | 0, _ => none
  | steps + 1, p =>
    (g.newtonStep target p).bind fun step =>
      let next : PixelPoint K := ⟨p.x + step.x, p.y + step.y⟩
      if Scalar.abs step.x < tolerance && Scalar.abs step.y < tolerance then some next
      else g.search target steps next

def maxSteps : Nat := 20

def toPixel (g : TieGeocoding K) (target : GeoPoint K) : Option (PixelPoint K) :=
  if target.isFinite then g.search target maxSteps g.lat.centre else none

end TieGeocoding

end RasterMosaic
