import RasterMosaic.Crs.Transform
import RasterMosaic.Geometry.Affine

/-!
Geocoding anchored in a map: an affine transform leads from pixels to map coordinates of a
reference system, whose projection leads on to the globe.
-/

namespace RasterMosaic

/-- Map coordinates of a raster's first pixel and the step from pixel to pixel. -/
structure MapAnchor (K : Type) where
  x : K
  y : K
  stepX : K
  stepY : K

structure MapGeocoding (K : Type) where
  system : ReferenceSystem
  size : Size
  imageToMap : Affine K

namespace MapGeocoding

variable {K : Type} [Scalar K]

/-- The reference pixel lies at the easting and northing; map `y` decreases down the raster. -/
def create (system : ReferenceSystem) (size : Size)
    (easting northing pixelX pixelY refX refY : K) : Except ArgumentError (MapGeocoding K) :=
  let zero : K := (0 : Nat)
  if size.isEmpty then .error (.emptyGeocodedRaster size)
  else if pixelX == zero || pixelY == zero then
    .error (.zeroPixelSize (Scalar.toFloat pixelX) (Scalar.toFloat pixelY))
  else
    .ok ⟨system, size,
      ⟨pixelX, zero, easting - refX * pixelX, zero, -pixelY, northing + refY * pixelY⟩⟩

/-- The first pixel is the reference pixel. -/
def ofAnchor (system : ReferenceSystem) (size : Size) (p : MapAnchor K) :
    Except ArgumentError (MapGeocoding K) :=
  create system size p.x p.y p.stepX p.stepY (0 : Nat) (0 : Nat)

variable [MapProjection K]

def toGlobe (g : MapGeocoding K) (p : PixelPoint K) : Except RasterError (GeoPoint K) :=
  (g.system.toGeographic (g.imageToMap.apply p.x p.y)).mapError .badSystem

def toPixel [DecidableLT K] (g : MapGeocoding K) (p : GeoPoint K) :
    Except RasterError (PixelPoint K) := do
  let map ← (g.system.fromGeographic p).mapError .badSystem
  let mapToImage ← g.imageToMap.inverse.mapError .badArgument
  let pixel := mapToImage.apply map.x map.y
  return ⟨pixel.x, pixel.y⟩

end MapGeocoding

end RasterMosaic
