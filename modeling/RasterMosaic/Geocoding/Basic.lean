import RasterMosaic.Geocoding.MapGeocoding
import RasterMosaic.Geocoding.TieGeocoding

/-!
The geocoding of a scene or a band, by a map or by tie points.
-/

namespace RasterMosaic

inductive Geocoding (K : Type)
  | map (geocoding : MapGeocoding K)
  | tiePoints (geocoding : TieGeocoding K)

namespace Geocoding

variable {K : Type} [Scalar K]

/-- The place a pixel shows, if the map can tell. -/
def toGlobe [DecidableLT K] [MapProjection K] (g : Geocoding K) (p : PixelPoint K) :
    Option (GeoPoint K) :=
  match g with
  | .map g => (g.toGlobe p).toOption
  | .tiePoints g => some (g.toGlobe p)

/-- The pixel that shows a place, if one is found. -/
def toPixel [DecidableLT K] [MapProjection K] (g : Geocoding K) (p : GeoPoint K) :
    Option (PixelPoint K) :=
  match g with
  | .map g => (g.toPixel p).toOption
  | .tiePoints g => g.toPixel p

/-- The transform to map coordinates; tie points have no map and keep pixels as they are. -/
def imageToModel : Geocoding K → Affine K
  | .map g => g.imageToMap
  | .tiePoints _ => .identity

def systemCode? : Geocoding K → Option String
  | .map g => some g.system.code
  | .tiePoints _ => none

end Geocoding

end RasterMosaic
