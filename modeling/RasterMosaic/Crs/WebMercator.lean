import RasterMosaic.Crs.TransverseMercator

/-!
The Mercator projection of web maps, on a sphere. Angles are in radians.
-/

namespace RasterMosaic

namespace WebMercator

def radius : Float := 6378137

/-- From longitude and latitude to the map plane, which does not hold the poles. -/
def forward (lon lat : Float) : Except ProjectionError (MapPoint Float) :=
  if (lat.abs - Angle.pi / 2).abs <= 1e-10 then .error .atPole
  else .ok ⟨radius * Angle.adjusted lon, radius * lat.tan.asinh⟩

def backward (x y : Float) : Float × Float :=
  (Angle.adjusted (x / radius), (y / radius).sinh.atan)

end WebMercator

end RasterMosaic
