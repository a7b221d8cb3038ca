import RasterMosaic.Scalar

/-!
Points on a raster, in a map plane and on the globe.
-/

namespace RasterMosaic

/-- A fractional pixel position: column, then row. -/
structure PixelPoint (K : Type) where
  x : K
  y : K

/-- Coordinates in a map plane, or in the model space of a raster. -/
structure MapPoint (K : Type) where
  x : K
  y : K

/-- Latitude and longitude in degrees. -/
structure GeoPoint (K : Type) where
  lat : K
  lon : K

def GeoPoint.isFinite {K : Type} [Scalar K] (p : GeoPoint K) : Bool :=
  Scalar.isFinite p.lat && Scalar.isFinite p.lon

end RasterMosaic
