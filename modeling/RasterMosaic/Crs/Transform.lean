import RasterMosaic.Crs.Systems
import RasterMosaic.Crs.WebMercator

/-!
Between map coordinates of a system and latitude and longitude. For geographic systems this is a
change of order; for the others it rests on the projections of the scalar.
-/

namespace RasterMosaic

/-- Projections over a type of numbers, to and from degrees. -/
class MapProjection (K : Type) where
  toGeographic : Projection → MapPoint K → Except ProjectionError (GeoPoint K)
  fromGeographic : Projection → GeoPoint K → Except ProjectionError (MapPoint K)

namespace MapProjection

/-- A latitude in radians, put on the pole when it is within rounding of it. -/
def checkedLatitude (lon lat : Float) : Except ProjectionError Float :=
  let excess := lat.abs - Angle.pi / 2
  if excess > 1e-12 || lon.abs > 10 then .error .coordinateOutOfRange
  else if excess.abs <= 1e-12 then .ok (if lat < 0 then -(Angle.pi / 2) else Angle.pi / 2)
  else .ok lat

def ofRadians (p : Float × Float) : GeoPoint Float :=
  ⟨Angle.toDegrees p.2, Angle.toDegrees p.1⟩

instance : MapProjection Float where
  toGeographic projection p :=
    match projection with
    | .utm zone hemisphere ellipsoid =>
      (TransverseMercator.backward zone hemisphere ellipsoid p.x p.y).map ofRadians
    | .webMercator => .ok (ofRadians (WebMercator.backward p.x p.y))
  fromGeographic projection p := do
    let lon := Angle.ofDegrees p.lon
    let lat ← checkedLatitude lon (Angle.ofDegrees p.lat)
    match projection with
    | .utm zone hemisphere ellipsoid =>
      TransverseMercator.forward zone hemisphere ellipsoid lon lat
    | .webMercator => WebMercator.forward lon lat

end MapProjection

namespace ReferenceSystem

variable {K : Type} [MapProjection K]

def toGeographic (s : ReferenceSystem) (p : MapPoint K) : Except CrsError (GeoPoint K) :=
  match s.kind with
  | .geographic => .ok ⟨p.y, p.x⟩
  | .unavailable cause => .error (.invalidProjection s.epsg cause)
  | .projected projection =>
    (MapProjection.toGeographic projection p).mapError (.toGeographic s.epsg)

def fromGeographic (s : ReferenceSystem) (p : GeoPoint K) : Except CrsError (MapPoint K) :=
  match s.kind with
  | .geographic => .ok ⟨p.lon, p.lat⟩
  | .unavailable cause => .error (.invalidProjection s.epsg cause)
  | .projected projection =>
    (MapProjection.fromGeographic projection p).mapError (.fromGeographic s.epsg)

end ReferenceSystem

end RasterMosaic
