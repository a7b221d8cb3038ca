import RasterMosaic.Crs.Registry

/-!
The registry that programs run with: the zones of the transverse Mercator system, made by rule, and
a list of other systems. Of the projected ones only the zones and the maps of the web can be set
up. What is proved of geocodings holds over any registry, and runs on fixed inputs need no other
row of this one than that of longitude and latitude, 4326.
-/

namespace RasterMosaic

namespace Projection

/-- The definition text of the systems in a projection. -/
def parameters : Projection → String
  | .utm zone hemisphere ellipsoid =>
    let south := match hemisphere with
      | .north => ""
      | .south => " +south"
    let figure := match ellipsoid with
      | .wgs84 => "+datum=WGS84"
      | .grs80 => "+ellps=GRS80 +towgs84=0,0,0,0,0,0,0"
    "+proj=utm +zone=" ++ toString zone ++ south ++ " " ++ figure ++ " +units=m +no_defs"
  | .webMercator =>
    "+proj=merc +a=6378137 +b=6378137 +lat_ts=0.0 +lon_0=0.0 +x_0=0.0 +y_0=0 +k=1.0 " ++
    "+units=m +nadgrids=@null +wktext  +no_defs"

end Projection

namespace Crs

/-- The projected systems that can be set up, by number. -/
def projectable : List (Nat × Projection) :=
  (3857, .webMercator) :: (25832, .utm 32 .north .grs80) ::
    (List.range zoneCount).flatMap fun i =>
      [(32601 + i, .utm (i + 1) .north .wgs84), (32701 + i, .utm (i + 1) .south .wgs84)]

/-- The definition texts of all other systems, by number. -/
def listed : List (Nat × String) := [
  (2057,
    "+proj=omerc +lat_0=27.51882880555555 +lonc=52.60353916666667 " ++
    "+alpha=0.5716611944444444 +k=0.999895934 +x_0=658377.437 +y_0=3044969.194 " ++
    "+gamma=0.5716611944444444 +ellps=intl +towgs84=-133.63,-157.5,-158.62,0,0,0,0 " ++
    "+units=m +no_defs"),
  (2154,
    "+proj=lcc +lat_1=49 +lat_2=44 +lat_0=46.5 +lon_0=3 +x_0=700000 +y_0=6600000 " ++
    "+ellps=GRS80 +towgs84=0,0,0,0,0,0,0 +units=m +no_defs"),
  (2204,
    "+proj=lcc +lat_1=35.25 +lat_2=36.41666666666666 +lat_0=34.66666666666666 " ++
    "+lon_0=-86 +x_0=609601.2192024384 +y_0=30480.06096012192 +datum=NAD27 " ++
    "+units=us-ft +no_defs"),
  (3031,
    "+proj=stere +lat_0=-90 +lat_ts=-71 +lon_0=0 +k=1 +x_0=0 +y_0=0 +datum=WGS84 " ++
    "+units=m +no_defs"),
  (3035,
    "+proj=laea +lat_0=52 +lon_0=10 +x_0=4321000 +y_0=3210000 +ellps=GRS80 " ++
    "+towgs84=0,0,0,0,0,0,0 +units=m +no_defs"),
  (4230, "+proj=longlat +ellps=intl +towgs84=-87,-98,-121,0,0,0,0 +no_defs"),
  (4258, "+proj=longlat +ellps=GRS80 +towgs84=0,0,0,0,0,0,0 +no_defs"),
  (4267, "+proj=longlat +datum=NAD27 +no_defs"),
  (4269, "+proj=longlat +ellps=GRS80 +towgs84=0,0,0,0,0,0,0 +no_defs"),
  (4312,
    "+proj=longlat +ellps=bessel " ++
    "+towgs84=577.326,90.129,463.919,5.137,1.474,5.297,2.4232 +no_defs"),
  (4322, "+proj=longlat +ellps=WGS72 +towgs84=0,0,4.5,0,0,0.554,0.2263 +no_defs"),
  (4326, "+proj=longlat +datum=WGS84 +no_defs"),
  (4807,
    "+proj=longlat +a=6378249.2 +b=6356515 +towgs84=-168,-60,320,0,0,0,0 +pm=paris " ++
    "+no_defs"),
  (21781,
    "+proj=somerc +lat_0=46.95240555555556 +lon_0=7.439583333333333 +k_0=1 " ++
    "+x_0=600000 +y_0=200000 +ellps=bessel +towgs84=674.4,15.1,405.3,0,0,0,0 " ++
    "+units=m +no_defs"),
  (22300, ""),
  (27700,
    "+proj=tmerc +lat_0=49 +lon_0=-2 +k=0.9996012717 +x_0=400000 +y_0=-100000 " ++
    "+ellps=airy +towgs84=446.448,-125.157,542.06,0.15,0.247,0.842,-20.489 +units=m " ++
    "+no_defs"),
  (28992,
    "+proj=sterea +lat_0=52.15616055555555 +lon_0=5.38763888888889 +k=0.9999079 " ++
    "+x_0=155000 +y_0=463000 +ellps=bessel " ++
    "+towgs84=565.417,50.3319,465.552,-0.398957,0.343988,-1.8774,4.0725 +units=m " ++
    "+no_defs"),
  (32661,
    "+proj=stere +lat_0=90 +lat_ts=90 +lon_0=0 +k=0.994 +x_0=2000000 +y_0=2000000 " ++
    "+datum=WGS84 +units=m +no_defs"),
  (32761,
    "+proj=stere +lat_0=-90 +lat_ts=-90 +lon_0=0 +k=0.994 +x_0=2000000 +y_0=2000000 " ++
    "+datum=WGS84 +units=m +no_defs")
]

/-- Why the projection of a text is not among those that can be set up. -/
def obstacle (parameters : String) : ProjectionError :=
  if !Text.mentions "+proj=".toList parameters.toList then .missingProjection
  else if Text.mentions "+datum=NAD27".toList parameters.toList then .missingGridShift
  else .unknownProjection

instance : CrsRegistry where
  parameters? epsg := (projectable.lookup epsg).map Projection.parameters <|> listed.lookup epsg
  projection parameters :=
    match projectable.find? fun system => system.2.parameters == parameters with
    | some system => .ok system.2
    | none => .error (obstacle parameters)

end Crs

end RasterMosaic
