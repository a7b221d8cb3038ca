import RasterMosaic.Geocoding.Reference

/-!
Finding the geocoding of a scene and of its bands. What cannot be resolved is left without
geocoding; it is never an error.
-/

namespace RasterMosaic

variable {K : Type} [Scalar K]

/-- The geocoding of a raster anchored in the map of the system a code names. -/
def geocodingByMap [CrsRegistry] (code : String) (size : Size) (anchor : MapAnchor K) :
    Except RasterError (Geocoding K) := do
  let system ← (Crs.find code).mapError .badSystem
  let geocoding ← (MapGeocoding.ofAnchor system size anchor).mapError .badArgument
  return .map geocoding

variable [DecidableLT K]

def geocodingByCorners (corners : CornerPositions K) (offset : PixelPoint K) (size : Size) :
    Except ArgumentError (Geocoding K) :=
  (TieGeocoding.ofCorners corners.lats corners.lons offset.x offset.y size).map .tiePoints

/-- The geocoding of a scene: by its anchor if it has one, and else by its corners. -/
def SceneReference.geocoding? [CrsRegistry] (scene : SceneReference K) :
    Option (Geocoding K) :=
  match scene.anchor with
  | some anchor =>
    scene.systemCode.bind fun code => (geocodingByMap code scene.size anchor).toOption
  | none =>
    scene.corners.bind fun corners =>
      (geocodingByCorners corners scene.gridOffset scene.size).toOption

/-- The transform that stretches a band over the scene. -/
def stretch? (scene band : Size) : Option (Affine K) :=
  if band.isEmpty then none
  else
    some <| .scaling ((scene.width : K) / (band.width : K))
      ((scene.height : K) / (band.height : K))

/-- What a band has of its own, against the scene: a geocoding, and a transform where its raster
is of another size. -/
structure BandPosition (K : Type) where
  geocoding : Option (Geocoding K)
  imageToModel : Option (Affine K)

/-- A band with an anchor is placed by it. One of the scene's size has nothing of its own. Any
other is stretched over the scene, and geocoded by the scene's corners if there are any. -/
def BandReference.position [CrsRegistry] (band : BandReference K)
    (scene : SceneReference K) : BandPosition K :=
  match band.anchor with
  | some anchor =>
    { geocoding := (band.systemCode <|> scene.systemCode).bind fun code =>
        (geocodingByMap code band.size anchor).toOption
      imageToModel := none }
  | none =>
    if band.size = scene.size then ⟨none, none⟩
    else
      match stretch? scene.size band.size with
      | none => ⟨none, none⟩
      | some stretch =>
        { geocoding := scene.corners.bind fun corners =>
            (geocodingByCorners corners band.gridOffset band.size).toOption
          imageToModel := some stretch }

end RasterMosaic
