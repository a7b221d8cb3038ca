import RasterMosaic.Product.Band
import RasterMosaic.Pyramid.TileSize

/-!
Products: the bands of one scene, in the order they are given. A band has the size and the
levels of its source, tiles that suit it, and a place on the globe of its own or the scene's.
The first band that cannot be built decides the error.
-/

namespace RasterMosaic

structure Product (K : Type) (n : Nat) where
  name : String
  size : Size
  geocoding : Option (Geocoding K)
  bands : List (Band K n)

/-- A band to be built: its description and the source of its samples. -/
structure BandInput (K : Type) (n : Nat) where
  description : BandDescription K
  source : Fin n

/-- The tile size that suits a raster, edge by edge. -/
def bestTileSize (raster : Size) (config : Config) : Except ArithmeticFault Size := do
  let width ← bestTileEdge raster.width config
  let height ← bestTileEdge raster.height config
  return ⟨width, height⟩

/-- The description with a size in place of an empty one. -/
def BandDescription.withSize {K : Type} (d : BandDescription K) (size : Size) :
    BandDescription K :=
  if d.reference.size.isEmpty then { d with reference := { d.reference with size } } else d

/-- The transform of a band: its stretch over the scene, or else that of its own geocoding, or
else that of the scene. -/
def BandPosition.transform {K : Type} [Scalar K] (position : BandPosition K)
    (scene : Option (Geocoding K)) : Affine K :=
  let geocoding := position.geocoding <|> scene
  (position.imageToModel <|> geocoding.map Geocoding.imageToModel).getD .identity

namespace Product

variable {K S : Type} {n : Nat} [Scalar K] [DecidableLT K] [LevelSource S]

/-- Builds one band. Its own no-data value goes before that of its source. -/
def bandOf [CrsRegistry] (scene : SceneReference K) (geocoding : Option (Geocoding K))
    (config : Config) (sources : Vector S n) (input : BandInput K n) :
    Except Failure (Band K n) := do
  let source := sources.get input.source
  let size := LevelSource.baseSize source
  let description := input.description.withSize size
  let tileSize ← (bestTileSize size config).mapError .fault
  let position := description.reference.position scene
  let imageToModel := position.transform geocoding
  let mosaic ← (Mosaic.create sources [⟨input.source, 0, 0⟩] size tileSize
    (LevelSource.levelCount source) imageToModel config).mapError .error
  return {
    description
    geocoding := .choose position.geocoding geocoding
    imageToModel
    mosaic := mosaic.withNoData (description.noData <|> LevelSource.noData source) }

/-- Builds a product of at least one band, over a scene of at least one pixel. -/
def build [CrsRegistry] (name : String) (scene : SceneReference K)
    (inputs : List (BandInput K n)) (config : Config) (sources : Vector S n) :
    Except Failure (Product K n) := do
  config.check.mapError (.error ∘ .badConfig)
  if inputs.isEmpty then
    throw (.error (.badArgument (.noBands name)))
  if scene.size.isEmpty then
    throw (.error (.badArgument (.emptyScene scene.size)))
  let geocoding := scene.geocoding?
  let bands ← inputs.mapM (bandOf scene geocoding config sources)
  return { name, size := scene.size, geocoding, bands }

def band? (p : Product K n) (name : String) : Option (Band K n) :=
  p.bands.find? fun band => band.description.name == name

/-- Puts the mosaics of all bands through a step in turn. -/
def stepBands (step : Mosaic K n → Vector S n → Mosaic K n × Vector S n) :
    List (Band K n) → Vector S n → List (Band K n) × Vector S n
  | [], sources => ([], sources)
  | band :: rest, sources =>
    let (mosaic, sources) := step band.mosaic sources
    let (bands, sources) := stepBands step rest sources
    ({ band with mosaic } :: bands, sources)

def reset (p : Product K n) (sources : Vector S n) : Product K n × Vector S n :=
  let (bands, sources) := stepBands Mosaic.reset p.bands sources
  ({ p with bands }, sources)

def dispose (p : Product K n) (sources : Vector S n) : Product K n × Vector S n :=
  let (bands, sources) := stepBands Mosaic.dispose p.bands sources
  ({ p with bands }, sources)

end Product

end RasterMosaic
