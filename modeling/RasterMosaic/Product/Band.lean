import RasterMosaic.Geocoding.Resolve
import RasterMosaic.Mosaic.Requests

/-!
A band of a product: a mosaic of one source with its description and its geocoding. Its physical
samples are `raw * factor + offset`, worked out in the wide format, and NaN without data.
-/

namespace RasterMosaic

/-- What is known of a band besides its samples. -/
structure BandDescription (K : Type) where
  name : String
  unit : Option String
  summary : Option String
  scalingFactor : Float
  scalingOffset : Float
  noData : Option Float
  spectralIndex : Option Nat
  wavelength : Option Float
  /-- An empty size stands for that of the band's source. -/
  reference : BandReference K

/-- Where a band's geocoding comes from. -/
inductive BandGeocoding (K : Type)
  | own (geocoding : Geocoding K)
  | ofScene (geocoding : Geocoding K)
  | absent

namespace BandGeocoding

/-- A geocoding of the band's own goes before that of the scene. -/
def choose {K : Type} (own scene : Option (Geocoding K)) : BandGeocoding K :=
  match own, scene with
  | some geocoding, _ => .own geocoding
  | none, some geocoding => .ofScene geocoding
  | none, none => .absent

def toOption {K : Type} : BandGeocoding K → Option (Geocoding K)
  | own geocoding | ofScene geocoding => some geocoding
  | absent => none

end BandGeocoding

structure Band (K : Type) (n : Nat) where
  description : BandDescription K
  geocoding : BandGeocoding K
  imageToModel : Affine K
  mosaic : Mosaic K n

/-- One sample in physical units. -/
def physicalSample (factor offset : Float) (noData : Option Float32) (raw : Float32) :
    Float32 :=
  if lacksData raw noData then Sample.notANumber
  else Sample.narrow (Sample.widen raw * factor + offset)

namespace Band

variable {K S : Type} {n : Nat} [Scalar K] [LevelSource S]

def size (b : Band K n) : Size := b.mosaic.plan.geometry.size

def image (b : Band K n) (level : Nat) (sources : Vector S n) :
    Except Failure (Raster Float32) × Band K n × Vector S n :=
  let (image, mosaic, sources) := b.mosaic.image level sources
  (image, { b with mosaic }, sources)

def physical (b : Band K n) (raw : Float32) : Float32 :=
  physicalSample b.description.scalingFactor b.description.scalingOffset b.mosaic.plan.noData
    raw

def physicalImage (b : Band K n) (level : Nat) (sources : Vector S n) :
    Except Failure (Raster Float32) × Band K n × Vector S n :=
  let (image, band, sources) := b.image level sources
  (image.map (·.map b.physical), band, sources)

end Band

end RasterMosaic
