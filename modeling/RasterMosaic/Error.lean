import RasterMosaic.Rectangle
import RasterMosaic.Decimal.Layout

/-!
What can go wrong, by cause. `RasterError` is what a request answers with; `message` is the only
place its wording is fixed. A `Failure` is either such an error or an arithmetic fault, which no
caller can recover a value from.
-/

namespace RasterMosaic

/-- Numbers in messages have the shortest digits, and every place is written out. -/
def reportLayout : Decimal.Layout where
  tie := .upward
  positional _ := true
  keepsPoint := false

def reportText (x : Float) : String :=
  match Decimal.Reading.ofFloat reportLayout.tie x with
  | .notANumber => "NaN"
  | .infinite negative => if negative then "-inf" else "inf"
  | reading => ((reportLayout.numeral? reading).map Decimal.Numeral.text).getD ""

inductive ArgumentError
  | nothingToDecimate
  | sourceTile (tile : Size)
  | noLevels
  | emptyBase (size : Size)
  | singularTransform (determinant : Float)
  | exceedsPadding (image target : Size)
  | nothingToExtend
  | nothingPlaced
  | mosaicTile (tile : Size)
  | tileOutside (tileX tileY level : Nat) (image : Size)
  | noBands (product : String)
  | emptyScene (size : Size)
  | utmZone (zone : Nat)
  | gridPoints (name : String) (points : Size)
  | gridSpacing (name : String) (x y : Float)
  | spannedGridPoints (name : String)
  | gridSpansNothing (name : String)
  | tooFewGridSamples (name : String)
  | tooManyGridSamples (name : String)
  | gridsDiffer
  | emptyGeocodedRaster (size : Size)
  | zeroPixelSize (x y : Float)

/-- Why a point could not be projected, or a projection not be set up. -/
inductive ProjectionError
  | unknownProjection
  | missingProjection
  | missingGridShift
  | outsideDomain
  | inverseOutsideDomain
  | coordinateOutOfRange
  | atPole
deriving DecidableEq

inductive CrsError
  | unsupportedCode (code : String)
  | codeOutOfRange (code : String)
  | unknownSystem (epsg : Nat)
  | invalidProjection (epsg : Nat) (cause : ProjectionError)
  | toGeographic (epsg : Nat) (cause : ProjectionError)
  | fromGeographic (epsg : Nat) (cause : ProjectionError)
deriving DecidableEq

inductive ConfigError
  | noMinTileSize
  | tileRange (largest smallest : Nat)
  | noGranularity
  | fillNotFinite
deriving DecidableEq

/-- What a request answers with when it has no result. -/
inductive RasterError
  /-- A file that cannot be read, or is no text. -/
  | unreadable
  /-- A text that does not spell a value of its kind. -/
  | malformed
  | badArgument (cause : ArgumentError)
  /-- An image that cannot be decoded. -/
  | undecodable (reason : String)
  | badSystem (cause : CrsError)
  | noSuchLevel (level levelCount : Nat)
  | compositeTooLarge (level : Nat) (composite fitting : Rectangle)
  | disposed
  | badConfig (cause : ConfigError)

/-- Arithmetic without a result in machine words. -/
inductive ArithmeticFault
  | divisionByZero
  | shiftOverflow
deriving DecidableEq

inductive Failure
  | error (cause : RasterError)
  | fault (cause : ArithmeticFault)

namespace ArgumentError

private def grid (name : String) : String := "Tie-point grid '" ++ name ++ "'"

private def pair (x y : Float) : String :=
  "(" ++ reportText x ++ ", " ++ reportText y ++ ")"

def message : ArgumentError → String
  | nothingToDecimate => "Decimated source needs a non-empty raster"
  | sourceTile tile => "Tile size must be positive, got " ++ tile.text
  | noLevels => "level count must be at least 1"
  | emptyBase size => "base raster must be non-empty, got " ++ size.text
  | singularTransform determinant =>
      "Affine transform is not invertible (determinant " ++ reportText determinant ++ ")"
  | exceedsPadding image target =>
      "image " ++ image.text ++ " exceeds padding target " ++ target.text
  | nothingToExtend => "cannot border-extend an empty image"
  | nothingPlaced => "mosaic needs at least one component"
  | mosaicTile tile => "tile size must be positive, got " ++ tile.text
  | tileOutside tileX tileY level image =>
      "tile (" ++ toString tileX ++ ", " ++ toString tileY ++ ") outside level " ++
        toString level ++ " image " ++ image.text
  | noBands product => "No raster found for product '" ++ product ++ "'"
  | emptyScene size => "Scene raster must be non-empty, got " ++ size.text
  | utmZone zone => "UTM zone " ++ toString zone ++ " outside 1..=60"
  | gridPoints name points => grid name ++ " needs at least 2x2 points, got " ++ points.text
  | gridSpacing name x y => grid name ++ " sub-sampling must be positive " ++ pair x y
  | spannedGridPoints name => grid name ++ " needs at least 2x2 points"
  | gridSpansNothing name => grid name ++ " spans an empty raster"
  | tooFewGridSamples name =>
      grid name ++ " samples: ShapeError/OutOfBounds: out of bounds indexing"
  | tooManyGridSamples name =>
      grid name ++ " samples: ShapeError/IncompatibleShape: incompatible shapes"
  | gridsDiffer => "Latitude and longitude tie-point grids differ in geometry"
  | emptyGeocodedRaster size => "CRS geocoding needs a non-empty raster, got " ++ size.text
  | zeroPixelSize x y => "CRS geocoding needs non-zero pixel size, got " ++ pair x y

end ArgumentError

def ProjectionError.message : ProjectionError → String
  | unknownProjection => "ProjectionNotFound"
  | missingProjection => "MissingProjectionError"
  | missingGridShift => "NadGridNotAvailable"
  | outsideDomain => "CoordTransOutsideProjectionDomain"
  | inverseOutsideDomain => "InverseProjectionFailure"
  | coordinateOutOfRange => "CoordinateOutOfRange"
  | atPole => "ToleranceConditionError"

/-- The canonical code of a system in the EPSG registry. -/
def epsgCode (epsg : Nat) : String := "EPSG:" ++ toString epsg

def CrsError.message : CrsError → String
  | unsupportedCode code => "Unsupported CRS code '" ++ code ++ "'"
  | codeOutOfRange code => "EPSG code out of range in '" ++ code ++ "'"
  | unknownSystem epsg => epsgCode epsg ++ " is not in the crs-definitions database"
  | invalidProjection epsg cause =>
      "Invalid projection " ++ epsgCode epsg ++ ": " ++ cause.message
  | toGeographic epsg cause =>
      "Transform from " ++ epsgCode epsg ++ " to WGS84 failed: " ++ cause.message
  | fromGeographic epsg cause =>
      "Transform from WGS84 to " ++ epsgCode epsg ++ " failed: " ++ cause.message

def ConfigError.message : ConfigError → String
  | noMinTileSize => "min_tile_size must be positive"
  | tileRange largest smallest =>
      "max_tile_size (" ++ toString largest ++ ") is smaller than min_tile_size (" ++
        toString smallest ++ ")"
  | noGranularity => "tile_granularity must be positive"
  | fillNotFinite => "fill_value must be finite"

namespace RasterError

def message : RasterError → String
  | unreadable => "I/O error"
  | malformed => "JSON error"
  | badArgument cause => "Invalid argument: " ++ cause.message
  | undecodable reason => "Decode error: " ++ reason
  | badSystem cause => "CRS error: " ++ cause.message
  | noSuchLevel level levelCount =>
      "Level " ++ toString level ++ " out of range (level count " ++ toString levelCount ++ ")"
  | compositeTooLarge level composite fitting =>
      "Composite " ++ composite.text ++ " exceeds fitting rectangle " ++ fitting.text ++
        " at level " ++ toString level
  | disposed => "Mosaic source has been disposed"
  | badConfig cause => "Configuration error: " ++ cause.message

end RasterError

end RasterMosaic
