import RasterMosaic.Mosaic.Basic
import RasterMosaic.Raster.Border
import RasterMosaic.Raster.Overlay

/-!
The image of one level. Every placement's source is fetched once; an image is placed at the
offset on that level, and a failed one is replaced by a filler tile cut off at the level's
edges. The tiles are overlaid and the result is extended to the size of the level.
-/

namespace RasterMosaic

/-- What one placement's source answered for a level. -/
structure LevelAnswer where
  x : Nat
  y : Nat
  /-- The no-data value of the source itself. -/
  noData : Option Float32
  image : Except RasterError (Raster Float32)

/-- An error of a source is an answer too; only a fault leaves a request without one. -/
def Failure.settle {α : Type} :
    Except Failure α → Except ArithmeticFault (Except RasterError α)
  | .ok value => .ok (.ok value)
  | .error (.error cause) => .ok (.error cause)
  | .error (.fault cause) => .error cause

variable {K S : Type} {n : Nat} [LevelSource S]

/-- The answer for a placement, given its source as the fetch left it. -/
def LevelAnswer.ofPlacement (placement : Placement n) (level : Nat) (source : S)
    (image : Except RasterError (Raster Float32)) : LevelAnswer where
  x := offsetAtLevel placement.x level
  y := offsetAtLevel placement.y level
  noData := (LevelSource.noData source).map Sample.narrow
  image := image

/-- Fetches a level from every placement's source in turn, up to the first fault. -/
def fetchLevel (level : Nat) :
    List (Placement n) → Vector S n → Except ArithmeticFault (List LevelAnswer) × Vector S n
  | [], sources => (.ok [], sources)
  | placement :: rest, sources =>
    let (image, source) := LevelSource.fetch (sources.get placement.source) level
    let sources := LevelSource.put sources placement.source source
    match Failure.settle image with
    | .error cause => (.error cause, sources)
    | .ok image =>
      let (others, sources) := fetchLevel level rest sources
      (others.map (.ofPlacement placement level source image :: ·), sources)

namespace MosaicPlan

/-- The level image as a rectangle at the origin. -/
def bounds (plan : MosaicPlan K n) (level : Nat) : Rectangle :=
  .sized (plan.geometry.size.atLevel level)

/-- The part of a tile at an offset that lies in a level. -/
def fillerSize (plan : MosaicPlan K n) (level x y : Nat) : Size where
  width := min plan.tileSize.width ((plan.bounds level).width - x)
  height := min plan.tileSize.height ((plan.bounds level).height - y)

/-- The tile an answer is painted as; none when nothing of a filler lies in the level. -/
def tileOf (plan : MosaicPlan K n) (level : Nat) (answer : LevelAnswer) :
    Option (PlacedRaster Float32) :=
  match answer.image with
  | .ok image => some ⟨image, answer.x, answer.y, answer.noData⟩
  | .error _ =>
    let size := plan.fillerSize level answer.x answer.y
    if size.isEmpty then none
    else some ⟨.filled size plan.config.fillValue, answer.x, answer.y, none⟩

/-- The level image made of tiles: the no-data value everywhere when no tile holds a pixel, and
else their overlay extended to the level's bounds. -/
def compose (plan : MosaicPlan K n) (level : Nat) (tiles : List (PlacedRaster Float32)) :
    Except RasterError (Raster Float32) :=
  let fitting := plan.bounds level
  let extent := overlayExtent tiles
  if extent.isEmpty then .ok (.filled fitting.size (plan.noData.getD Sample.notANumber))
  else if !fitting.contains extent then .error (.compositeTooLarge level extent fitting)
  else
    ((overlay tiles plan.config.background plan.noData).extendBorder fitting.size).mapError
      .badArgument

/-- The image of a level, computed from what its sources answer now. -/
def computeLevel (plan : MosaicPlan K n) (level : Nat) (sources : Vector S n) :
    Except Failure (Raster Float32) × Vector S n :=
  let (answers, sources) := fetchLevel level plan.placements sources
  let image := (answers.mapError .fault).bind fun answers =>
    (plan.compose level (answers.filterMap (plan.tileOf level))).mapError .error
  (image, sources)

end MosaicPlan

end RasterMosaic
