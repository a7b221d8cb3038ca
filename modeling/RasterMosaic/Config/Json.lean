import RasterMosaic.Config
import RasterMosaic.Json.Record

/-!
Configurations as JSON text and as files. A text is read first and checked afterwards, so a text
that is no configuration and a configuration that contradicts itself are different errors.
-/

namespace RasterMosaic

namespace Config

def fieldNames : List String :=
  ["fill_value", "background_value", "min_tile_size", "max_tile_size", "tile_granularity",
    "parallel_prefetch"]

instance : JsonCodec Config where
  toJson c := .record [
    ("fill_value", JsonCodec.toJson c.fillValue),
    ("background_value", JsonCodec.toJson c.backgroundValue),
    ("min_tile_size", JsonCodec.toJson c.minTileSize),
    ("max_tile_size", JsonCodec.toJson c.maxTileSize),
    ("tile_granularity", JsonCodec.toJson c.tileGranularity),
    ("parallel_prefetch", JsonCodec.toJson c.parallelPrefetch)]
  ofJson? j := do
    let f ← j.fields? fieldNames
    let standard : Config := {}
    return {
      fillValue := ← f.withDefault? "fill_value" standard.fillValue
      backgroundValue := ← f.withDefault? "background_value" standard.backgroundValue
      minTileSize := ← f.withDefault? "min_tile_size" standard.minTileSize
      maxTileSize := ← f.withDefault? "max_tile_size" standard.maxTileSize
      tileGranularity := ← f.withDefault? "tile_granularity" standard.tileGranularity
      parallelPrefetch := ← f.withDefault? "parallel_prefetch" standard.parallelPrefetch }

/-- The configuration a text holds, once it is checked. -/
def ofText (text : String) : Except RasterError Config :=
  match (JsonCodec.read? text : Option Config) with
  | none => .error .malformed
  | some c =>
    match c.check with
    | .error cause => .error (.badConfig cause)
    | .ok () => .ok c

/-- The configuration in a file, given its bytes if it exists. -/
def ofFile (bytes : Option ByteArray) : Except RasterError Config :=
  match bytes.bind String.fromUTF8? with
  | none => .error .unreadable
  | some text => ofText text

end Config

end RasterMosaic
