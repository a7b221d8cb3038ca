import RasterMosaic.Geocoding.Reference
import RasterMosaic.Json.Record

/-!
What geocodings are derived from, as JSON. A hemisphere is its name, or an object with that name
for its only key and null for the value.
-/

namespace RasterMosaic

namespace Hemisphere

def name : Hemisphere → String
  | north => "North"
  | south => "South"

def ofName? (name : String) : Option Hemisphere :=
  if name = "North" then some north
  else if name = "South" then some south
  else none

instance : JsonCodec Hemisphere where
  toJson h := .ofString h.name
  ofJson?
    | .text pieces => (Json.charsOf? pieces).bind ofName?
    | .object [(key, .null)] => (Json.charsOf? key).bind ofName?
    | _ => none

end Hemisphere

instance : JsonCodec (MapAnchor Float) where
  toJson p := .record [
    ("x", JsonCodec.toJson p.x),
    ("y", JsonCodec.toJson p.y),
    ("step_x", JsonCodec.toJson p.stepX),
    ("step_y", JsonCodec.toJson p.stepY)]
  ofJson? j := do
    let f ← j.fields? ["x", "y", "step_x", "step_y"]
    return {
      x := ← f.required? "x"
      y := ← f.required? "y"
      stepX := ← f.required? "step_x"
      stepY := ← f.required? "step_y" }

/-- Corners are a list of four, upper ones first and left before right. -/
instance : JsonCodec (Corners Float) where
  toJson c := .array (c.toList.map JsonCodec.toJson)
  ofJson?
    | .array [a, b, c, d] => do
      return ⟨← JsonCodec.ofJson? a, ← JsonCodec.ofJson? b, ← JsonCodec.ofJson? c,
        ← JsonCodec.ofJson? d⟩
    | _ => none

instance : JsonCodec (CornerPositions Float) where
  toJson c := .record [("lats", JsonCodec.toJson c.lats), ("lons", JsonCodec.toJson c.lons)]
  ofJson? j := do
    let f ← j.fields? ["lats", "lons"]
    return ⟨← f.required? "lats", ← f.required? "lons"⟩

/-- An offset is written as a pair of numbers. -/
def offsetPair (p : PixelPoint Float) : Float × Float := (p.x, p.y)

instance : JsonCodec (SceneReference Float) where
  toJson s := .record [
    ("width", JsonCodec.toJson s.size.width),
    ("height", JsonCodec.toJson s.size.height),
    ("crs_code", JsonCodec.toJson s.systemCode),
    ("origin", JsonCodec.toJson s.anchor),
    ("corners", JsonCodec.toJson s.corners),
    ("tie_point_offset", JsonCodec.toJson (offsetPair s.gridOffset))]
  ofJson? j := do
    let f ← j.fields? ["width", "height", "crs_code", "origin", "corners", "tie_point_offset"]
    let offset : Float × Float ← f.required? "tie_point_offset"
    return {
      size := ⟨← f.required? "width", ← f.required? "height"⟩
      systemCode := ← f.optional? "crs_code"
      anchor := ← f.optional? "origin"
      corners := ← f.optional? "corners"
      gridOffset := ⟨offset.1, offset.2⟩ }

instance : JsonCodec (BandReference Float) where
  toJson b := .record [
    ("width", JsonCodec.toJson b.size.width),
    ("height", JsonCodec.toJson b.size.height),
    ("crs_code", JsonCodec.toJson b.systemCode),
    ("insertion_point", JsonCodec.toJson b.anchor),
    ("tie_point_offset", JsonCodec.toJson (offsetPair b.gridOffset))]
  ofJson? j := do
    let f ← j.fields? ["width", "height", "crs_code", "insertion_point", "tie_point_offset"]
    let offset : Float × Float ← f.required? "tie_point_offset"
    return {
      size := ⟨← f.required? "width", ← f.required? "height"⟩
      systemCode := ← f.optional? "crs_code"
      anchor := ← f.optional? "insertion_point"
      gridOffset := ⟨offset.1, offset.2⟩ }

end RasterMosaic
