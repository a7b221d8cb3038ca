import RasterMosaic.Geometry.Affine
import RasterMosaic.Json.Record

/-!
Rectangles, points and transforms as JSON.
-/

namespace RasterMosaic

instance : JsonCodec Rectangle where
  toJson a := .record [
    ("x", JsonCodec.toJson a.x),
    ("y", JsonCodec.toJson a.y),
    ("width", JsonCodec.toJson a.width),
    ("height", JsonCodec.toJson a.height)]
  ofJson? j := do
    let f ← j.fields? ["x", "y", "width", "height"]
    return {
      x := ← f.required? "x"
      y := ← f.required? "y"
      width := ← f.required? "width"
      height := ← f.required? "height" }

instance : JsonCodec (GeoPoint Float) where
  toJson p := .record [("lat", JsonCodec.toJson p.lat), ("lon", JsonCodec.toJson p.lon)]
  ofJson? j := do
    let f ← j.fields? ["lat", "lon"]
    return ⟨← f.required? "lat", ← f.required? "lon"⟩

instance : JsonCodec (PixelPoint Float) where
  toJson p := .record [("x", JsonCodec.toJson p.x), ("y", JsonCodec.toJson p.y)]
  ofJson? j := do
    let f ← j.fields? ["x", "y"]
    return ⟨← f.required? "x", ← f.required? "y"⟩

instance : JsonCodec (Affine Float) where
  toJson t := .record [
    ("scale_x", JsonCodec.toJson t.scaleX),
    ("shear_x", JsonCodec.toJson t.shearX),
    ("translate_x", JsonCodec.toJson t.shiftX),
    ("shear_y", JsonCodec.toJson t.shearY),
    ("scale_y", JsonCodec.toJson t.scaleY),
    ("translate_y", JsonCodec.toJson t.shiftY)]
  ofJson? j := do
    let f ← j.fields? ["scale_x", "shear_x", "translate_x", "shear_y", "scale_y", "translate_y"]
    return {
      scaleX := ← f.required? "scale_x"
      shearX := ← f.required? "shear_x"
      shiftX := ← f.required? "translate_x"
      shearY := ← f.required? "shear_y"
      scaleY := ← f.required? "scale_y"
      shiftY := ← f.required? "translate_y" }

end RasterMosaic
