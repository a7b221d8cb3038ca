import RasterMosaic.Geocoding.Json
import RasterMosaic.Product.Band

/-!
Descriptions of bands as JSON. Every field may be left out.
-/

namespace RasterMosaic

namespace BandDescription

/-- The description that says nothing: raw samples are physical ones. -/
def unspecified : BandDescription Float where
  name := ""
  unit := none
  summary := none
  scalingFactor := 1
  scalingOffset := 0
  noData := none
  spectralIndex := none
  wavelength := none
  reference := ⟨⟨0, 0⟩, none, none, ⟨0, 0⟩⟩

def fieldNames : List String :=
  ["name", "unit", "description", "scaling_factor", "scaling_offset", "no_data_value",
    "spectral_band_index", "spectral_wavelength", "geometry"]

instance : JsonCodec (BandDescription Float) where
  toJson d := .record [
    ("name", JsonCodec.toJson d.name),
    ("unit", JsonCodec.toJson d.unit),
    ("description", JsonCodec.toJson d.summary),
    ("scaling_factor", JsonCodec.toJson d.scalingFactor),
    ("scaling_offset", JsonCodec.toJson d.scalingOffset),
    ("no_data_value", JsonCodec.toJson d.noData),
    ("spectral_band_index", JsonCodec.toJson d.spectralIndex),
    ("spectral_wavelength", JsonCodec.toJson d.wavelength),
    ("geometry", JsonCodec.toJson d.reference)]
  ofJson? j := do
    let f ← j.fields? fieldNames
    return {
      name := ← f.withDefault? "name" unspecified.name
      unit := ← f.withDefault? "unit" unspecified.unit
      summary := ← f.withDefault? "description" unspecified.summary
      scalingFactor := ← f.withDefault? "scaling_factor" unspecified.scalingFactor
      scalingOffset := ← f.withDefault? "scaling_offset" unspecified.scalingOffset
      noData := ← f.withDefault? "no_data_value" unspecified.noData
      spectralIndex := ← f.withDefault? "spectral_band_index" unspecified.spectralIndex
      wavelength := ← f.withDefault? "spectral_wavelength" unspecified.wavelength
      reference := ← f.withDefault? "geometry" unspecified.reference }

end BandDescription

end RasterMosaic
