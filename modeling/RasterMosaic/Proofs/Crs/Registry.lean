import RasterMosaic.Crs.Systems
import RasterMosaic.Proofs.Except

/-!
What a code names, over any registry: the system that is listed under its number. Whether that is a
system of longitude and latitude is for its definition text to say.
-/

namespace RasterMosaic

theorem Text.mentions_iff {part text : List Char} :
    mentions part text = true ↔ part <:+: text := by
  induction text with
  | nil => rw [mentions, List.isEmpty_iff, List.infix_nil]
  | cons c rest ih =>
      rw [mentions, Bool.or_eq_true, List.isPrefixOf_iff_prefix, ih, List.infix_cons_iff]

section Found
variable [CrsRegistry]

namespace ReferenceSystem

theorem isGeographic_ofParameters {epsg : Nat} {parameters : String} :
    (ofParameters epsg parameters).isGeographic = true ↔
      geographicMark.toList <:+: parameters.toList := by
  rw [← Text.mentions_iff, ofParameters]
  by_cases marked : Text.mentions geographicMark.toList parameters.toList = true
  · simp only [isGeographic, marked, if_true]
  · cases CrsRegistry.projection parameters <;> simp [isGeographic, marked]

end ReferenceSystem

namespace Crs
variable {code : String}

theorem find_eq_ok_iff {system : ReferenceSystem} :
    find code = .ok system ↔
      ∃ epsg parameters, epsgOfCode code = .ok epsg ∧
        CrsRegistry.parameters? epsg = some parameters ∧
        system = .ofParameters epsg parameters := by
  simp only [find, bind_eq_ok_iff]
  refine exists_congr fun epsg => ?_
  cases CrsRegistry.parameters? epsg with
  | none => exact iff_of_false nofun nofun
  | some parameters =>
      constructor
      · rintro ⟨numbered, same⟩
        cases same
        exact ⟨_, numbered, rfl, rfl⟩
      · rintro ⟨_, numbered, listed, rfl⟩
        cases listed
        exact ⟨numbered, rfl⟩

theorem find_eq_error_iff {cause : CrsError} :
    find code = .error cause ↔
      epsgOfCode code = .error cause ∨
        ∃ epsg, epsgOfCode code = .ok epsg ∧ CrsRegistry.parameters? epsg = none ∧
          cause = .unknownSystem epsg := by
  simp only [find, bind_eq_error_iff]
  refine or_congr Iff.rfl (exists_congr fun epsg => and_congr Iff.rfl ?_)
  cases CrsRegistry.parameters? epsg with
  | none =>
      constructor
      · intro same
        cases same
        exact ⟨rfl, rfl⟩
      · rintro ⟨_, rfl⟩
        rfl
  | some parameters => exact iff_of_false nofun nofun

end Crs

end Found

namespace Crs

/-- The definition text of longitude and latitude by the satellites' figure of the earth. -/
def worldParameters : String := "+proj=longlat +datum=WGS84 +no_defs"

def worldSystem : ReferenceSystem := ⟨4326, .geographic, worldParameters⟩

theorem find_world [CrsRegistry] (listed : CrsRegistry.parameters? 4326 = some worldParameters) :
    find "EPSG:4326" = .ok worldSystem :=
  find_eq_ok_iff.mpr ⟨4326, worldParameters, rfl, listed, rfl⟩

/-- The registry that programs run with has that row. -/
theorem lists_world : CrsRegistry.parameters? 4326 = some worldParameters := rfl

end Crs

end RasterMosaic
