import RasterMosaic.Proofs.Product.Building
import RasterMosaic.Proofs.Scalar.Division

/-!
What the geocodings of bands are made for. One of a band's own is made for the raster of the band.
One taken from the scene is made for that of the scene, and a band takes it whenever it is not
placed by itself, whether it is of the same size or not.
-/

namespace RasterMosaic

namespace BandGeocoding

variable {K : Type} {own scene : Option (Geocoding K)} {g : Geocoding K}

theorem choose_eq_own_iff : choose own scene = .own g ↔ own = some g := by
  cases own <;> cases scene <;> simp [choose]

theorem choose_eq_ofScene_iff : choose own scene = .ofScene g ↔ own = none ∧ scene = some g := by
  cases own <;> cases scene <;> simp [choose]

theorem toOption_eq_some_iff {geocoding : BandGeocoding K} :
    geocoding.toOption = some g ↔ geocoding = .own g ∨ geocoding = .ofScene g := by
  cases geocoding <;> simp [toOption]

end BandGeocoding

namespace Product

/-- A geocoding of a band's own is made for the size of the band. One of the scene is found at a
band exactly when nothing places the band, and is made for the band's size only where it does not
tell that from the scene's. -/
theorem geocoding_of_band [CrsRegistry] {S : Type} {n : Nat} [LevelSource S] {name : String}
    {scene : SceneReference Float} {inputs : List (BandInput Float n)} {config : Config}
    {sources : Vector S n} {p : Product Float n}
    (built : build name scene inputs config sources = .ok p) {band : Band Float n}
    (hmem : band ∈ p.bands) :
    let reference := band.description.reference
    (∀ g, band.geocoding = .own g → g.MadeFor reference.size) ∧
    (∀ g, band.geocoding = .ofScene g ↔
      p.geocoding = some g ∧ reference.Unplaced scene) ∧
    (∀ g, band.geocoding = .ofScene g →
      g.MadeFor p.size ∧ (g.MadeFor reference.size ↔ g.Confuses p.size reference.size)) ∧
    ((∀ g, band.geocoding.toOption = some g → g.MadeFor reference.size) ↔
      (reference.Unplaced scene →
        ∀ g, p.geocoding = some g → g.Confuses p.size reference.size)) := by
  intro reference
  obtain ⟨_, _, _, _, ofScene, resolved, bands⟩ := isBuiltFrom_of_build built
  obtain ⟨input, _, made⟩ := exists_of_mem_forall₂ bands.flip hmem
  have chosen : band.geocoding =
      .choose (reference.position scene).geocoding scene.geocoding? := by
    rw [made.geocoding]
    simp only [BandInput.position, reference, made.description]
  have own : ∀ g, band.geocoding = .own g → g.MadeFor reference.size := by
    intro g h
    rw [chosen, BandGeocoding.choose_eq_own_iff] at h
    exact BandReference.position_geocoding_madeFor float_div_one h
  have taken : ∀ g, band.geocoding = .ofScene g ↔
      p.geocoding = some g ∧ reference.Unplaced scene := by
    intro g
    rw [chosen, BandGeocoding.choose_eq_ofScene_iff, resolved,
      BandReference.position_geocoding_eq_none_iff made.covers, and_comm]
  have fits : ∀ g, band.geocoding = .ofScene g →
      g.MadeFor p.size ∧ (g.MadeFor reference.size ↔ g.Confuses p.size reference.size) := by
    intro g h
    obtain ⟨found, _⟩ := (taken g).mp h
    have whole : g.MadeFor p.size :=
      ofScene ▸ SceneReference.geocoding?_madeFor float_div_one (resolved ▸ found)
    exact ⟨whole, whole.iff_confuses _⟩
  refine ⟨own, taken, fits, ?_, ?_⟩
  · intro all unplaced g found
    have inherited := (taken g).mpr ⟨found, unplaced⟩
    exact (fits g inherited).2.mp
      (all g (BandGeocoding.toOption_eq_some_iff.mpr (.inr inherited)))
  · intro confused g h
    obtain ofBand | inherited := BandGeocoding.toOption_eq_some_iff.mp h
    · exact own g ofBand
    · obtain ⟨found, unplaced⟩ := (taken g).mp inherited
      exact (fits g inherited).2.mpr (confused unplaced g found)

section Half

def cornerScene : SceneReference Float where
  size := ⟨4, 2⟩
  systemCode := none
  anchor := none
  corners := some ⟨⟨51, 51, 50, 50⟩, ⟨10, 14, 10, 14⟩⟩
  gridOffset := ⟨0, 0⟩

/-- In a scene of corners the band has tie points of its own, two pixels and one apart. -/
theorem geocoding_of_band_in_corners : ∃ p band g,
    build "corners" cornerScene [bareInput Float "half" 0] {} #v[halfSource] = .ok p ∧
    band ∈ p.bands ∧ band.geocoding = .own (.tiePoints g) ∧
    g.lat.IsCellOver ⟨2, 1⟩ ∧ g.lon.IsCellOver ⟨2, 1⟩ := by
  obtain ⟨band, built, made⟩ := build_half "corners" cornerScene rfl (by decide +kernel)
  obtain ⟨own, _⟩ := geocoding_of_band built List.mem_cons_self
  have uncoded : ((bareInput Float "half" 0).position cornerScene #v[halfSource]).geocoding.map
      Geocoding.systemCode? = some none := by decide +kernel
  cases found : ((bareInput Float "half" 0).position cornerScene #v[halfSource]).geocoding with
  | none =>
      rw [found] at uncoded
      cases uncoded
  | some g =>
      cases g with
      | map g =>
          rw [found] at uncoded
          cases uncoded
      | tiePoints g =>
          have chosen : band.geocoding = .own (.tiePoints g) := by
            rw [made.geocoding, found, BandGeocoding.choose_eq_own_iff]
          have fits := own _ chosen
          rw [made.description] at fits
          exact ⟨_, band, g, built, List.mem_cons_self, chosen, fits⟩

/-- In a scene with a map the band has the geocoding of the scene, which is for twice its size. -/
theorem half_band_with_geocoding_of_scene : ∃ p band g,
    build "north" (northScene Float) [bareInput Float "half" 0] {} #v[halfSource] = .ok p ∧
    band ∈ p.bands ∧ band.geocoding.toOption = some (.map g) ∧
    g.size = ⟨4, 2⟩ ∧ band.description.reference.size = ⟨2, 1⟩ := by
  obtain ⟨band, built, made⟩ := build_half "north" (northScene Float) rfl (by decide +kernel)
  have found := geocoding?_northScene (K := Float) Crs.lists_world (by decide +kernel)
  refine ⟨_, band, northMap Float, built, List.mem_cons_self, ?_, rfl, ?_⟩
  · rw [made.geocoding, found]
    rfl
  · rw [made.description]
    rfl

end Half

end Product
end RasterMosaic
