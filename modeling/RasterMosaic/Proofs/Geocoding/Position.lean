import RasterMosaic.Product.Basic
import RasterMosaic.Proofs.Crs.Registry
import RasterMosaic.Proofs.Geocoding.MapGeocoding
import RasterMosaic.Proofs.Geocoding.TieGrid

/-!
Where rasters are found to lie. A geocoding is made for a raster of one size, and a band without
one of its own has that of its scene, whatever the sizes of the two. The transform of a band is
that of a map whose code names a system, or the stretch over the scene, or else the identity.
-/

namespace RasterMosaic

variable {K : Type} [Scalar K]

/-- A grid of one cell over all pixels of a raster. -/
structure TieGrid.IsCellOver (grid : TieGrid K) (size : Size) : Prop where
  points : grid.points.size = ⟨2, 2⟩
  spacingX : grid.spacingX = (size.width : K)
  spacingY : grid.spacingY = (size.height : K)

namespace Geocoding

/-- The size of the raster that a geocoding is for. -/
def MadeFor (size : Size) : Geocoding K → Prop
  | map g => g.size = size
  | tiePoints g => g.lat.IsCellOver size ∧ g.lon.IsCellOver size

/-- The geocoding does not tell rasters of two sizes apart. A map counts pixels, and tie points
measure them. -/
def Confuses (a b : Size) : Geocoding K → Prop
  | map _ => a = b
  | tiePoints _ => (a.width : K) = (b.width : K) ∧ (a.height : K) = (b.height : K)

theorem MadeFor.iff_confuses {g : Geocoding K} {a : Size} (h : g.MadeFor a) (b : Size) :
    g.MadeFor b ↔ g.Confuses a b := by
  cases g with
  | map g => exact h ▸ Iff.rfl
  | tiePoints g =>
      obtain ⟨lat, lon⟩ := h
      constructor
      · rintro ⟨other, _⟩
        exact ⟨lat.spacingX.symm.trans other.spacingX, lat.spacingY.symm.trans other.spacingY⟩
      · rintro ⟨width, height⟩
        exact ⟨⟨lat.points, lat.spacingX.trans width, lat.spacingY.trans height⟩,
          lon.points, lon.spacingX.trans width, lon.spacingY.trans height⟩

end Geocoding

theorem MapGeocoding.ofAnchor_eq_ok {system : ReferenceSystem} {size : Size} {anchor : MapAnchor K}
    {g : MapGeocoding K} (h : ofAnchor system size anchor = .ok g) :
    g.system = system ∧ g.size = size := by
  obtain ⟨_, _, _, rfl⟩ := create_eq_ok_iff.mp h
  exact ⟨rfl, rfl⟩

theorem geocodingByMap_eq_ok_iff [CrsRegistry] {code : String} {size : Size}
    {anchor : MapAnchor K} {g : Geocoding K} :
    geocodingByMap code size anchor = .ok g ↔
      ∃ system, Crs.find code = .ok system ∧
        ∃ placed, MapGeocoding.ofAnchor system size anchor = .ok placed ∧ g = .map placed := by
  simp only [geocodingByMap, bind_eq_ok_iff, mapError_eq_ok_iff]
  refine exists_congr fun system => and_congr Iff.rfl (exists_congr fun placed => ?_)
  refine and_congr Iff.rfl ⟨fun same => (Except.ok.inj same).symm, ?_⟩
  rintro rfl
  rfl

theorem geocodingByMap_eq_ok [CrsRegistry] {code : String} {size : Size}
    {anchor : MapAnchor K} {g : Geocoding K} (h : geocodingByMap code size anchor = .ok g) :
    ∃ placed, g = .map placed ∧ Crs.find code = .ok placed.system ∧ placed.size = size := by
  obtain ⟨system, found, placed, anchored, rfl⟩ := geocodingByMap_eq_ok_iff.mp h
  obtain ⟨rfl, size⟩ := MapGeocoding.ofAnchor_eq_ok anchored
  exact ⟨placed, rfl, found, size⟩

theorem geocodingByMap_madeFor [CrsRegistry] {code : String} {size : Size}
    {anchor : MapAnchor K} {g : Geocoding K} (h : geocodingByMap code size anchor = .ok g) :
    g.MadeFor size := by
  obtain ⟨placed, rfl, _, size⟩ := geocodingByMap_eq_ok h
  exact size

variable [DecidableLT K]

theorem TieGrid.spanning_eq_ok {name : String} {gridSize raster : Size} {offsetX offsetY : K}
    {samples : List K} {grid : TieGrid K}
    (h : spanning name gridSize offsetX offsetY raster samples = .ok grid) :
    grid.points.size = gridSize ∧
      grid.spacingX = (raster.width : K) / ((gridSize.width - 1 : Nat) : K) ∧
      grid.spacingY = (raster.height : K) / ((gridSize.height - 1 : Nat) : K) := by
  obtain ⟨points, size, made⟩ := create_of_spanning h
  obtain ⟨_, _, _, rfl⟩ := create_eq_ok_iff.mp made
  exact ⟨size, rfl, rfl⟩

/-- Dividing by one changes nothing, so one cell spans all of a raster. -/
theorem TieGeocoding.ofCorners_eq_ok (one : ∀ x : K, x / ((1 : Nat) : K) = x)
    {lats lons : Corners K} {offsetX offsetY : K} {raster : Size} {g : TieGeocoding K}
    (h : ofCorners lats lons offsetX offsetY raster = .ok g) :
    g.lat.IsCellOver raster ∧ g.lon.IsCellOver raster := by
  simp only [ofCorners, bind_eq_ok_iff] at h
  obtain ⟨lat, latSpans, lon, lonSpans, made⟩ := h
  simp only [create] at made
  split at made
  · cases made
    obtain ⟨points, spacingX, spacingY⟩ := TieGrid.spanning_eq_ok latSpans
    obtain ⟨points', spacingX', spacingY'⟩ := TieGrid.spanning_eq_ok lonSpans
    exact ⟨⟨points, spacingX.trans (one _), spacingY.trans (one _)⟩,
      points', spacingX'.trans (one _), spacingY'.trans (one _)⟩
  · cases made

theorem geocodingByCorners_madeFor (one : ∀ x : K, x / ((1 : Nat) : K) = x)
    {corners : CornerPositions K} {offset : PixelPoint K} {size : Size} {g : Geocoding K}
    (h : geocodingByCorners corners offset size = .ok g) : g.MadeFor size := by
  obtain ⟨placed, made, rfl⟩ := map_eq_ok_iff.mp h
  exact TieGeocoding.ofCorners_eq_ok one made

namespace SceneReference

/-- The scene with other positions of its corners. -/
def withTiePoints (scene : SceneReference K) (corners : Option (CornerPositions K))
    (gridOffset : PixelPoint K) : SceneReference K :=
  { scene with corners, gridOffset }

variable [CrsRegistry]

theorem geocoding?_eq_some_iff {scene : SceneReference K} {g : Geocoding K} :
    scene.geocoding? = some g ↔
      (∃ anchor code, scene.anchor = some anchor ∧ scene.systemCode = some code ∧
        geocodingByMap code scene.size anchor = .ok g) ∨
      (scene.anchor = none ∧ ∃ corners, scene.corners = some corners ∧
        geocodingByCorners corners scene.gridOffset scene.size = .ok g) := by
  cases anchored : scene.anchor with
  | some anchor =>
      simp [geocoding?, anchored, Option.bind_eq_some_iff, toOption_eq_some_iff]
  | none =>
      simp [geocoding?, anchored, Option.bind_eq_some_iff, toOption_eq_some_iff]

theorem geocoding?_madeFor (one : ∀ x : K, x / ((1 : Nat) : K) = x) {scene : SceneReference K}
    {g : Geocoding K} (h : scene.geocoding? = some g) : g.MadeFor scene.size := by
  obtain ⟨anchor, code, _, _, placed⟩ | ⟨_, corners, _, placed⟩ := geocoding?_eq_some_iff.mp h
  · exact geocodingByMap_madeFor placed
  · exact geocodingByCorners_madeFor one placed

/-- Where the scene's pixels lie. Without a map they stay where they are. -/
def imageToModel (scene : SceneReference K) : Affine K :=
  (scene.geocoding?.map Geocoding.imageToModel).getD .identity

theorem imageToModel_of_loose {scene : SceneReference K} (loose : scene.anchor = none) :
    scene.imageToModel = .identity := by
  cases found : scene.geocoding? with
  | none => simp [imageToModel, found]
  | some g =>
      obtain ⟨_, _, anchored, _⟩ | ⟨_, corners, _, placed⟩ := geocoding?_eq_some_iff.mp found
      · rw [loose] at anchored
        cases anchored
      · obtain ⟨_, _, rfl⟩ := map_eq_ok_iff.mp placed
        simp [imageToModel, found, Geocoding.imageToModel]

theorem imageToModel_withTiePoints (scene : SceneReference K)
    (corners : Option (CornerPositions K)) (gridOffset : PixelPoint K) :
    (scene.withTiePoints corners gridOffset).imageToModel = scene.imageToModel := by
  cases anchored : scene.anchor with
  | some anchor => simp [imageToModel, geocoding?, withTiePoints, anchored]
  | none =>
      rw [imageToModel_of_loose anchored]
      exact imageToModel_of_loose anchored

end SceneReference

namespace BandReference

def withGridOffset (band : BandReference K) (gridOffset : PixelPoint K) : BandReference K :=
  { band with gridOffset }

variable [CrsRegistry] {scene : SceneReference K} {band : BandReference K}

theorem position_geocoding_eq_some_iff {g : Geocoding K} :
    (band.position scene).geocoding = some g ↔
      (∃ anchor code, band.anchor = some anchor ∧
        (band.systemCode <|> scene.systemCode) = some code ∧
        geocodingByMap code band.size anchor = .ok g) ∨
      (band.anchor = none ∧ band.size ≠ scene.size ∧ band.size.isEmpty = false ∧
        ∃ corners, scene.corners = some corners ∧
          geocodingByCorners corners band.gridOffset band.size = .ok g) := by
  cases anchored : band.anchor with
  | some anchor =>
      simp [position, anchored, Option.bind_eq_some_iff, toOption_eq_some_iff]
  | none =>
      by_cases same : band.size = scene.size
      · simp [position, anchored, same]
      · cases empty : band.size.isEmpty <;>
          simp [position, anchored, same, stretch?, empty, Option.bind_eq_some_iff,
            toOption_eq_some_iff]

theorem position_geocoding_madeFor (one : ∀ x : K, x / ((1 : Nat) : K) = x) {g : Geocoding K}
    (h : (band.position scene).geocoding = some g) : g.MadeFor band.size := by
  obtain ⟨anchor, code, _, _, placed⟩ | ⟨_, _, _, corners, _, placed⟩ :=
    position_geocoding_eq_some_iff.mp h
  · exact geocodingByMap_madeFor placed
  · exact geocodingByCorners_madeFor one placed

/-- A band that nothing places: its anchor is in no map, or it has none and either the size of
its scene or no corners to span. -/
inductive Unplaced (scene : SceneReference K) (band : BandReference K) : Prop
  | unmapped {anchor : MapAnchor K} (anchored : band.anchor = some anchor)
      (unresolved : ∀ code, (band.systemCode <|> scene.systemCode) = some code →
        ∀ g, geocodingByMap code band.size anchor ≠ .ok g)
  | alike (loose : band.anchor = none) (same : band.size = scene.size)
  | unspanned (loose : band.anchor = none) (other : band.size ≠ scene.size)
      (unresolved : ∀ corners, scene.corners = some corners →
        ∀ g, geocodingByCorners corners band.gridOffset band.size ≠ .ok g)

theorem position_geocoding_eq_none_iff (nonempty : band.size.isEmpty = false) :
    (band.position scene).geocoding = none ↔ band.Unplaced scene := by
  rw [Option.eq_none_iff_forall_ne_some]
  simp only [ne_eq, position_geocoding_eq_some_iff, not_or, not_exists, not_and]
  constructor
  · intro none
    cases anchored : band.anchor with
    | some anchor =>
        exact .unmapped anchored fun code named g => (none g).1 anchor code anchored named
    | none =>
        by_cases same : band.size = scene.size
        · exact .alike anchored same
        · exact .unspanned anchored same fun corners held g =>
            (none g).2 anchored same nonempty corners held
  · intro unplaced g
    cases unplaced with
    | unmapped anchored unresolved =>
        refine ⟨fun anchor code held named => ?_, fun loose => ?_⟩
        · cases anchored.symm.trans held
          exact unresolved code named g
        · cases anchored.symm.trans loose
    | alike loose same =>
        refine ⟨fun anchor _ anchored => ?_, fun _ other => absurd same other⟩
        cases loose.symm.trans anchored
    | unspanned loose other unresolved =>
        refine ⟨fun anchor _ anchored => ?_, fun _ _ _ corners held => unresolved corners held g⟩
        cases loose.symm.trans anchored

theorem transform_of_alike (loose : band.anchor = none)
    (alike : band.size = scene.size ∨ band.size.isEmpty = true) :
    (band.position scene).transform scene.geocoding? = scene.imageToModel := by
  by_cases same : band.size = scene.size
  · simp [position, loose, same, BandPosition.transform, SceneReference.imageToModel]
  · have empty := alike.resolve_left same
    simp [position, loose, same, stretch?, empty, BandPosition.transform,
      SceneReference.imageToModel]

theorem transform_of_other (loose : band.anchor = none) (other : band.size ≠ scene.size)
    (nonempty : band.size.isEmpty = false) :
    (band.position scene).transform scene.geocoding? =
      .scaling ((scene.size.width : K) / (band.size.width : K))
        ((scene.size.height : K) / (band.size.height : K)) := by
  simp [position, loose, other, stretch?, nonempty, BandPosition.transform]

/-- A band with an anchor goes by its own map, or else by that of the scene. -/
theorem transform_of_anchored {anchor : MapAnchor K} (anchored : band.anchor = some anchor) :
    (band.position scene).transform scene.geocoding? =
      ((band.position scene).geocoding.map Geocoding.imageToModel).getD scene.imageToModel := by
  have transform : (band.position scene).transform scene.geocoding? =
      (((band.position scene).geocoding <|> scene.geocoding?).map
        Geocoding.imageToModel).getD .identity := by
    simp [position, anchored, BandPosition.transform]
  rw [transform]
  cases (band.position scene).geocoding <;> rfl

/-- Corners and offsets of tie points change no transform. -/
theorem transform_withTiePoints (scene : SceneReference K) (band : BandReference K)
    (corners : Option (CornerPositions K)) (sceneOffset gridOffset : PixelPoint K) :
    ((band.withGridOffset gridOffset).position
        (scene.withTiePoints corners sceneOffset)).transform
          (scene.withTiePoints corners sceneOffset).geocoding? =
      (band.position scene).transform scene.geocoding? := by
  have same := scene.imageToModel_withTiePoints corners sceneOffset
  cases anchored : band.anchor with
  | some anchor =>
      have own : ((band.withGridOffset gridOffset).position
          (scene.withTiePoints corners sceneOffset)).geocoding =
            (band.position scene).geocoding := by
        simp [position, withGridOffset, SceneReference.withTiePoints, anchored]
      have moved : (band.withGridOffset gridOffset).anchor = some anchor := anchored
      rw [transform_of_anchored moved, transform_of_anchored anchored, own, same]
  | none =>
      have moved : (band.withGridOffset gridOffset).anchor = none := anchored
      by_cases alike : band.size = scene.size ∨ band.size.isEmpty = true
      · rw [transform_of_alike anchored alike, ← same]
        exact transform_of_alike moved alike
      · obtain ⟨other, nonempty⟩ := not_or.mp alike
        have nonempty := Bool.eq_false_iff.mpr nonempty
        rw [transform_of_other anchored other nonempty]
        exact transform_of_other moved other nonempty

/-- What moves the pixels of a band: its own anchor or that of its scene, in a map whose code names
a system, or the stretch over the scene. -/
inductive Placed (scene : SceneReference K) (band : BandReference K) : Affine K → Prop
  | ownMap {anchor : MapAnchor K} {code : String} {placed : MapGeocoding K}
      (anchored : band.anchor = some anchor)
      (coded : (band.systemCode <|> scene.systemCode) = some code)
      (named : Crs.find code = .ok placed.system)
      (resolved : geocodingByMap code band.size anchor = .ok (.map placed)) :
      Placed scene band placed.imageToMap
  | sceneMap {anchor : MapAnchor K} {code : String} {placed : MapGeocoding K}
      (anchored : scene.anchor = some anchor) (coded : scene.systemCode = some code)
      (named : Crs.find code = .ok placed.system)
      (resolved : geocodingByMap code scene.size anchor = .ok (.map placed)) :
      Placed scene band placed.imageToMap
  | stretched (loose : band.anchor = none) (other : band.size ≠ scene.size) :
      Placed scene band (.scaling ((scene.size.width : K) / (band.size.width : K))
        ((scene.size.height : K) / (band.size.height : K)))

theorem placed_imageToModel (found : scene.imageToModel ≠ .identity) :
    band.Placed scene scene.imageToModel := by
  cases resolved : scene.geocoding? with
  | none => simp [SceneReference.imageToModel, resolved] at found
  | some g =>
      have moves : scene.imageToModel = g.imageToModel := by
        simp [SceneReference.imageToModel, resolved]
      rw [moves] at found ⊢
      obtain ⟨anchor, code, anchored, coded, made⟩ | ⟨_, corners, _, made⟩ :=
        SceneReference.geocoding?_eq_some_iff.mp resolved
      · obtain ⟨placed, rfl, named, _⟩ := geocodingByMap_eq_ok made
        exact .sceneMap anchored coded named made
      · obtain ⟨_, _, rfl⟩ := map_eq_ok_iff.mp made
        exact absurd rfl found

/-- What nothing moves has the identity. -/
theorem placed_transform
    (found : (band.position scene).transform scene.geocoding? ≠ .identity) :
    band.Placed scene ((band.position scene).transform scene.geocoding?) := by
  cases anchored : band.anchor with
  | some anchor =>
      rw [transform_of_anchored anchored] at found ⊢
      cases own : (band.position scene).geocoding with
      | none =>
          rw [own] at found
          exact placed_imageToModel found
      | some g =>
          obtain ⟨anchor, code, anchored, coded, made⟩ | ⟨loose, _⟩ :=
            position_geocoding_eq_some_iff.mp own
          · obtain ⟨placed, rfl, named, _⟩ := geocodingByMap_eq_ok made
            exact .ownMap anchored coded named made
          · cases loose.symm.trans anchored
  | none =>
      by_cases alike : band.size = scene.size ∨ band.size.isEmpty = true
      · rw [transform_of_alike anchored alike] at found ⊢
        exact placed_imageToModel found
      · obtain ⟨other, nonempty⟩ := not_or.mp alike
        rw [transform_of_other anchored other (Bool.eq_false_iff.mpr nonempty)]
        exact .stretched anchored other

end BandReference

end RasterMosaic
