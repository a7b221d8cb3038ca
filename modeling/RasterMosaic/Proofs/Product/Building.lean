import RasterMosaic.Proofs.Geocoding.Position
import RasterMosaic.Proofs.Mosaic.Building
import RasterMosaic.Proofs.Pyramid.TileSize
import RasterMosaic.Source.Listed

/-!
Products as they are built. What refuses one is its settings, the lack of bands or of pixels, or
the pyramid of its first band without one. Geocodings are found or not, and no more: a code, a
corner or an offset of tie points never refuses anything.
-/

namespace RasterMosaic

theorem BandDescription.withSize_eq {K : Type} (d : BandDescription K) (size : Size) :
    d.withSize size =
      { d with
        reference :=
          { d.reference with
            size := if d.reference.size.isEmpty then size else d.reference.size } } := by
  simp only [withSize]
  split <;> rfl

variable {K S : Type} {n : Nat} [LevelSource S]

namespace BandInput

/-- The size of the band's source. -/
def size (input : BandInput K n) (sources : Vector S n) : Size :=
  LevelSource.baseSize (sources.get input.source)

def levelCount (input : BandInput K n) (sources : Vector S n) : Nat :=
  LevelSource.levelCount (sources.get input.source)

/-- The description that the band is built with. -/
def described (input : BandInput K n) (sources : Vector S n) : BandDescription K :=
  input.description.withSize (input.size sources)

section Described
variable (input : BandInput K n) (sources : Vector S n)

@[simp] theorem scalingFactor_described :
    (input.described sources).scalingFactor = input.description.scalingFactor := by
  rw [described, BandDescription.withSize_eq]

@[simp] theorem scalingOffset_described :
    (input.described sources).scalingOffset = input.description.scalingOffset := by
  rw [described, BandDescription.withSize_eq]

@[simp] theorem noData_described :
    (input.described sources).noData = input.description.noData := by
  rw [described, BandDescription.withSize_eq]

end Described

/-- The same band, its tie points moved. -/
def withGridOffset (input : BandInput K n) (gridOffset : PixelPoint K) : BandInput K n :=
  { input with
    description :=
      { input.description with
        reference := input.description.reference.withGridOffset gridOffset } }

/-- Two bands differ in the offset of their tie points at most. -/
def IsMoved (other input : BandInput K n) : Prop :=
  ∃ gridOffset, other = input.withGridOffset gridOffset

theorem IsMoved.symm {other input : BandInput K n} (h : other.IsMoved input) :
    input.IsMoved other := by
  obtain ⟨_, rfl⟩ := h
  exact ⟨input.description.reference.gridOffset, rfl⟩

variable [CrsRegistry] [Scalar K] [DecidableLT K]

def position (input : BandInput K n) (scene : SceneReference K) (sources : Vector S n) :
    BandPosition K :=
  (input.described sources).reference.position scene

def imageToModel (input : BandInput K n) (scene : SceneReference K) (sources : Vector S n) :
    Affine K :=
  (input.position scene sources).transform scene.geocoding?

/-- A band is what its input makes it: nothing else is in it, and nothing is held yet. -/
structure Makes (scene : SceneReference K) (config : Config) (sources : Vector S n)
    (input : BandInput K n) (band : Band K n) : Prop where
  description : band.description = input.described sources
  geocoding : band.geocoding =
    .choose (input.position scene sources).geocoding scene.geocoding?
  imageToModel : band.imageToModel = input.imageToModel scene sources
  fresh : band.mosaic = Mosaic.fresh band.mosaic.plan
  placements : band.mosaic.plan.placements = [⟨input.source, 0, 0⟩]
  geometry : LevelGeometry.create (input.levelCount sources) band.imageToModel
    (input.size sources) = .ok band.mosaic.plan.geometry
  tiles : bestTileSize (input.size sources) config = .ok band.mosaic.plan.tileSize
  noData : band.mosaic.plan.noData =
    ((input.described sources).noData <|>
      LevelSource.noData (sources.get input.source)).map Sample.narrow
  config : band.mosaic.plan.config = config

/-- Why a band is refused. -/
def Refused (scene : SceneReference K) (sources : Vector S n) (input : BandInput K n) :
    ArgumentError → Prop :=
  LevelGeometry.Refused (input.levelCount sources) (input.imageToModel scene sources)
    (input.size sources)

theorem refused_iff {scene : SceneReference K} {sources : Vector S n} {input : BandInput K n} :
    (∃ cause, input.Refused scene sources cause) ↔
      (input.size sources).isEmpty = true ∨ input.levelCount sources = 0 ∨
        ∃ cause, (input.imageToModel scene sources).inverse = .error cause := by
  constructor
  · rintro ⟨cause, flat | empty | stuck⟩
    · exact .inr (.inl flat)
    · exact .inl ‹_›
    · exact .inr (.inr ⟨cause, ‹_›⟩)
  · intro h
    by_cases flat : input.levelCount sources = 0
    · exact ⟨_, .noLevels flat⟩
    · cases empty : (input.size sources).isEmpty with
      | true => exact ⟨_, .emptyBase flat empty⟩
      | false =>
          obtain filled | flat' | ⟨cause, stuck⟩ := h
          · cases empty.symm.trans filled
          · exact absurd flat' flat
          · exact ⟨cause, .singular flat empty stuck⟩

/-- A band that is built covers pixels, as does the raster it is described for. -/
theorem Makes.covers {scene : SceneReference K} {config : Config} {sources : Vector S n}
    {input : BandInput K n} {band : Band K n} (made : input.Makes scene config sources band) :
    band.description.reference.size.isEmpty = false := by
  obtain ⟨_, nonempty, _⟩ := LevelGeometry.create_eq_ok_iff.mp made.geometry
  rw [made.description, described, BandDescription.withSize_eq]
  cases empty : input.description.reference.size.isEmpty with
  | true => simpa [empty] using nonempty
  | false => simp [empty]

theorem not_refused_of_back {scene : SceneReference K} {sources : Vector S n}
    {input : BandInput K n} (levels : input.levelCount sources ≠ 0)
    (nonempty : (input.size sources).isEmpty = false)
    (back : (input.imageToModel scene sources).inverse.isOk = true)
    {cause : ArgumentError} : ¬ input.Refused scene sources cause := by
  intro refused
  cases refused with
  | noLevels flat => exact levels flat
  | emptyBase _ empty => cases nonempty.symm.trans empty
  | singular _ _ stuck =>
      rw [stuck] at back
      cases back

theorem Makes.not_refused {scene : SceneReference K} {config : Config} {sources : Vector S n}
    {input : BandInput K n} {band : Band K n} (made : input.Makes scene config sources band)
    (cause : ArgumentError) : ¬ input.Refused scene sources cause := by
  intro refused
  have shaped := made.geometry
  rw [made.imageToModel] at shaped
  cases shaped.symm.trans (LevelGeometry.create_eq_error_iff.mpr refused)

theorem Makes.built {scene : SceneReference K} {config : Config} {sources : Vector S n}
    {input : BandInput K n} {band : Band K n} (made : input.Makes scene config sources band)
    (usable : config.check = .ok ()) : Mosaic.Built S band.mosaic := by
  obtain ⟨tileSize, suits, tiled⟩ := bestTileSize_eq_ok usable (input.size sources)
  obtain rfl := Except.ok.inj (suits.symm.trans made.tiles)
  have created : Mosaic.create sources [⟨input.source, 0, 0⟩] (input.size sources) _
      (input.levelCount sources) band.imageToModel config = .ok _ :=
    Mosaic.create_eq_ok_iff.mpr ⟨_, _, _, rfl, tiled, usable, made.geometry, rfl⟩
  have same := Mosaic.Built.withNoData (.create created)
    ((input.described sources).noData <|> LevelSource.noData (sources.get input.source))
  have plan : band.mosaic.plan =
      ⟨[⟨input.source, 0, 0⟩], band.mosaic.plan.geometry, band.mosaic.plan.tileSize,
        ((input.described sources).noData <|>
          LevelSource.noData (sources.get input.source)).map Sample.narrow, config⟩ := by
    rw [← made.placements, ← made.noData, ← made.config]
  rw [made.fresh, plan]
  exact same

theorem imageToModel_withTiePoints (scene : SceneReference K) (sources : Vector S n)
    (input : BandInput K n) (corners : Option (CornerPositions K))
    (sceneOffset gridOffset : PixelPoint K) :
    (input.withGridOffset gridOffset).imageToModel (scene.withTiePoints corners sceneOffset)
        sources = input.imageToModel scene sources := by
  have described : ((input.withGridOffset gridOffset).described sources).reference =
      (input.described sources).reference.withGridOffset gridOffset := by
    simp only [BandInput.described, BandDescription.withSize_eq]
    rfl
  simp only [imageToModel, position, described]
  exact BandReference.transform_withTiePoints ..

end BandInput

namespace Product

section Outcome
variable [CrsRegistry] [Scalar K] [DecidableLT K] {scene : SceneReference K} {config : Config}
  {sources : Vector S n}

theorem makes_of_bandOf {input : BandInput K n} {band : Band K n}
    (h : bandOf scene scene.geocoding? config sources input = .ok band) :
    input.Makes scene config sources band := by
  simp only [bandOf, bind_eq_ok_iff, mapError_eq_ok_iff] at h
  obtain ⟨_, tiles, mosaic, created, made⟩ := h
  cases made
  obtain ⟨_, _, geometry, placed, _, _, shaped, rfl⟩ := Mosaic.create_eq_ok_iff.mp created
  exact ⟨rfl, rfl, rfl, rfl, rfl, shaped, tiles, rfl, rfl⟩

/-- Under usable settings a band fails by the pyramid it would have. -/
theorem bandOf_eq_error_iff {input : BandInput K n} {failure : Failure}
    (usable : config.check = .ok ()) :
    bandOf scene scene.geocoding? config sources input = .error failure ↔
      ∃ cause, input.Refused scene sources cause ∧ failure = .error (.badArgument cause) := by
  obtain ⟨tileSize, suits, tiled⟩ := bestTileSize_eq_ok usable (input.size sources)
  have refused : ∀ error, Mosaic.create sources [⟨input.source, 0, 0⟩] (input.size sources)
      tileSize (input.levelCount sources) (input.imageToModel scene sources) config =
        .error error ↔ ∃ cause, input.Refused scene sources cause ∧ error = .badArgument cause :=
    fun _ => Mosaic.create_eq_error_iff tiled usable
  constructor
  · intro h
    obtain untiled | ⟨_, tiles, h⟩ := bind_eq_error_iff.mp h
    · obtain ⟨_, untiled, _⟩ := mapError_eq_error_iff.mp untiled
      cases suits.symm.trans untiled
    cases suits.symm.trans (mapError_eq_ok_iff.mp tiles)
    obtain failed | ⟨_, _, made⟩ := bind_eq_error_iff.mp h
    · obtain ⟨error, stuck, rfl⟩ := mapError_eq_error_iff.mp failed
      obtain ⟨cause, why, rfl⟩ := (refused error).mp stuck
      exact ⟨cause, why, rfl⟩
    · cases made
  · rintro ⟨cause, why, rfl⟩
    have stuck := (refused _).mpr ⟨cause, why, rfl⟩
    refine bind_eq_error_iff.mpr (.inr ⟨tileSize, mapError_eq_ok_iff.mpr suits, ?_⟩)
    exact bind_eq_error_iff.mpr (.inl (mapError_eq_error_iff.mpr ⟨_, stuck, rfl⟩))

/-- Under usable settings a band is built unless its pyramid is refused. -/
theorem bandOf_succeeds_iff {input : BandInput K n} (usable : config.check = .ok ()) :
    (∃ band, bandOf scene scene.geocoding? config sources input = .ok band) ↔
      ∀ cause, ¬ input.Refused scene sources cause := by
  constructor
  · rintro ⟨band, made⟩ cause why
    cases made.symm.trans ((bandOf_eq_error_iff usable).mpr ⟨cause, why, rfl⟩)
  · intro fit
    cases made : bandOf scene scene.geocoding? config sources input with
    | ok band => exact ⟨band, rfl⟩
    | error failure =>
        obtain ⟨cause, why, _⟩ := (bandOf_eq_error_iff usable).mp made
        exact absurd why (fit cause)

/-- What a product is made of. -/
structure IsBuiltFrom (name : String) (scene : SceneReference K) (inputs : List (BandInput K n))
    (config : Config) (sources : Vector S n) (p : Product K n) : Prop where
  usable : config.check = .ok ()
  banded : inputs ≠ []
  covers : scene.size.isEmpty = false
  name : p.name = name
  size : p.size = scene.size
  geocoding : p.geocoding = scene.geocoding?
  bands : List.Forall₂ (BandInput.Makes scene config sources) inputs p.bands

/-- Why a product is refused. The first band that is refused decides, and bands are looked at
last. -/
inductive Refused (name : String) (scene : SceneReference K) (inputs : List (BandInput K n))
    (config : Config) (sources : Vector S n) : RasterError → Prop
  | config {cause : ConfigError} (unusable : config.check = .error cause) :
      Refused name scene inputs config sources (.badConfig cause)
  | noBands (usable : config.check = .ok ()) (bare : inputs = []) :
      Refused name scene inputs config sources (.badArgument (.noBands name))
  | emptyScene (usable : config.check = .ok ()) (banded : inputs ≠ [])
      (empty : scene.size.isEmpty = true) :
      Refused name scene inputs config sources (.badArgument (.emptyScene scene.size))
  | band {before after : List (BandInput K n)} {input : BandInput K n} {cause : ArgumentError}
      (usable : config.check = .ok ()) (covers : scene.size.isEmpty = false)
      (split : inputs = before ++ input :: after)
      (earlier : ∀ other ∈ before, ∀ cause, ¬ other.Refused scene sources cause)
      (refused : input.Refused scene sources cause) :
      Refused name scene inputs config sources (.badArgument cause)

variable {name : String} {inputs : List (BandInput K n)}

/-- Past the first checks a product is built band by band. -/
theorem build_of_usable (usable : config.check = .ok ()) (banded : inputs ≠ [])
    (covers : scene.size.isEmpty = false) :
    build name scene inputs config sources =
      (inputs.mapM (bandOf scene scene.geocoding? config sources)).map
        (⟨name, scene.size, scene.geocoding?, ·⟩) := by
  have checked : config.check.mapError (Failure.error ∘ RasterError.badConfig) = .ok () :=
    mapError_eq_ok_iff.mpr usable
  have listed : inputs.isEmpty = false := by simpa using banded
  simp only [build, checked, listed, covers]
  cases inputs.mapM (bandOf scene scene.geocoding? config sources) <;> rfl

theorem isBuiltFrom_of_build {p : Product K n}
    (h : build name scene inputs config sources = .ok p) :
    IsBuiltFrom name scene inputs config sources p := by
  have whole := h
  simp only [build, bind_eq_ok_iff, mapError_eq_ok_iff] at h
  obtain ⟨_, usable, h⟩ := h
  split at h
  · cases h
  · rename_i listed
    split at h
    · cases h
    · rename_i covers
      have banded : inputs ≠ [] := by simpa using listed
      have covers := Bool.eq_false_iff.mpr covers
      rw [build_of_usable usable banded covers] at whole
      obtain ⟨bands, made, rfl⟩ := map_eq_ok_iff.mp whole
      have bands := (mapM_eq_ok_iff.mp made).imp fun _ _ => makes_of_bandOf
      exact ⟨usable, banded, covers, rfl, rfl, rfl, bands⟩

theorem build_eq_error_iff {failure : Failure} :
    build name scene inputs config sources = .error failure ↔
      ∃ cause, Refused name scene inputs config sources cause ∧ failure = .error cause := by
  constructor
  · intro h
    cases usable : config.check with
    | error cause =>
        simp only [build, usable] at h
        cases h
        exact ⟨_, .config usable, rfl⟩
    | ok _ =>
        by_cases bare : inputs = []
        · simp only [build, usable, bare] at h
          cases h
          exact ⟨_, .noBands usable bare, rfl⟩
        · cases empty : scene.size.isEmpty with
          | true =>
              have listed : inputs.isEmpty = false := by simpa using bare
              simp only [build, usable, listed, empty] at h
              cases h
              exact ⟨_, .emptyScene usable bare empty, rfl⟩
          | false =>
              rw [build_of_usable usable bare empty, map_eq_error_iff, mapM_eq_error_iff] at h
              obtain ⟨before, input, after, split, passed, failed⟩ := h
              obtain ⟨cause, refused, rfl⟩ := (bandOf_eq_error_iff usable).mp failed
              have earlier := fun other hmem => (bandOf_succeeds_iff usable).mp (passed other hmem)
              exact ⟨_, .band usable empty split earlier refused, rfl⟩
  · rintro ⟨cause, refused, rfl⟩
    cases refused with
    | config unusable =>
        simp only [build, unusable]
        rfl
    | noBands usable bare =>
        simp only [build, usable, bare]
        rfl
    | emptyScene usable banded empty =>
        have listed : inputs.isEmpty = false := by simpa using banded
        simp only [build, usable, listed, empty]
        rfl
    | band usable covers split earlier refused =>
        have banded : inputs ≠ [] := by simp [split]
        rw [build_of_usable usable banded covers, map_eq_error_iff, mapM_eq_error_iff]
        have passed := fun other hmem => (bandOf_succeeds_iff usable).mpr (earlier other hmem)
        have failed := (bandOf_eq_error_iff usable).mpr ⟨_, refused, rfl⟩
        exact ⟨_, _, _, split, passed, failed⟩

/-- A product is refused just when something is wrong with its settings, its bands or its scene. -/
theorem build_fails_iff :
    (∃ failure, build name scene inputs config sources = .error failure) ↔
      config.check ≠ .ok () ∨ inputs = [] ∨ scene.size.isEmpty = true ∨
        ∃ input ∈ inputs, ∃ cause, input.Refused scene sources cause := by
  constructor
  · rintro ⟨failure, failed⟩
    obtain ⟨cause, refused, _⟩ := build_eq_error_iff.mp failed
    cases refused with
    | config unusable => exact .inl (unusable ▸ nofun)
    | noBands _ bare => exact .inr (.inl bare)
    | emptyScene _ _ empty => exact .inr (.inr (.inl empty))
    | band _ _ split _ refused =>
        refine .inr (.inr (.inr ⟨_, ?_, _, refused⟩))
        rw [split]
        exact List.mem_append_right _ List.mem_cons_self
  · intro wrong
    cases made : build name scene inputs config sources with
    | error failure => exact ⟨failure, rfl⟩
    | ok p =>
        obtain ⟨usable, banded, covers, _, _, _, bands⟩ := isBuiltFrom_of_build made
        obtain unusable | bare | empty | ⟨input, hmem, cause, refused⟩ := wrong
        · exact absurd usable unusable
        · exact absurd bare banded
        · cases covers.symm.trans empty
        · obtain ⟨band, _, made⟩ := exists_of_mem_forall₂ bands hmem
          exact absurd refused (made.not_refused cause)

/-- A product of one band. -/
theorem build_single (name : String) {input : BandInput K n} (usable : config.check = .ok ())
    (covers : scene.size.isEmpty = false) (fit : ∀ cause, ¬ input.Refused scene sources cause) :
    ∃ band, build name scene [input] config sources =
        .ok ⟨name, scene.size, scene.geocoding?, [band]⟩ ∧
      input.Makes scene config sources band := by
  obtain ⟨band, made⟩ := (bandOf_succeeds_iff usable).mpr fit
  have bands : [input].mapM (bandOf scene scene.geocoding? config sources) = .ok [band] :=
    mapM_eq_ok_iff.mpr (.cons made .nil)
  refine ⟨band, ?_, makes_of_bandOf made⟩
  rw [build_of_usable usable (List.cons_ne_nil _ _) covers, bands]
  rfl

/-- Bands whose tie points are moved are refused as before, and so is their product. -/
theorem Refused.withTiePoints {others : List (BandInput K n)} {cause : RasterError}
    (h : Refused name scene inputs config sources cause)
    (moved : List.Forall₂ BandInput.IsMoved others inputs)
    (corners : Option (CornerPositions K)) (gridOffset : PixelPoint K) :
    Refused name (scene.withTiePoints corners gridOffset) others config sources cause := by
  have same : ∀ (other input : BandInput K n) (cause : ArgumentError),
      other.IsMoved input →
        (other.Refused (scene.withTiePoints corners gridOffset) sources cause ↔
          input.Refused scene sources cause) := by
    rintro _ input cause ⟨offset, rfl⟩
    simp only [BandInput.Refused, BandInput.imageToModel_withTiePoints]
    rfl
  cases h with
  | config unusable => exact .config unusable
  | noBands usable bare =>
      subst bare
      exact .noBands usable (List.forall₂_nil_right_iff.mp moved)
  | emptyScene usable banded empty =>
      refine .emptyScene usable (fun bare => banded ?_) empty
      subst bare
      exact List.forall₂_nil_left_iff.mp moved
  | @band before after input _ usable covers split earlier refused =>
      subst split
      have movedBefore := List.forall₂_take_append _ _ _ moved
      obtain ⟨other, rest, hother, _, dropped⟩ :=
        List.forall₂_cons_right_iff.mp (List.forall₂_drop_append _ _ _ moved)
      have passed : ∀ other ∈ others.take before.length, ∀ cause,
          ¬ other.Refused (scene.withTiePoints corners gridOffset) sources cause := by
        intro other hmem cause refused
        obtain ⟨input, hinput, moved⟩ := exists_of_mem_forall₂ movedBefore hmem
        exact earlier input hinput cause ((same other input cause moved).mp refused)
      have split : others = others.take before.length ++ other :: rest := by
        rw [← dropped, List.take_append_drop]
      exact .band usable covers split passed ((same other input _ hother).mpr refused)

/-- Building fails on the settings, the bands, the scene or the first band without a pyramid, in
that order, and on nothing else. A transform is refused only when a map that was found or the
stretch over the scene gives it, and no position of tie points has a part in a failure. What is
built has the bands of its inputs in their order. -/
theorem build_outcome (name : String) (scene : SceneReference Float)
    (inputs : List (BandInput Float n)) (config : Config) (sources : Vector S n) :
    ((∃ failure, build name scene inputs config sources = .error failure) ↔
      config.check ≠ .ok () ∨ inputs = [] ∨ scene.size.isEmpty = true ∨
        ∃ input ∈ inputs, (input.size sources).isEmpty = true ∨ input.levelCount sources = 0 ∨
          ∃ cause, (input.imageToModel scene sources).inverse = .error cause) ∧
    (∀ failure, build name scene inputs config sources = .error failure ↔
      ∃ cause, Refused name scene inputs config sources cause ∧ failure = .error cause) ∧
    (∀ cause, build name scene inputs config sources ≠ .error (.error (.badSystem cause))) ∧
    (∀ p, build name scene inputs config sources = .ok p →
      IsBuiltFrom name scene inputs config sources p) ∧
    (config.check = .ok () → ∀ size, ∃ tileSize, bestTileSize size config = .ok tileSize ∧
      tileSize.isEmpty = false) ∧
    (∀ (input : BandInput Float n) cause,
      (input.imageToModel scene sources).inverse = .error cause →
        (input.described sources).reference.Placed scene (input.imageToModel scene sources)) ∧
    (∀ others corners gridOffset failure, List.Forall₂ BandInput.IsMoved others inputs →
      (build name (scene.withTiePoints corners gridOffset) others config sources =
          .error failure ↔
        build name scene inputs config sources = .error failure)) := by
  refine ⟨?_, fun _ => build_eq_error_iff, ?_, fun _ => isBuiltFrom_of_build, ?_, ?_, ?_⟩
  · simp only [build_fails_iff, BandInput.refused_iff]
  · intro cause failed
    obtain ⟨_, refused, same⟩ := build_eq_error_iff.mp failed
    cases same
    cases refused
  · exact fun usable => bestTileSize_eq_ok usable
  · intro input cause stuck
    refine BandReference.placed_transform fun unmoved => ?_
    have unmoved : input.imageToModel scene sources = .identity := unmoved
    obtain ⟨_, back⟩ := Affine.inverse_identity_float
    rw [unmoved] at stuck
    cases stuck.symm.trans back
  · intro others corners gridOffset failure moved
    have back : List.Forall₂ BandInput.IsMoved inputs others :=
      (moved.imp fun _ _ h => BandInput.IsMoved.symm h).flip
    rw [build_eq_error_iff, build_eq_error_iff]
    constructor
    · rintro ⟨cause, refused, rfl⟩
      exact ⟨cause, refused.withTiePoints back scene.corners scene.gridOffset, rfl⟩
    · rintro ⟨cause, refused, rfl⟩
      exact ⟨cause, refused.withTiePoints moved corners gridOffset, rfl⟩

end Outcome

section Mixed

/-- A band of which no more is known than its name. -/
def bareDescription (K : Type) [Scalar K] (name : String) : BandDescription K where
  name := name
  unit := none
  summary := none
  scalingFactor := 1
  scalingOffset := 0
  noData := none
  spectralIndex := none
  wavelength := none
  reference := ⟨⟨0, 0⟩, none, none, ⟨(0 : Nat), (0 : Nat)⟩⟩

def halfSource : ListedSource where
  baseSize := ⟨2, 1⟩
  tileSize := ⟨2, 1⟩
  levelCount := 1
  noData := none
  answers := #[.ok (.filled ⟨2, 1⟩ 7)]

/-- A source of one level, a source without levels, and one of too many pixels to tell apart. -/
def mixedSources : Vector ListedSource 3 :=
  #v[halfSource, { halfSource with levelCount := 0 },
    { halfSource with baseSize := ⟨1 <<< 30, 1 <<< 30⟩ }]

def bareInput (K : Type) [Scalar K] (name : String) (source : Fin n) : BandInput K n :=
  ⟨bareDescription K name, source⟩

/-- A scene of steps of one from 10 and 50 in the map that the code names. -/
def anchoredScene (K : Type) [Scalar K] (code : String) : SceneReference K where
  size := ⟨4, 2⟩
  systemCode := some code
  anchor := some ⟨(10 : Nat), (50 : Nat), (1 : Nat), (1 : Nat)⟩
  corners := none
  gridOffset := ⟨(0 : Nat), (0 : Nat)⟩

/-- Of a band without an anchor only the size matters. -/
theorem imageToModel_bareInput [CrsRegistry] [Scalar K] [DecidableLT K] {scene : SceneReference K}
    {sources : Vector S n} {name : String} {source : Fin n}
    (other : LevelSource.baseSize (sources.get source) ≠ scene.size)
    (nonempty : (LevelSource.baseSize (sources.get source)).isEmpty = false) :
    (bareInput K name source).imageToModel scene sources =
      .scaling ((scene.size.width : K) / ((LevelSource.baseSize (sources.get source)).width : K))
        ((scene.size.height : K) / ((LevelSource.baseSize (sources.get source)).height : K)) :=
  BandReference.transform_of_other rfl other nonempty

/-- A scene with one band, half as wide and half as high, which is stretched over it. -/
theorem build_half [CrsRegistry] [Scalar K] [DecidableLT K] (name : String)
    (scene : SceneReference K) (size : scene.size = ⟨4, 2⟩)
    (back : (Affine.scaling (((4 : Nat) : K) / ((2 : Nat) : K))
      (((2 : Nat) : K) / ((1 : Nat) : K))).inverse.isOk = true) :
    ∃ band,
    build name scene [bareInput K "half" 0] {} #v[halfSource] =
        .ok ⟨name, scene.size, scene.geocoding?, [band]⟩ ∧
      (bareInput K "half" 0).Makes scene {} #v[halfSource] band := by
  have usable : ({} : Config).check = .ok () := rfl
  have covers : scene.size.isEmpty = false := by rw [size]; rfl
  have other : (⟨2, 1⟩ : Size) ≠ scene.size := by rw [size]; decide
  have levels : (bareInput K "half" 0).levelCount #v[halfSource] ≠ 0 := Nat.one_ne_zero
  refine build_single name usable covers fun cause =>
    BandInput.not_refused_of_back levels rfl ?_
  rw [imageToModel_bareInput other rfl, size]
  exact back

def northScene (K : Type) [Scalar K] : SceneReference K := anchoredScene K "EPSG:4326"

/-- The map of that scene. -/
def northMap (K : Type) [Scalar K] : MapGeocoding K where
  system := Crs.worldSystem
  size := ⟨4, 2⟩
  imageToMap :=
    { scaleX := (1 : Nat)
      shearX := (0 : Nat)
      shiftX := ((10 : Nat) : K) - ((0 : Nat) : K) * ((1 : Nat) : K)
      shearY := (0 : Nat)
      scaleY := -((1 : Nat) : K)
      shiftY := ((50 : Nat) : K) + ((0 : Nat) : K) * ((1 : Nat) : K) }

/-- The scene has its map by any registry that lists longitude and latitude. -/
theorem geocoding?_northScene [CrsRegistry] [Scalar K] [DecidableLT K]
    (listed : CrsRegistry.parameters? 4326 = some Crs.worldParameters)
    (step : (((1 : Nat) : K) == ((0 : Nat) : K)) = false) :
    (northScene K).geocoding? = some (.map (northMap K)) := by
  have made : MapGeocoding.ofAnchor Crs.worldSystem ⟨4, 2⟩
      (⟨(10 : Nat), (50 : Nat), (1 : Nat), (1 : Nat)⟩ : MapAnchor K) = .ok (northMap K) :=
    MapGeocoding.create_eq_ok_iff.mpr ⟨rfl, step, step, rfl⟩
  refine SceneReference.geocoding?_eq_some_iff.mpr (.inl ⟨_, _, rfl, rfl, ?_⟩)
  exact geocodingByMap_eq_ok_iff.mpr ⟨_, Crs.find_world listed, _, made, rfl⟩

def misnamedScene : SceneReference Float := anchoredScene Float "EPSG:none"

theorem not_refused_half [CrsRegistry] (cause : ArgumentError) :
    ¬ (bareInput Float "half" 0).Refused misnamedScene mixedSources cause := by
  refine BandInput.not_refused_of_back (by decide) rfl ?_
  rw [imageToModel_bareInput (by decide) rfl]
  decide +kernel

/-- The code of this scene names no system, and fails nothing: the first band without a level does,
and before it is looked at, a product of the other has its band. -/
theorem build_outcome_misnamed :
    (∀ corners gridOffset,
      build "mixed" (misnamedScene.withTiePoints corners gridOffset)
          [bareInput Float "half" 0, bareInput Float "flat" 1, bareInput Float "vast" 2] {}
          mixedSources = .error (.error (.badArgument .noLevels))) ∧
    (∃ cause, (bareInput Float "vast" 2).Refused misnamedScene mixedSources cause ∧
      (bareDescription Float "vast" |>.withSize ⟨1 <<< 30, 1 <<< 30⟩).reference.Placed misnamedScene
        ((bareInput Float "vast" 2).imageToModel misnamedScene mixedSources)) ∧
    ∃ band, build "half" misnamedScene [bareInput Float "half" 0] {} mixedSources =
        .ok ⟨"half", ⟨4, 2⟩, none, [band]⟩ ∧
      band.description.name = "half" ∧ band.mosaic.plan.tileSize = ⟨2, 1⟩ := by
  refine ⟨fun corners gridOffset => ?_, ?_, ?_⟩
  · obtain ⟨_, errors, _, _, _, _, moved⟩ := build_outcome "mixed" misnamedScene
      [bareInput Float "half" 0, bareInput Float "flat" 1, bareInput Float "vast" 2] {} mixedSources
    refine (moved _ corners gridOffset _ ?_).mpr ((errors _).mpr ⟨_, ?_, rfl⟩)
    · exact .cons ⟨⟨0, 0⟩, rfl⟩ (.cons ⟨⟨0, 0⟩, rfl⟩ (.cons ⟨⟨0, 0⟩, rfl⟩ .nil))
    · have earlier : ∀ other ∈ [bareInput Float "half" 0], ∀ cause,
          ¬ other.Refused misnamedScene mixedSources cause := by
        intro other hmem
        obtain rfl := List.mem_singleton.mp hmem
        exact not_refused_half
      exact .band rfl rfl rfl earlier (.noLevels rfl)
  · obtain ⟨_, _, _, _, _, placed, _⟩ := build_outcome "vast" misnamedScene [] {} mixedSources
    have stuck : ((bareInput Float "vast" 2).imageToModel misnamedScene mixedSources).inverse.isOk =
        false := by
      rw [imageToModel_bareInput (by decide) rfl]
      decide +kernel
    cases back : ((bareInput Float "vast" 2).imageToModel misnamedScene mixedSources).inverse with
    | error cause => exact ⟨cause, .singular (by decide) rfl back, placed _ cause back⟩
    | ok inverse =>
        rw [back] at stuck
        cases stuck
  · obtain ⟨_, _, _, built, _⟩ := build_outcome "half" misnamedScene
      [bareInput Float "half" 0] {} mixedSources
    have usable : ({} : Config).check = .ok () := rfl
    obtain ⟨band, made, _⟩ := build_single "half" usable rfl not_refused_half
    obtain ⟨_, _, _, _, _, _, bands⟩ := built _ made
    obtain ⟨_, _, half, _, listed⟩ := List.forall₂_cons_left_iff.mp bands
    cases listed
    have tiles : bestTileSize ⟨2, 1⟩ {} = .ok ⟨2, 1⟩ := rfl
    exact ⟨band, made, congrArg BandDescription.name half.description,
      Except.ok.inj (half.tiles.symm.trans tiles)⟩

end Mixed

end Product
end RasterMosaic
