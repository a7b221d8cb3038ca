import RasterMosaic.Proofs.Mosaic.Single
import RasterMosaic.Proofs.Product.Provenance
import RasterMosaic.Proofs.Source.Listed

/-!
Images of bands in physical units. A sample that holds data to its source and to the band is
scaled. One that holds none has given way to the background before anything is scaled, so the
background decides what is shown for it: NaN where it holds no data to the band itself, and else
the background scaled like any sample.
-/

namespace RasterMosaic

/-- A sample in physical units, worked out in the wide format. -/
def scaled (factor offset : Float) (raw : Float32) : Float32 :=
  Sample.narrow (Sample.widen raw * factor + offset)

/-- No data to the source of a sample, or to the whole it is part of. -/
def Hidden (own whole : Option Float32) (s : Float32) : Prop :=
  Sample.isNaN s = true ∨ Marks own s ∨ Marks whole s

/-- What is shown in physical units for a sample of a source. -/
inductive ShownFor (scale : Float32 → Float32) (own whole : Option Float32)
    (background s : Float32) : Float32 → Prop
  | data (visible : ¬ Hidden own whole s) : ShownFor scale own whole background s (scale s)
  | noData (hidden : Hidden own whole s) (blank : Hidden none whole background) :
      ShownFor scale own whole background s Sample.notANumber
  | background (hidden : Hidden own whole s) (solid : ¬ Hidden none whole background) :
      ShownFor scale own whole background s (scale background)

theorem lacksData_or_iff {own whole : Option Float32} {s : Float32} :
    (lacksData s own || lacksData s whole) = true ↔ Hidden own whole s := by
  rw [Bool.or_eq_true, lacksData_eq_true_iff, lacksData_eq_true_iff, Hidden]
  tauto

theorem lacksData_iff {whole : Option Float32} {s : Float32} :
    lacksData s whole = true ↔ Hidden none whole s := by
  simp [lacksData_eq_true_iff, Hidden, Marks]

/-- A sample is shown in one way only. -/
theorem ShownFor.unique {scale : Float32 → Float32} {own whole : Option Float32}
    {background s first second : Float32} (h : ShownFor scale own whole background s first)
    (h' : ShownFor scale own whole background s second) : first = second := by
  cases h with
  | data visible =>
      cases h' with
      | data => rfl
      | noData hidden | background hidden => exact absurd hidden visible
  | noData hidden blank =>
      cases h' with
      | data visible => exact absurd hidden visible
      | noData => rfl
      | background _ solid => exact absurd blank solid
  | background hidden solid =>
      cases h' with
      | data visible => exact absurd hidden visible
      | noData _ blank => exact absurd blank solid
      | background => rfl

theorem shownFor_physicalSample (factor offset : Float) (own whole : Option Float32)
    (background s : Float32) :
    ShownFor (scaled factor offset) own whole background s
      (physicalSample factor offset whole
        (if lacksData s own || lacksData s whole then background else s)) := by
  by_cases hidden : (lacksData s own || lacksData s whole) = true
  · rw [if_pos hidden, physicalSample]
    rw [lacksData_or_iff] at hidden
    split
    · exact .noData hidden (lacksData_iff.mp ‹_›)
    · exact .background hidden (mt lacksData_iff.mpr ‹_›)
  · rw [if_neg hidden, physicalSample]
    have seen : ¬ lacksData s whole = true := fun lacks => hidden (by simp [lacks])
    rw [if_neg seen]
    exact .data (mt lacksData_or_iff.mpr hidden)

/-- An image in physical units of which every pixel shows the nearest sample of a raster. -/
structure ShowsScaled (scale : Float32 → Float32) (own whole : Option Float32)
    (background : Float32) (size : Size) (given image : Raster Float32) : Prop where
  size : image.size = size
  nearest : ∀ r c hr hc, ∃ s,
    given.get? (min r (given.rows - 1)) (min c (given.cols - 1)) = some s ∧
      ShownFor scale own whole background s (image.get r c hr hc)

theorem ShowsScaled.get?_eq {factor offset : Float} {own whole : Option Float32}
    {background : Float32} {size : Size} {given image : Raster Float32}
    (h : ShowsScaled (scaled factor offset) own whole background size given image) {r c : Nat}
    (hr : r < size.height) (hc : c < size.width) {s : Float32}
    (sample : given.get? (min r (given.rows - 1)) (min c (given.cols - 1)) = some s) :
    image.get? r c = some (physicalSample factor offset whole
      (if lacksData s own || lacksData s whole then background else s)) := by
  obtain rfl := h.size
  obtain ⟨_, same, shown⟩ := h.nearest r c hr hc
  obtain rfl := Option.some.inj (sample.symm.trans same)
  rw [Raster.get?_eq_some_get image hr hc, shown.unique (shownFor_physicalSample ..)]

variable {K S : Type} {n : Nat} [LevelSource S]

theorem MosaicPlan.ShowsNearest.scaled {plan : MosaicPlan K n} {level : Nat}
    {given raw : Raster Float32} {own : Option Float32}
    (h : plan.ShowsNearest level given own raw) (factor offset : Float) :
    ShowsScaled (RasterMosaic.scaled factor offset) own plan.noData plan.config.background
      (plan.geometry.size.atLevel level) given
      (raw.map (physicalSample factor offset plan.noData)) where
  size := h.size
  nearest r c hr hc := by
    obtain ⟨s, sample, shown⟩ := h.nearest r c hr hc
    refine ⟨s, sample, ?_⟩
    have physical := Raster.get_map (physicalSample factor offset plan.noData) raw r c hr hc
    rw [physical, shown]
    exact shownFor_physicalSample ..

theorem Band.fst_physicalImage [Scalar K] (band : Band K n) (level : Nat)
    (sources : Vector S n) :
    (band.physicalImage level sources).1 =
      (band.mosaic.image level sources).1.map (·.map band.physical) := rfl

/-- What a band shows in physical units where its source gives a raster. The source tells its
no-data value after the fetch, and the product has asked for it when it was built. -/
def BandInput.ShowsPhysical (input : BandInput K n) (config : Config) (start past : Vector S n)
    (level : Nat) : Size → Raster Float32 → Raster Float32 → Prop :=
  ShowsScaled (scaled input.description.scalingFactor input.description.scalingOffset)
    ((LevelSource.noData (LevelSource.fetch (past.get input.source) level).2).map Sample.narrow)
    ((input.description.noData <|> LevelSource.noData (start.get input.source)).map
      Sample.narrow)
    config.background

/-- What a band that has been built and has served requests answers in physical units. -/
theorem Band.Reached.physicalImage [CrsRegistry] [Scalar K] [DecidableLT K]
    {scene : SceneReference K} {config : Config} {start sources : Vector S n}
    {input : BandInput K n} {first band : Band K n} (usable : config.check = .ok ())
    (made : input.Makes scene config start first) (reached : first.Reached start band sources)
    (active : band.mosaic.disposed = false) {level : Nat}
    (inRange : level < band.mosaic.plan.geometry.levelCount) :
    ∃ past, AllLater start past ∧ (band.mosaic.store.get? level = none → past = sources) ∧
      ∀ given, (LevelSource.fetch (past.get input.source) level).1 = .ok given →
        given.isEmpty = false → given.size.FitsIn (band.size.atLevel level) →
        ∃ image, (band.physicalImage level sources).1 = .ok image ∧
          input.ShowsPhysical config start past level (band.size.atLevel level) given image := by
  -- Requests change neither the description nor the plan, so samples are scaled as at first.
  have plan : band.mosaic.plan = first.mosaic.plan := reached.mosaic.plan_eq
  have noData := made.noData
  rw [input.noData_described] at noData
  have physical : band.physical = physicalSample input.description.scalingFactor
      input.description.scalingOffset first.mosaic.plan.noData := by
    have described := (congrArg Band.description reached.same).trans made.description
    funext raw
    rw [Band.physical, described, plan, input.scalingFactor_described,
      input.scalingOffset_described]
  rw [plan] at inRange
  obtain ⟨past, later, now, computed⟩ :=
    reached.mosaic.origin (made.built usable) active inRange
  refine ⟨past, later, now, fun given fetched nonempty fits => ?_⟩
  rw [Band.size, plan] at fits ⊢
  obtain ⟨raw, image, shows⟩ :=
    MosaicPlan.fst_computeLevel_of_given made.placements fetched nonempty fits
  have shows := shows.scaled input.description.scalingFactor input.description.scalingOffset
  refine ⟨raw.map band.physical, ?_, ?_⟩
  · rw [Band.fst_physicalImage, computed, image]
    rfl
  · rwa [BandInput.ShowsPhysical, physical, ← noData, ← made.config]

namespace Product

theorem fst_serve_physical [Scalar K] {p : Product K n} {index : Nat} {band : Band K n}
    (found : p.bands[index]? = some band) (level : Nat) (sources : Vector S n) :
    (p.serve sources (.physical index level)).1 =
      some (.raster (band.physicalImage level sources).1) := by
  simp only [serve, found]

/-- Whatever was requested before, a sample that holds data is scaled, and one that holds none
shows as NaN, or as the scaled background where that holds data to the band. -/
theorem physical_image_samples [CrsRegistry] [Scalar K] [DecidableLT K] {name : String}
    {scene : SceneReference K} {inputs : List (BandInput K n)} {config : Config}
    {start sources : Vector S n} {p now : Product K n}
    (built : build name scene inputs config start = .ok p)
    (reached : Reached p start now sources) {index : Nat} {band : Band K n}
    (found : now.bands[index]? = some band) (active : band.mosaic.disposed = false)
    {level : Nat} (inRange : level < band.mosaic.plan.geometry.levelCount) :
    ∃ input past, inputs[index]? = some input ∧ AllLater start past ∧
      (band.mosaic.store.get? level = none → past = sources) ∧
      ∀ given, (LevelSource.fetch (past.get input.source) level).1 = .ok given →
        given.isEmpty = false → given.size.FitsIn (band.size.atLevel level) →
        ∃ image, (now.serve sources (.physical index level)).1 = some (.raster (.ok image)) ∧
          input.ShowsPhysical config start past level (band.size.atLevel level) given image := by
  have whole := isBuiltFrom_of_build built
  obtain ⟨first, there, became⟩ := reached.bands index band found
  obtain ⟨input, member, made⟩ := getElem?_of_forall₂ whole.bands.flip there
  obtain ⟨past, later, last, shows⟩ :=
    became.physicalImage whole.usable made active inRange
  refine ⟨input, past, member, later, last, fun given fetched nonempty fits => ?_⟩
  obtain ⟨image, answered, shown⟩ := shows given fetched nonempty fits
  refine ⟨image, ?_, shown⟩
  rw [fst_serve_physical found, answered]

section Pair

/-- A sample without data and one with. -/
def pairRaster : Raster Float32 := .ofFn 1 2 fun _ c => if c.val = 0 then 0 else 3

def pairSource : ListedSource where
  baseSize := ⟨2, 1⟩
  tileSize := ⟨2, 1⟩
  levelCount := 1
  noData := none
  answers := #[.ok pairRaster]

def pairInput : BandInput Rat 1 where
  description :=
    { bareDescription Rat "pair" with scalingFactor := 2, scalingOffset := 1, noData := some 0 }
  source := ⟨0, Nat.one_pos⟩

def pairScene : SceneReference Rat where
  size := ⟨2, 1⟩
  systemCode := none
  anchor := none
  corners := none
  gridOffset := ⟨0, 0⟩

theorem build_pair [CrsRegistry] (config : Config) (usable : config.check = .ok ()) : ∃ band,
    build "pair" pairScene [pairInput] config #v[pairSource] =
        .ok ⟨"pair", ⟨2, 1⟩, none, [band]⟩ ∧
      pairInput.Makes pairScene config #v[pairSource] band := by
  have unmoved : pairInput.imageToModel pairScene #v[pairSource] = .identity :=
    (BandReference.transform_of_alike rfl (.inl rfl)).trans
      (SceneReference.imageToModel_of_loose rfl)
  refine build_single "pair" usable rfl fun _ =>
    BandInput.not_refused_of_back (by decide) rfl ?_
  rw [unmoved]
  decide +kernel

theorem shape_pair [CrsRegistry] {config : Config} {band : Band Rat 1}
    (made : pairInput.Makes pairScene config #v[pairSource] band) :
    0 < band.mosaic.plan.geometry.levelCount ∧ band.size.atLevel 0 = ⟨2, 1⟩ := by
  obtain ⟨_, _, _, _, same⟩ := LevelGeometry.create_eq_ok_iff.mp made.geometry
  rw [Band.size, same]
  exact ⟨Nat.one_pos, rfl⟩

theorem get?_pair {config : Config} {past : Vector ListedSource 1} {image : Raster Float32}
    (later : AllLater #v[pairSource] past)
    (shown : pairInput.ShowsPhysical config #v[pairSource] past 0 ⟨2, 1⟩ pairRaster image) :
    image.get? 0 0 = some (physicalSample 2 1 (some (Sample.narrow 0)) config.background) ∧
      image.get? 0 1 = some 7 := by
  obtain ⟨_, _, same⟩ := ListedSource.eq_of_later (later 0)
  have unmarked : LevelSource.noData (LevelSource.fetch (past.get pairInput.source) 0).2 = none :=
    congrArg ListedSource.noData same
  rw [BandInput.ShowsPhysical, unmarked] at shown
  have hidden : pairRaster.get? 0 0 = some 0 := by decide +kernel
  have data : pairRaster.get? 0 1 = some 3 := by decide +kernel
  constructor
  · rw [shown.get?_eq (by decide) (by decide) hidden, if_pos (by decide +kernel)]
    rfl
  · rw [shown.get?_eq (by decide) (by decide) data, if_neg (by decide +kernel)]
    exact congrArg some (by decide +kernel)

/-- Without a background, the sample without data shows as NaN and the other as 7, also after the
product has been reset. -/
theorem physical_image_samples_pair : ∃ p image,
    build "pair" pairScene [pairInput] {} #v[pairSource] = .ok p ∧
    (p.serveAll #v[pairSource] [.reset, .physical 0 0]).1 =
      [some .done, some (.raster (.ok image))] ∧
    image.get? 0 0 = some Sample.notANumber ∧ image.get? 0 1 = some 7 := by
  obtain ⟨band, built, made⟩ := build_pair {} rfl
  obtain ⟨inRange, shape⟩ := shape_pair made
  have active : band.mosaic.disposed = false := congrArg Mosaic.disposed made.fresh
  obtain ⟨input, past, member, later, _, shows⟩ :=
    physical_image_samples built (.serve .start .reset) (rfl : _[0]? = _) active inRange
  cases member
  have fetched : (LevelSource.fetch (past.get 0) 0).1 = .ok pairRaster :=
    ListedSource.fetch_of_later rfl (later 0)
  change ∀ given, _ → _ → given.size.FitsIn (band.size.atLevel 0) →
    ∃ image, _ ∧ pairInput.ShowsPhysical _ _ _ _ (band.size.atLevel 0) given image at shows
  rw [shape] at shows
  obtain ⟨image, answered, shown⟩ := shows pairRaster fetched rfl ⟨by decide, by decide⟩
  obtain ⟨hidden, data⟩ := get?_pair later shown
  refine ⟨_, image, built, ?_, hidden, data⟩
  exact congrArg (fun reply => [some Reply.done, reply]) answered

/-- Over a background of 5 the sample without data shows as 11, which is the background scaled. -/
theorem background_scaled_for_no_data : ∃ p image,
    build "pair" pairScene [pairInput] { backgroundValue := some 5 } #v[pairSource] = .ok p ∧
    (p.serve #v[pairSource] (.physical 0 0)).1 = some (.raster (.ok image)) ∧
    pairRaster.get? 0 0 = some 0 ∧
    Hidden none (pairInput.description.noData.map Sample.narrow) 0 ∧
    image.get? 0 0 = some 11 ∧ Sample.isNaN (11 : Float32) = false := by
  obtain ⟨band, built, made⟩ := build_pair { backgroundValue := some 5 } rfl
  obtain ⟨inRange, shape⟩ := shape_pair made
  have active : band.mosaic.disposed = false := congrArg Mosaic.disposed made.fresh
  have started : band.Reached #v[pairSource] band #v[pairSource] := ⟨rfl, .start⟩
  obtain ⟨past, later, _, shows⟩ := started.physicalImage rfl made active inRange
  have fetched : (LevelSource.fetch (past.get 0) 0).1 = .ok pairRaster :=
    ListedSource.fetch_of_later rfl (later 0)
  rw [shape] at shows
  obtain ⟨image, answered, shown⟩ := shows pairRaster fetched rfl ⟨by decide, by decide⟩
  obtain ⟨hidden, _⟩ := get?_pair later shown
  refine ⟨_, image, built, ?_, by decide +kernel, lacksData_iff.mp (by decide +kernel), ?_,
    by decide +kernel⟩
  · rw [fst_serve_physical rfl, answered]
  · rw [hidden]
    exact congrArg some (by decide +kernel)

end Pair

end Product
end RasterMosaic
