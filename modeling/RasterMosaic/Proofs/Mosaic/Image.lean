import RasterMosaic.Proofs.Mosaic.Requests
import RasterMosaic.Proofs.Pyramid.Rounding
import RasterMosaic.Proofs.Source.Decimated
import RasterMosaic.Source.Listed

/-!
What a request for a level image answers. Pixels, errors and sizes are given by what the sources
answer in their turns, for every mosaic that can be met and whatever its sources do; a source
that has no answer at all is the only way to a fault.
-/

namespace RasterMosaic
namespace Mosaic

variable {K S : Type} {n : Nat} [LevelSource S]

section Image
variable {m : Mosaic K n} {level : Nat} {sources : Vector S n}

theorem fst_image_of_held (active : m.disposed = false)
    (inRange : level < m.plan.geometry.levelCount) {image : Raster Float32}
    (held : m.store.get? level = some image) : (m.image level sources).1 = .ok image := by
  rw [image_of_inRange active inRange, LevelStore.ensure_of_held held]

theorem fst_image_of_missing (valid : m.Valid) (active : m.disposed = false)
    (inRange : level < m.plan.geometry.levelCount) (missing : m.store.get? level = none) :
    (m.image level sources).1 = (m.plan.computeLevel level sources).1 := by
  rw [image_of_inRange active inRange]
  exact LevelStore.fst_ensure_of_missing (valid.levels ▸ inRange) missing

end Image

/-- The pixels of a level that is not held: each sample is that of the last tile that shows one
on its pixel, beyond the extent of the tiles on the nearest pixel within it. -/
theorem image_pixels [Scalar K] [DecidableLT K] {m : Mosaic K n} (reachable : Reachable S m)
    {level : Nat} {sources : Vector S n} (active : m.disposed = false)
    (inRange : level < m.plan.geometry.levelCount) (missing : m.store.get? level = none)
    (answered : ∀ turn ∈ turns level m.plan.placements sources,
      LevelSource.Answers turn.source level) :
    let tiles := m.plan.levelTiles level sources
    let size := m.plan.geometry.size.atLevel level
    ∃ extent : Size, extent.IsExtent tiles ∧
      (extent.isEmpty = true →
        (m.image level sources).1 =
          .ok (.filled size (m.plan.noData.getD Sample.notANumber))) ∧
      (extent.isEmpty = false → extent.FitsIn size →
        ∃ image, (m.image level sources).1 = .ok image ∧
          image.rows = size.height ∧ image.cols = size.width ∧
          ∀ r c hr hc,
            LastShown tiles m.plan.config.background m.plan.noData
              (min r (extent.height - 1)) (min c (extent.width - 1)) (image.get r c hr hc)) ∧
      (extent.isEmpty = false → ¬ extent.FitsIn size →
        (m.image level sources).1 =
          .error (.error (.compositeTooLarge level (.sized extent) (.sized size)))) := by
  intro tiles size
  rw [fst_image_of_missing reachable.valid active inRange missing,
    MosaicPlan.fst_computeLevel_of_answers m.plan answered]
  refine ⟨(overlayExtent tiles).size, isExtent_overlayExtent tiles, ?_, ?_, ?_⟩
  · intro empty
    rw [MosaicPlan.compose_of_empty m.plan level tiles empty]
    rfl
  · intro full fit
    obtain ⟨image, hcompose, hsize, hget⟩ :=
      MosaicPlan.compose_of_fit m.plan level tiles full fit
    refine ⟨image, ?_, congrArg Size.height hsize, congrArg Size.width hsize, ?_⟩
    · rw [hcompose]
      rfl
    · intro r c hr hc
      rw [hget]
      exact lastShown_overlaidSample ..
  · intro full hangs
    rw [MosaicPlan.compose_of_overhang m.plan level tiles full hangs]
    rfl

/-- Two sources over a scene of 5 by 4 pixels. The first is too large on its third level, the
second has none but its first. -/
def unevenSources : Vector ListedSource 2 :=
  #v[{ baseSize := ⟨3, 2⟩
       tileSize := ⟨2, 2⟩
       levelCount := 3
       noData := some (-1)
       answers := #[.ok (.filled ⟨3, 2⟩ 7), .ok (.filled ⟨2, 1⟩ 7), .ok (.filled ⟨3, 3⟩ 7)] },
     { baseSize := ⟨2, 1⟩
       tileSize := ⟨2, 2⟩
       levelCount := 1
       noData := none
       answers := #[.ok (.filled ⟨2, 1⟩ 9)] }]

def unevenScene : Mosaic Rat 2 :=
  fresh
    { placements := [⟨0, 0, 0⟩, ⟨1, 3, 3⟩]
      geometry := ⟨3, ⟨5, 4⟩, .identity, .identity⟩
      tileSize := ⟨2, 2⟩
      noData := some (Sample.narrow (-1))
      config := {} }

theorem create_unevenScene :
    create unevenSources [⟨0, 0, 0⟩, ⟨1, 3, 3⟩] ⟨5, 4⟩ ⟨2, 2⟩ 3 Affine.identity {} =
      .ok unevenScene :=
  create_eq_ok_iff.mpr
    ⟨_, _, _, rfl, rfl, rfl, LevelGeometry.create_eq_ok_iff.mpr
      ⟨by decide, rfl, _, Affine.inverse_identity, rfl⟩, rfl⟩

theorem reachable_unevenScene : Reachable ListedSource unevenScene :=
  .built (.create create_unevenScene)

theorem answers_listed (s : ListedSource) (level : Nat) : LevelSource.Answers s level := by
  intro fault hfault
  change (Except.mapError Failure.error (s.answers.getD level _)) = _ at hfault
  cases h : s.answers.getD level (.error (.noSuchLevel level s.levelCount)) with
  | ok image =>
      rw [h] at hfault
      cases hfault
  | error cause =>
      rw [h] at hfault
      cases hfault

theorem image_pixels_uneven :
    ∃ image, (unevenScene.image 1 unevenSources).1 = .ok image ∧ image.rows = 2 ∧
      image.cols = 3 ∧ ∀ r c hr hc,
        LastShown
          [⟨.filled ⟨2, 1⟩ 7, 0, 0, some (Sample.narrow (-1))⟩, ⟨.filled ⟨2, 1⟩ 0, 1, 1, none⟩]
          Sample.notANumber (some (Sample.narrow (-1))) (min r 1) (min c 2)
          (image.get r c hr hc) := by
  have missing : unevenScene.store.get? 1 = none := rfl
  have answered : ∀ turn ∈ turns 1 unevenScene.plan.placements unevenSources,
      LevelSource.Answers turn.source 1 := fun turn _ => answers_listed turn.source 1
  obtain ⟨extent, hextent, _, hfit, _⟩ :=
    image_pixels reachable_unevenScene rfl (by decide) missing answered
  obtain rfl : extent = ⟨3, 2⟩ := hextent.eq (isExtent_overlayExtent _)
  exact hfit rfl ⟨by decide, by decide⟩

theorem image_of_overhang {m : Mosaic K n} (valid : m.Valid) {level : Nat}
    {sources : Vector S n} (active : m.disposed = false)
    (inRange : level < m.plan.geometry.levelCount) (missing : m.store.get? level = none)
    (answered : ∀ turn ∈ turns level m.plan.placements sources,
      LevelSource.Answers turn.source level)
    {turn : Turn S n} (mem : turn ∈ turns level m.plan.placements sources)
    (hangs : turn.Overhangs m.plan level) :
    ∃ extent, (m.image level sources).1 =
      .error (.error (.compositeTooLarge level extent
        (.sized (m.plan.geometry.size.atLevel level)))) := by
  have large : ¬ (overlayExtent (m.plan.levelTiles level sources)).size.FitsIn
      (m.plan.geometry.size.atLevel level) := fun fit =>
    (MosaicPlan.fitsIn_level_iff m.plan level sources).mp fit turn mem hangs
  have full : (overlayExtent (m.plan.levelTiles level sources)).size.isEmpty = false := by
    rw [← Bool.not_eq_true]
    exact fun empty => large (fitsIn_of_isEmpty_extent empty _)
  rw [fst_image_of_missing valid active inRange missing,
    MosaicPlan.fst_computeLevel_of_answers m.plan answered,
    MosaicPlan.compose_of_overhang m.plan level _ full large]
  exact ⟨_, rfl⟩

theorem image_of_no_overhang {m : Mosaic K n} (valid : m.Valid) {level : Nat}
    {sources : Vector S n} (active : m.disposed = false)
    (inRange : level < m.plan.geometry.levelCount) (missing : m.store.get? level = none)
    (answered : ∀ turn ∈ turns level m.plan.placements sources,
      LevelSource.Answers turn.source level)
    (within : ∀ turn ∈ turns level m.plan.placements sources,
      ¬ turn.Overhangs m.plan level) :
    ∃ image, (m.image level sources).1 = .ok image ∧
      image.size = m.plan.geometry.size.atLevel level := by
  have fit := (MosaicPlan.fitsIn_level_iff m.plan level sources).mpr within
  have hcompose : ∃ image,
      m.plan.compose level (m.plan.levelTiles level sources) = .ok image := by
    cases empty : (overlayExtent (m.plan.levelTiles level sources)).size.isEmpty with
    | true => exact ⟨_, MosaicPlan.compose_of_empty m.plan level _ empty⟩
    | false =>
        obtain ⟨image, himage, _⟩ := MosaicPlan.compose_of_fit m.plan level _ empty fit
        exact ⟨image, himage⟩
  obtain ⟨image, himage⟩ := hcompose
  refine ⟨image, ?_, MosaicPlan.size_of_compose m.plan level _ himage⟩
  rw [fst_image_of_missing valid active inRange missing,
    MosaicPlan.fst_computeLevel_of_answers m.plan answered, himage]
  rfl

theorem cause_of_missing {m : Mosaic K n} (valid : m.Valid) {level : Nat}
    {sources : Vector S n} (active : m.disposed = false)
    (inRange : level < m.plan.geometry.levelCount) (missing : m.store.get? level = none)
    {cause : RasterError} (h : (m.image level sources).1 = .error (.error cause)) :
    ∃ extent, cause =
      .compositeTooLarge level extent (.sized (m.plan.geometry.size.atLevel level)) := by
  have answered : ∀ turn ∈ turns level m.plan.placements sources,
      LevelSource.Answers turn.source level := by
    intro turn hmem
    apply Classical.byContradiction
    intro faulty
    obtain ⟨fault, hfault⟩ := MosaicPlan.fst_computeLevel_of_fault m.plan hmem faulty
    rw [fst_image_of_missing valid active inRange missing, hfault] at h
    cases h
  by_cases within : ∀ turn ∈ turns level m.plan.placements sources, ¬ turn.Overhangs m.plan level
  · obtain ⟨image, himage, _⟩ :=
      image_of_no_overhang valid active inRange missing answered within
    cases himage.symm.trans h
  · simp only [Classical.not_forall, Classical.not_not] at within
    obtain ⟨turn, hmem, hangs⟩ := within
    obtain ⟨extent, herror⟩ :=
      image_of_overhang valid active inRange missing answered hmem hangs
    cases herror.symm.trans h
    exact ⟨extent, rfl⟩

/-- Errors of sources and of the border extension never come out. -/
theorem fst_image_cases {m : Mosaic K n} (valid : m.Valid) (level : Nat)
    (sources : Vector S n) {cause : RasterError}
    (h : (m.image level sources).1 = .error (.error cause)) :
    m.disposed = true ∧ cause = .disposed ∨
      m.plan.geometry.levelCount ≤ level ∧
        cause = .noSuchLevel level m.plan.geometry.levelCount ∨
      ∃ extent, cause = .compositeTooLarge level extent
        (.sized (m.plan.geometry.size.atLevel level)) := by
  cases disposed : m.disposed with
  | true =>
      rw [image_of_disposed disposed] at h
      cases h
      exact .inl ⟨rfl, rfl⟩
  | false =>
      by_cases inRange : level < m.plan.geometry.levelCount
      · cases missing : m.store.get? level with
        | some image =>
            rw [fst_image_of_held disposed inRange missing] at h
            cases h
        | none => exact .inr (.inr (cause_of_missing valid disposed inRange missing h))
      · rw [image_of_outside disposed (Nat.not_lt.mp inRange)] at h
        cases h
        exact .inr (.inl ⟨Nat.not_lt.mp inRange, rfl⟩)

/-- The whole contract of a request for a level image. It has three errors, each with its exact
condition, and otherwise an image of the exact size of the level; a source that faults is its
only fault. Nothing is painted outside the canvas. An image reaches over an edge where it does so
from its offset, halved and rounded down once for each level. -/
theorem image_contract [Scalar K] [DecidableLT K] {m : Mosaic K n} (reachable : Reachable S m)
    (level : Nat) (sources : Vector S n) :
    let rows := lengthAtLevel m.plan.geometry.size.height level
    let cols := lengthAtLevel m.plan.geometry.size.width level
    let asked := turns level m.plan.placements sources
    let tiles := m.plan.levelTiles level sources
    let canvas := overlay tiles m.plan.config.background m.plan.noData
    let answer := (m.image level sources).1
    (m.disposed = true → answer = .error (.error .disposed)) ∧
    (m.disposed = false → m.plan.geometry.levelCount ≤ level →
      answer = .error (.error (.noSuchLevel level m.plan.geometry.levelCount))) ∧
    (m.disposed = false → level < m.plan.geometry.levelCount →
      (∀ held, m.store.get? level = some held →
        answer = .ok held ∧ held.rows = rows ∧ held.cols = cols) ∧
      (m.store.get? level = none →
        ((∃ turn ∈ asked, ¬ LevelSource.Answers turn.source level) →
          ∃ fault, answer = .error (.fault fault)) ∧
        ((∀ turn ∈ asked, LevelSource.Answers turn.source level) →
          ((∃ extent, answer =
              .error (.error (.compositeTooLarge level extent (.sized ⟨cols, rows⟩)))) ↔
            ∃ turn ∈ asked, turn.Overhangs m.plan level) ∧
          ((∀ turn ∈ asked, ¬ turn.Overhangs m.plan level) →
            ∃ image, answer = .ok image ∧ image.rows = rows ∧ image.cols = cols)))) ∧
    (∀ cause, answer = .error (.error cause) →
      m.disposed = true ∧ cause = .disposed ∨
      m.plan.geometry.levelCount ≤ level ∧
        cause = .noSuchLevel level m.plan.geometry.levelCount ∨
      ∃ extent, cause = .compositeTooLarge level extent (.sized ⟨cols, rows⟩)) ∧
    (∀ tile ∈ tiles, tile.image.isEmpty = false →
      tile.x + tile.image.cols ≤ canvas.cols ∧ tile.y + tile.image.rows ≤ canvas.rows) ∧
    (∀ turn ∈ asked, turn.placement.x < 2 ^ wordBits → turn.placement.y < 2 ^ wordBits →
      (turn.Overhangs m.plan level ↔
        ∃ image, (LevelSource.fetch turn.source level).1 = .ok image ∧ image.isEmpty = false ∧
          (cols < turn.placement.x / 2 ^ level + image.cols ∨
            rows < turn.placement.y / 2 ^ level + image.rows))) := by
  intro rows cols asked tiles canvas answer
  have valid := reachable.valid
  refine ⟨fun disposed => ?_, fun active outside => ?_, fun active inRange => ⟨?_, ?_⟩, ?_, ?_,
    fun _ _ => Turn.overhangs_iff⟩
  · exact congrArg Prod.fst (image_of_disposed disposed)
  · exact congrArg Prod.fst (image_of_outside active outside)
  · intro held hheld
    have hsize := valid.held level held hheld
    exact ⟨fst_image_of_held active inRange hheld, congrArg Size.height hsize,
      congrArg Size.width hsize⟩
  · intro missing
    refine ⟨?_, fun answered => ⟨⟨?_, ?_⟩, ?_⟩⟩
    · rintro ⟨turn, hmem, faulty⟩
      obtain ⟨fault, hfault⟩ := MosaicPlan.fst_computeLevel_of_fault m.plan hmem faulty
      exact ⟨fault, (fst_image_of_missing valid active inRange missing).trans hfault⟩
    · rintro ⟨extent, herror⟩
      apply Classical.byContradiction
      intro none
      obtain ⟨image, himage, _⟩ := image_of_no_overhang valid active inRange missing answered
        fun turn hmem hangs => none ⟨turn, hmem, hangs⟩
      cases himage.symm.trans herror
    · rintro ⟨turn, hmem, hangs⟩
      exact image_of_overhang valid active inRange missing answered hmem hangs
    · intro within
      obtain ⟨image, himage, hsize⟩ :=
        image_of_no_overhang valid active inRange missing answered within
      exact ⟨image, himage, congrArg Size.height hsize, congrArg Size.width hsize⟩
  · intro cause h
    exact fst_image_cases valid level sources h
  · intro tile hmem full
    have hwithin := (isExtent_overlayExtent tiles).1 tile hmem full
    simpa only [canvas, rows_overlay, cols_overlay] using hwithin

theorem image_contract_uneven :
    (∃ image, (unevenScene.image 1 unevenSources).1 = .ok image ∧ image.rows = 2 ∧
      image.cols = 3) ∧
    (∃ extent, (unevenScene.image 2 unevenSources).1 =
      .error (.error (.compositeTooLarge 2 extent (.sized ⟨2, 1⟩)))) ∧
    (unevenScene.image 3 unevenSources).1 = .error (.error (.noSuchLevel 3 3)) ∧
    ((unevenScene.serve unevenSources .dispose).2.1.image 1 unevenSources).1 =
      .error (.error .disposed) := by
  refine ⟨?_, ?_, ?_, ?_⟩
  · obtain ⟨_, _, inRange, _⟩ := image_contract reachable_unevenScene 1 unevenSources
    refine (((inRange rfl (by decide)).2 rfl).2 fun turn _ => answers_listed turn.source 1).2 ?_
    rintro turn hmem ⟨image, hanswer, _, hedge⟩
    cases hmem with
    | head =>
        cases hanswer
        revert hedge
        decide
    | tail _ htail =>
        cases htail with
        | head => cases hanswer
        | tail _ hnone => cases hnone
  · obtain ⟨_, _, inRange, _⟩ := image_contract reachable_unevenScene 2 unevenSources
    refine (((inRange rfl (by decide)).2 rfl).2 fun turn _ => answers_listed turn.source 2).1.mpr ?_
    exact ⟨_, List.mem_cons_self, _, rfl, rfl, .inl (by decide)⟩
  · exact (image_contract reachable_unevenScene 3 unevenSources).2.1 rfl (by decide)
  · have disposed := reachable_unevenScene.serve unevenSources .dispose
    exact (image_contract disposed 1 unevenSources).1 rfl

/-- Components that lie within the scene, over sources that keep the sizes of their bases, lie
within every level of it: offsets are rounded down, lengths up, and the two never add up to a pixel
too many. Overlaps, failures and sources with fewer levels change nothing. -/
theorem image_of_fitting_placements [Scalar K] [DecidableLT K] :
    (∀ offset length level, offsetAtLevel offset level + lengthAtLevel length level ≤
      lengthAtLevel (offset + length) level) ∧
    (∀ offset < 2 ^ wordBits, ∀ level, offsetAtLevel offset level = offset / 2 ^ level) ∧
    (∀ (base : Raster Float32) (tileSize : Size) (levelCount : Nat) (noData : Option Float)
      (s : DecimatedPyramid),
      DecimatedPyramid.create base tileSize levelCount noData = .ok s →
      ∀ level < wordBits, LevelSource.KeepsSize s level) ∧
    ∀ (m : Mosaic K n), Reachable S m → m.disposed = false →
      ∀ level < m.plan.geometry.levelCount, ∀ sources : Vector S n,
      (∀ p ∈ m.plan.placements,
        p.x + (LevelSource.baseSize (sources.get p.source)).width ≤ m.plan.geometry.size.width ∧
        p.y + (LevelSource.baseSize (sources.get p.source)).height ≤ m.plan.geometry.size.height) →
      (∀ p ∈ m.plan.placements, LevelSource.KeepsSize (sources.get p.source) level) →
      ∃ image, (m.image level sources).1 = .ok image ∧
        image.rows = lengthAtLevel m.plan.geometry.size.height level ∧
        image.cols = lengthAtLevel m.plan.geometry.size.width level := by
  refine ⟨offsetAtLevel_add_lengthAtLevel_le, fun _ => offsetAtLevel_eq_div, ?_, ?_⟩
  · intro base tileSize levelCount noData s built level hl
    exact DecimatedPyramid.keepsSize_of_create built hl
  intro m reachable active level inRange sources fitting keeps
  have valid := reachable.valid
  have exact : ∃ image, (m.image level sources).1 = .ok image ∧
      image.size = m.plan.geometry.size.atLevel level := by
    cases missing : m.store.get? level with
    | some held =>
        exact ⟨held, fst_image_of_held active inRange missing, valid.held level held missing⟩
    | none =>
        apply image_of_no_overhang valid active inRange missing
        · intro turn hmem
          obtain ⟨hplacement, later⟩ := later_of_mem_turns hmem
          exact (keeps turn.placement hplacement turn.source later).1
        · rintro turn hmem ⟨image, hanswer, _, hedge⟩
          -- A shared source may have had earlier turns; it keeps its sizes through them.
          obtain ⟨hplacement, later⟩ := later_of_mem_turns hmem
          have hsize := (keeps turn.placement hplacement turn.source later).2 image hanswer
          obtain ⟨hx, hy⟩ := fitting turn.placement hplacement
          have hwidth := level_end_le hx level
          have hheight := level_end_le hy level
          have hcols : image.cols = _ := congrArg Size.width hsize
          have hrows : image.rows = _ := congrArg Size.height hsize
          simp only [Size.atLevel] at hcols hrows
          omega
  obtain ⟨image, himage, hsize⟩ := exact
  exact ⟨image, himage, congrArg Size.height hsize, congrArg Size.width hsize⟩

/-- One pyramid of two levels, placed twice in a scene of four. -/
def pyramid : DecimatedPyramid :=
  ⟨.filled ⟨3, 2⟩ 7, ⟨2, 2⟩, 2, none, (LevelStore.empty 2).hold 0 (.filled ⟨3, 2⟩ 7), 0⟩

theorem create_pyramid :
    DecimatedPyramid.create (.filled ⟨3, 2⟩ 7) ⟨2, 2⟩ 2 none = .ok pyramid := rfl

theorem get_pyramid (k : Fin 1) : #v[pyramid].get k = pyramid := by
  obtain rfl : k = 0 := Subsingleton.elim k 0
  rfl

def sharedScene : Mosaic Rat 1 :=
  fresh
    { placements := [⟨0, 0, 0⟩, ⟨0, 2, 2⟩]
      geometry := ⟨4, ⟨5, 4⟩, .identity, .identity⟩
      tileSize := ⟨2, 2⟩
      noData := none
      config := {} }

theorem create_sharedScene :
    create #v[pyramid] [⟨0, 0, 0⟩, ⟨0, 2, 2⟩] ⟨5, 4⟩ ⟨2, 2⟩ 4 Affine.identity {} =
      .ok sharedScene :=
  create_eq_ok_iff.mpr
    ⟨_, _, _, rfl, rfl, rfl, LevelGeometry.create_eq_ok_iff.mpr
      ⟨by decide, rfl, _, Affine.inverse_identity, rfl⟩, rfl⟩

theorem built_sharedScene : Built DecimatedPyramid sharedScene := .create create_sharedScene

theorem image_of_fitting_placements_shared :
    ∀ level < 4, ∃ image, (sharedScene.image level #v[pyramid]).1 = .ok image ∧
      image.rows = lengthAtLevel 4 level ∧ image.cols = lengthAtLevel 5 level := by
  obtain ⟨_, _, keeps, fitting⟩ :=
    image_of_fitting_placements (K := Rat) (S := DecimatedPyramid) (n := 1)
  intro level hl
  apply fitting sharedScene (.built built_sharedScene) rfl level hl #v[pyramid]
  · decide
  · intro p _
    rw [get_pyramid]
    exact keeps _ _ _ _ pyramid create_pyramid level (by simp only [wordBits]; omega)

end Mosaic
end RasterMosaic
