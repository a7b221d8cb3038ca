import RasterMosaic.Proofs.Mosaic.Provenance
import RasterMosaic.Proofs.Mosaic.Single
import RasterMosaic.Proofs.Source.Listed

/-!
Levels that cannot be decoded. A mosaic of one source answers such a level with one sample
throughout: the fill value, or the background where the no-data value of the mosaic equals the
fill value and so hides the filler.
-/

namespace RasterMosaic

theorem isNaN_of_isFinite {x : Float32} (finite : x.isFinite = true) :
    Sample.isNaN x = false := by
  change x.toModel.unpack.isFinite = true at finite
  change x.toModel.unpack.isNaN = false
  cases h : x.toModel.unpack with
  | notANumber =>
      rw [h] at finite
      cases finite
  | infinity _ | zero _ | finite _ _ _ _ => rfl

theorem Config.isNaN_fillValue {c : Config} (usable : c.check = .ok ()) :
    Sample.isNaN c.fillValue = false := by
  cases finite : c.fillValue.isFinite with
  | true => exact isNaN_of_isFinite finite
  | false =>
      simp only [check, finite, Bool.not_false, if_true] at usable
      repeat' split at usable
      all_goals cases usable

variable {K S : Type} {n : Nat} [LevelSource S]

namespace MosaicPlan

/-- A level image of the one sample that a failure leaves. -/
structure ShowsFiller (plan : MosaicPlan K n) (level : Nat) (image : Raster Float32) : Prop where
  size : image.size = plan.geometry.size.atLevel level
  filled : ¬ Marks plan.noData plan.config.fillValue →
    ∀ r c hr hc, image.get r c hr hc = plan.config.fillValue
  hidden : Marks plan.noData plan.config.fillValue →
    ∀ r c hr hc, image.get r c hr hc = plan.config.background

section Single
variable {plan : MosaicPlan K n} (sound : plan.Sound) {k : Fin n}
  (single : plan.placements = [⟨k, 0, 0⟩]) {level : Nat} {sources : Vector S n}
  (failed : LevelSource.Fails (sources.get k) level)

include sound single failed

/-- The image of the level when it is computed. -/
theorem fst_computeLevel_of_failed :
    ∃ image, (plan.computeLevel level sources).1 = .ok image ∧ plan.ShowsFiller level image := by
  obtain ⟨htileWidth, htileHeight⟩ := (Size.isEmpty_eq_false_iff _).mp sound.tiled
  obtain ⟨hwidth, hheight⟩ := (Size.isEmpty_eq_false_iff _).mp sound.scene
  have hcols := lengthAtLevel_pos hwidth level
  have hrows := lengthAtLevel_pos hheight level
  let size : Size :=
    ⟨min plan.tileSize.width (lengthAtLevel plan.geometry.size.width level),
      min plan.tileSize.height (lengthAtLevel plan.geometry.size.height level)⟩
  have full : 0 < size.height ∧ 0 < size.width :=
    ⟨Nat.lt_min.mpr ⟨htileHeight, hrows⟩, Nat.lt_min.mpr ⟨htileWidth, hcols⟩⟩
  have nonempty : (Raster.filled size plan.config.fillValue).isEmpty = false :=
    Raster.isEmpty_eq_false_iff.mpr full
  have tile : Turn.tile? plan level ⟨⟨k, 0, 0⟩, sources.get k⟩ =
      some ⟨.filled size plan.config.fillValue, 0, 0, none⟩ := by
    obtain ⟨cause, failed⟩ := failed
    cases fetched : LevelSource.fetch (sources.get k) level with
    | mk answer source =>
        rw [fetched] at failed
        cases failed
        simp only [Turn.tile?, fetched, offsetAtLevel_origin, Nat.sub_zero]
        exact if_neg (by simp only [size] at full; omega)
  obtain ⟨image, computed, shown, nearest⟩ := fst_computeLevel_single single failed.answers tile
    nonempty ⟨Nat.min_le_right _ _, Nat.min_le_right _ _⟩
  have number := Config.isNaN_fillValue sound.usable
  have own : lacksData plan.config.fillValue none = false := by simp [lacksData, number]
  -- Where the filler is smaller than the level, its border repeats the same sample.
  have sample : ∀ r c hr hc, image.get r c hr hc =
      if lacksData plan.config.fillValue plan.noData then plan.config.background
      else plan.config.fillValue := by
    intro r c hr hc
    obtain ⟨s, held, shows⟩ := nearest r c hr hc
    rw [shows, Raster.eq_of_get?_filled held, own, Bool.false_or]
  refine ⟨image, computed, shown, fun visible r c hr hc => ?_, fun hidden r c hr hc => ?_⟩
  · rw [sample, lacksData_eq_false_iff.mpr ⟨number, visible⟩]
    rfl
  · rw [sample, if_pos]
    rw [← Bool.not_eq_false, lacksData_eq_false_iff]
    exact fun shown => shown.2 hidden

end Single
end MosaicPlan

namespace Mosaic

theorem image_of_failed {m : Mosaic K n} (levels : m.store.levelCount = m.plan.geometry.levelCount)
    (sound : m.plan.Sound) {k : Fin n} (single : m.plan.placements = [⟨k, 0, 0⟩])
    (active : m.disposed = false) {level : Nat} (inRange : level < m.plan.geometry.levelCount)
    (missing : m.store.get? level = none) {sources : Vector S n}
    (failed : LevelSource.Fails (sources.get k) level) :
    ∃ image, (m.image level sources).1 = .ok image ∧ m.plan.ShowsFiller level image := by
  rw [image_of_inRange active inRange, LevelStore.fst_ensure_of_missing (levels ▸ inRange) missing]
  exact MosaicPlan.fst_computeLevel_of_failed sound single failed

/-- A mosaic of one source answers a level that the source fails for with the fill value in every
pixel, or with the background where its no-data value equals the fill value. It does so at any
time when the level is not held, and over a source that never answers the level at every time. -/
theorem failed_level_filled [Scalar K] [DecidableLT K] {m now : Mosaic K n} (built : Built S m)
    {k : Fin n} (single : m.plan.placements = [⟨k, 0, 0⟩]) {level : Nat}
    (inRange : level < m.plan.geometry.levelCount) {start sources : Vector S n}
    (reached : Reached m start now sources) (active : now.disposed = false) :
    (now.store.get? level = none → LevelSource.Fails (sources.get k) level →
      ∃ image, (now.image level sources).1 = .ok image ∧ m.plan.ShowsFiller level image) ∧
    ((∀ s, LevelSource.Later (start.get k) s → LevelSource.Fails s level) →
      ∃ image, (now.image level sources).1 = .ok image ∧ m.plan.ShowsFiller level image) := by
  constructor
  · intro missing failed
    rw [built.eq_fresh] at reached
    obtain ⟨same, levels, _, _⟩ := reached.traced
    rw [← same] at inRange levels single ⊢
    exact image_of_failed levels (same ▸ built.sound) single active inRange missing failed
  · intro failing
    obtain ⟨past, later, computed⟩ := reached.fst_image built active inRange
    rw [computed]
    exact MosaicPlan.fst_computeLevel_of_failed built.sound single (failing _ (later k))

/-- A source of two levels that cannot decode the second. -/
def brokenSource : ListedSource where
  baseSize := ⟨5, 3⟩
  tileSize := ⟨2, 2⟩
  levelCount := 2
  noData := none
  answers := #[.ok (.filled ⟨5, 3⟩ 7), .error (.undecodable "level 1")]

def brokenScene : Mosaic Rat 1 :=
  fresh
    { placements := [⟨⟨0, Nat.one_pos⟩, 0, 0⟩]
      geometry := ⟨2, ⟨5, 3⟩, .identity, .identity⟩
      tileSize := ⟨2, 2⟩
      noData := none
      config := { backgroundValue := some 5 } }

theorem create_brokenScene :
    create #v[brokenSource] [⟨0, 0, 0⟩] ⟨5, 3⟩ ⟨2, 2⟩ 2 Affine.identity
      { backgroundValue := some 5 } = .ok brokenScene :=
  create_eq_ok_iff.mpr
    ⟨_, _, _, rfl, rfl, rfl, LevelGeometry.create_eq_ok_iff.mpr
      ⟨by decide, rfl, _, Affine.inverse_identity, rfl⟩, rfl⟩

theorem fails_of_later_broken (s : ListedSource)
    (later : LevelSource.Later (#v[brokenSource].get (0 : Fin 1)) s) :
    LevelSource.Fails s 1 := by
  obtain ⟨_, _, rfl⟩ := ListedSource.eq_of_later later
  exact ⟨.undecodable "level 1", rfl⟩

/-- The no-data value of this scene is its fill value. -/
def hiddenScene : Mosaic Rat 1 := brokenScene.withNoData (some 0)

theorem built_hiddenScene : Built ListedSource hiddenScene :=
  .withNoData (.create create_brokenScene) (some 0)

theorem marks_hiddenScene : Marks hiddenScene.plan.noData hiddenScene.plan.config.fillValue :=
  ⟨Sample.narrow 0, rfl, by decide +kernel, by decide +kernel⟩

theorem failed_level_filled_broken :
    (let (_, m, sources) := brokenScene.serve #v[brokenSource] (.image 1)
      let (_, m, sources) := m.serve sources .reset
      ∃ image, (m.image 1 sources).1 = .ok image ∧ image.rows = 2 ∧ image.cols = 3 ∧
        ∀ r c hr hc, image.get r c hr hc = 0) ∧
    ∃ image, (hiddenScene.image 1 #v[brokenSource]).1 = .ok image ∧
      ∀ r c hr hc, image.get r c hr hc = 5 := by
  constructor
  · have first : Reached brokenScene #v[brokenSource] _ _ := .serve .start (.image 1)
    obtain ⟨_, always⟩ := failed_level_filled (.create create_brokenScene) rfl
      (by decide : 1 < 2) (first.serve .reset) rfl
    obtain ⟨image, answer, shows⟩ := always fails_of_later_broken
    refine ⟨image, answer, congrArg Size.height shows.size, congrArg Size.width shows.size, ?_⟩
    exact shows.filled nofun
  · have first : Reached hiddenScene #v[brokenSource] _ _ := .start
    obtain ⟨now, _⟩ := failed_level_filled built_hiddenScene rfl (by decide : 1 < 2) first rfl
    obtain ⟨image, answer, shows⟩ := now rfl (fails_of_later_broken _ .refl)
    exact ⟨image, answer, shows.hidden marks_hiddenScene⟩

/-- With the fill value as its no-data value, a mosaic answers a level its source fails for, and
no pixel of it is the fill value. -/
theorem filler_hidden_by_noData :
    (Built ListedSource hiddenScene ∧ hiddenScene.plan.placements = [⟨0, 0, 0⟩] ∧
      LevelSource.Fails brokenSource 1) ∧
    ∃ image, (hiddenScene.image 1 #v[brokenSource]).1 = .ok image ∧
      image.rows = 2 ∧ image.cols = 3 ∧
      ∀ r c hr hc, image.get r c hr hc ≠ hiddenScene.plan.config.fillValue := by
  refine ⟨⟨built_hiddenScene, rfl, fails_of_later_broken _ .refl⟩, ?_⟩
  obtain ⟨image, answer, shows⟩ := image_of_failed rfl built_hiddenScene.sound rfl rfl
    (by decide : 1 < 2) rfl (fails_of_later_broken _ .refl)
  refine ⟨image, answer, congrArg Size.height shows.size, congrArg Size.width shows.size, ?_⟩
  intro r c hr hc
  rw [shows.hidden marks_hiddenScene]
  have distinct : (5 : Float32) ≠ 0 := by decide +kernel
  exact distinct

end Mosaic
end RasterMosaic
