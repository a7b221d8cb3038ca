import RasterMosaic.Mosaic.Basic
import RasterMosaic.Proofs.Pyramid.LevelGeometry

/-!
Mosaics as they are built. A mosaic is built exactly when something is placed, the edges of its
tiles and of its size are not zero, its settings are usable and its transform can be inverted;
it then holds nothing yet.
-/

namespace RasterMosaic

/-- What building makes sure of in a plan. -/
structure MosaicPlan.Sound {K : Type} {n : Nat} (plan : MosaicPlan K n) : Prop where
  tiled : plan.tileSize.isEmpty = false
  usable : plan.config.check = .ok ()
  levels : 0 < plan.geometry.levelCount
  scene : plan.geometry.size.isEmpty = false

namespace Mosaic

variable {K S : Type} {n : Nat} [LevelSource S]

/-- The mosaic of a plan before any request. -/
def fresh (plan : MosaicPlan K n) : Mosaic K n :=
  ⟨plan, .empty plan.geometry.levelCount, false⟩

theorem create_eq_ok_iff [Scalar K] [DecidableLT K] {sources : Vector S n}
    {placements : List (Placement n)} {size tileSize : Size} {levelCount : Nat}
    {transform : Affine K} {config : Config} {m : Mosaic K n} :
    create sources placements size tileSize levelCount transform config = .ok m ↔
      ∃ first rest geometry, placements = first :: rest ∧ tileSize.isEmpty = false ∧
        config.check = .ok () ∧ LevelGeometry.create levelCount transform size = .ok geometry ∧
        m = fresh
          { placements
            geometry
            tileSize
            noData := (LevelSource.noData (sources.get first.source)).map Sample.narrow
            config } := by
  cases placements with
  | nil => simp [create]
  | cons first rest =>
      cases tiled : tileSize.isEmpty with
      | true => simp [create, tiled]
      | false =>
          simp only [create, tiled, Bool.false_eq_true, if_false, bind_eq_ok_iff,
            mapError_eq_ok_iff]
          constructor
          · rintro ⟨_, checked, geometry, created, built⟩
            cases built
            obtain ⟨_, _, inverse, _, rfl⟩ := LevelGeometry.create_eq_ok_iff.mp created
            exact ⟨first, rest, _, rfl, trivial, checked, created, rfl⟩
          · rintro ⟨_, _, geometry, same, _, checked, created, rfl⟩
            cases same
            obtain ⟨_, _, inverse, _, rfl⟩ := LevelGeometry.create_eq_ok_iff.mp created
            exact ⟨(), checked, _, created, rfl⟩

/-- With something placed, tiles with pixels and usable settings, all that can be refused is the
pyramid. -/
theorem create_eq_error_iff [Scalar K] [DecidableLT K] {sources : Vector S n}
    {first : Placement n} {rest : List (Placement n)} {size tileSize : Size} {levelCount : Nat}
    {transform : Affine K} {config : Config} {error : RasterError}
    (tiled : tileSize.isEmpty = false) (usable : config.check = .ok ()) :
    create sources (first :: rest) size tileSize levelCount transform config = .error error ↔
      ∃ cause, LevelGeometry.Refused levelCount transform size cause ∧
        error = .badArgument cause := by
  have checked : config.check.mapError RasterError.badConfig = .ok () :=
    mapError_eq_ok_iff.mpr usable
  simp only [create, tiled, Bool.false_eq_true, if_false, checked,
    ← LevelGeometry.create_eq_error_iff]
  constructor
  · intro h
    obtain h | ⟨_, _, h⟩ := bind_eq_error_iff.mp h
    · cases h
    obtain refused | ⟨_, _, made⟩ := bind_eq_error_iff.mp h
    · obtain ⟨cause, stuck, rfl⟩ := mapError_eq_error_iff.mp refused
      exact ⟨cause, stuck, rfl⟩
    · cases made
  · rintro ⟨cause, refused, rfl⟩
    refine bind_eq_error_iff.mpr (.inr ⟨(), rfl, bind_eq_error_iff.mpr (.inl ?_)⟩)
    exact mapError_eq_error_iff.mpr ⟨cause, refused, rfl⟩

/-- The mosaics that are built, over sources of some kind, and may have been given another
no-data value before their first request. -/
inductive Built (S : Type) [LevelSource S] [Scalar K] [DecidableLT K] : Mosaic K n → Prop
  | create {sources : Vector S n} {placements : List (Placement n)} {size tileSize : Size}
      {levelCount : Nat} {transform : Affine K} {config : Config} {m : Mosaic K n}
      (built : create sources placements size tileSize levelCount transform config = .ok m) :
      Built S m
  | withNoData {m : Mosaic K n} (before : Built S m) (noData : Option Float) :
      Built S (m.withNoData noData)

theorem Built.eq_fresh [Scalar K] [DecidableLT K] {m : Mosaic K n} (h : Built S m) :
    m = fresh m.plan := by
  induction h with
  | create built =>
      obtain ⟨_, _, _, _, _, _, _, rfl⟩ := create_eq_ok_iff.mp built
      rfl
  | withNoData _ noData ih =>
      rw [ih]
      rfl

theorem Built.sound [Scalar K] [DecidableLT K] {m : Mosaic K n} (h : Built S m) :
    m.plan.Sound := by
  induction h with
  | create built =>
      obtain ⟨_, _, _, _, tiled, usable, created, rfl⟩ := create_eq_ok_iff.mp built
      obtain ⟨levels, scene, _, _, rfl⟩ := LevelGeometry.create_eq_ok_iff.mp created
      exact ⟨tiled, usable, Nat.pos_of_ne_zero levels, scene⟩
  | withNoData _ noData ih => exact ⟨ih.tiled, ih.usable, ih.levels, ih.scene⟩

theorem Built.scene_isEmpty [Scalar K] [DecidableLT K] {m : Mosaic K n} (h : Built S m) :
    m.plan.geometry.size.isEmpty = false :=
  h.sound.scene

end Mosaic
end RasterMosaic
