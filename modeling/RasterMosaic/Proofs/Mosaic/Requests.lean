import RasterMosaic.Mosaic.Requests
import RasterMosaic.Proofs.Mosaic.Building
import RasterMosaic.Proofs.Mosaic.Composition
import RasterMosaic.Proofs.Pyramid.LevelStore

/-!
Mosaics under requests. A mosaic is built, given a no-data value and asked for images, tiles and
resets in any order, over sources that may meanwhile change in other hands. What every request
keeps, every mosaic that can be met keeps.
-/

namespace RasterMosaic

inductive Request
  | image (level : Nat)
  | tile (level tileX tileY : Nat)
  | prefetch
  | reset
  | dispose
deriving DecidableEq

inductive Reply
  | raster (answer : Except Failure (Raster Float32))
  | rasters (answer : Except Failure (List (Raster Float32)))
  | done

namespace Mosaic

variable {K S : Type} {n : Nat} [LevelSource S]

def serve (m : Mosaic K n) (sources : Vector S n) :
    Request → Reply × Mosaic K n × Vector S n
  | .image level =>
      let (answer, m, sources) := m.image level sources
      (.raster answer, m, sources)
  | .tile level tileX tileY =>
      let (answer, m, sources) := m.tile level tileX tileY sources
      (.raster answer, m, sources)
  | .prefetch =>
      let (answer, m, sources) := m.prefetch sources
      (.rasters answer, m, sources)
  | .reset =>
      let (m, sources) := m.reset sources
      (.done, m, sources)
  | .dispose =>
      let (m, sources) := m.dispose sources
      (.done, m, sources)

/-- The replies to requests made one after the other. -/
def serveAll (m : Mosaic K n) (sources : Vector S n) :
    List Request → List Reply × Mosaic K n × Vector S n
  | [] => ([], m, sources)
  | request :: rest =>
      let (reply, m, sources) := m.serve sources request
      let (replies, m, sources) := m.serveAll sources rest
      (reply :: replies, m, sources)

/-- The mosaics there can be: those that are built, given another no-data value at any time, and
have served any requests, each over any sources. -/
inductive Reachable (S : Type) [LevelSource S] [Scalar K] [DecidableLT K] : Mosaic K n → Prop
  | built {m : Mosaic K n} (new : Built S m) : Reachable S m
  | withNoData {m : Mosaic K n} (before : Reachable S m) (noData : Option Float) :
      Reachable S (m.withNoData noData)
  | serve {m : Mosaic K n} (before : Reachable S m) (sources : Vector S n)
      (request : Request) : Reachable S (m.serve sources request).2.1

section Image
variable {m : Mosaic K n} {level : Nat} {sources : Vector S n}

theorem image_of_disposed (disposed : m.disposed = true) :
    m.image level sources = (.error (.error .disposed), m, sources) := by
  simp [image, disposed]

theorem image_of_outside (active : m.disposed = false)
    (outside : m.plan.geometry.levelCount ≤ level) :
    m.image level sources =
      (.error (.error (.noSuchLevel level m.plan.geometry.levelCount)), m, sources) := by
  simp [image, active, LevelGeometry.check, outside]

theorem image_of_inRange (active : m.disposed = false)
    (inRange : level < m.plan.geometry.levelCount) :
    m.image level sources =
      ((m.store.ensure level (m.plan.computeLevel level) sources).1,
        { m with store := (m.store.ensure level (m.plan.computeLevel level) sources).2.1 },
        (m.store.ensure level (m.plan.computeLevel level) sources).2.2) := by
  simp [image, active, LevelGeometry.check, Nat.not_le.mpr inRange]

/-- An image that is asked for leaves the sources alone or is computed from them. -/
theorem sources_image_cases :
    (m.image level sources).2.2 = sources ∨
      (m.image level sources).2.2 = (fetchLevel level m.plan.placements sources).2 := by
  cases disposed : m.disposed with
  | true => exact .inl (by rw [image_of_disposed disposed])
  | false =>
      by_cases inRange : level < m.plan.geometry.levelCount
      · rw [image_of_inRange disposed inRange]
        exact LevelStore.snd_ensure_cases
      · exact .inl (by rw [image_of_outside disposed (Nat.not_lt.mp inRange)])

@[simp] theorem plan_image : (m.image level sources).2.1.plan = m.plan := by
  simp only [image]
  repeat' first | rfl | split

@[simp] theorem disposed_image : (m.image level sources).2.1.disposed = m.disposed := by
  simp only [image]
  repeat' first | rfl | split

end Image

/-- What every image that is asked for keeps, several do. -/
theorem images_keep {P : Mosaic K n → Vector S n → Prop}
    (image : ∀ m sources level, P m sources →
      P (m.image level sources).2.1 (m.image level sources).2.2)
    (levels : List Nat) (m : Mosaic K n) (sources : Vector S n) (h : P m sources) :
    P (m.images levels sources).2.1 (m.images levels sources).2.2 := by
  induction levels generalizing m sources with
  | nil => exact h
  | cons level rest ih =>
      have hstep := image m sources level h
      simp only [Mosaic.images]
      split
      · rename_i himage
        rwa [himage] at hstep
      · rename_i himage
        rw [himage] at hstep
        exact ih _ _ hstep

/-- A property that every basic request keeps. Tiles and prefetches are made of images. -/
structure Kept (P : Mosaic K n → Vector S n → Prop) : Prop where
  image : ∀ m sources level, P m sources →
    P (m.image level sources).2.1 (m.image level sources).2.2
  reset : ∀ m sources, P m sources → P (m.reset sources).1 (m.reset sources).2
  dispose : ∀ m sources, P m sources → P (m.dispose sources).1 (m.dispose sources).2

namespace Kept
variable {P : Mosaic K n → Vector S n → Prop}

theorem serve (kept : Kept P) (request : Request) (m : Mosaic K n) (sources : Vector S n)
    (h : P m sources) : P (m.serve sources request).2.1 (m.serve sources request).2.2 := by
  cases request with
  | image level | tile level _ _ => exact kept.image m sources level h
  | prefetch => exact images_keep kept.image _ m sources h
  | reset => exact kept.reset m sources h
  | dispose => exact kept.dispose m sources h

theorem serveAll (kept : Kept P) (requests : List Request) (m : Mosaic K n)
    (sources : Vector S n) (h : P m sources) :
    P (m.serveAll sources requests).2.1 (m.serveAll sources requests).2.2 := by
  induction requests generalizing m sources with
  | nil => exact h
  | cons request rest ih => exact ih _ _ (kept.serve request m sources h)

end Kept

theorem kept_plan (plan : MosaicPlan K n) :
    Kept fun (m : Mosaic K n) (_ : Vector S n) => m.plan = plan where
  image m sources level same := plan_image.trans same
  reset m sources same := same
  dispose m sources same := by
    simp only [dispose]
    split
    · exact same
    · exact same

/-- Every level image that is held has the size of its level. -/
structure Valid (m : Mosaic K n) : Prop where
  levels : m.store.levelCount = m.plan.geometry.levelCount
  held : ∀ level image, m.store.get? level = some image →
    image.size = m.plan.geometry.size.atLevel level

theorem valid_fresh (plan : MosaicPlan K n) : (fresh plan).Valid :=
  ⟨rfl, fun level image held => by simp [fresh] at held⟩

theorem Valid.reset {m : Mosaic K n} (h : m.Valid) (sources : Vector S n) :
    (m.reset sources).1.Valid :=
  ⟨h.levels, fun level image held => by
    simp [Mosaic.reset, LevelStore.resetAfter] at held⟩

theorem kept_valid : Kept fun (m : Mosaic K n) (_ : Vector S n) => m.Valid where
  image m sources level h := by
    cases disposed : m.disposed with
    | true => rwa [image_of_disposed disposed]
    | false =>
        by_cases inRange : level < m.plan.geometry.levelCount
        · rw [image_of_inRange disposed inRange]
          refine ⟨LevelStore.levelCount_ensure.trans h.levels, fun other image held => ?_⟩
          obtain before | ⟨rfl, computed⟩ := LevelStore.get?_ensure_cases held
          · exact h.held other image before
          · exact MosaicPlan.size_of_computeLevel computed
        · rwa [image_of_outside disposed (Nat.not_lt.mp inRange)]
  reset m sources h := h.reset sources
  dispose m sources h := by
    cases disposed : m.disposed with
    | true => simpa [Mosaic.dispose, disposed] using h
    | false =>
        have hmarked : Valid { m with disposed := true } := ⟨h.levels, h.held⟩
        simpa [Mosaic.dispose, disposed] using hmarked.reset sources

theorem Reachable.valid [Scalar K] [DecidableLT K] {m : Mosaic K n} (h : Reachable S m) :
    m.Valid := by
  induction h with
  | built new => exact new.eq_fresh ▸ valid_fresh _
  | withNoData _ _ ih => exact ⟨ih.levels, ih.held⟩
  | serve _ sources request ih => exact kept_valid.serve request _ sources ih

theorem Reachable.sound [Scalar K] [DecidableLT K] {m : Mosaic K n} (h : Reachable S m) :
    m.plan.Sound := by
  induction h with
  | built new => exact new.sound
  | withNoData _ _ ih => exact ⟨ih.tiled, ih.usable, ih.levels, ih.scene⟩
  | serve _ sources request ih =>
      rw [(kept_plan _).serve request _ sources rfl]
      exact ih

end Mosaic
end RasterMosaic
