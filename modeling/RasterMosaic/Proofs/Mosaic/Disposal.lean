import RasterMosaic.Proofs.Mosaic.Requests
import RasterMosaic.Proofs.Mosaic.Rounds

/-!
Mosaics after disposal. A disposed mosaic holds nothing and refuses every level before it looks at
the level or at its store. The only request that still acts is a reset, and it acts on the sources
alone: it releases each of them, once for every placement that uses it.
-/

namespace RasterMosaic

/-- The reply of a disposed mosaic. -/
def Request.refusal : Request → Reply
  | .image _ | .tile _ _ _ => .raster (.error (.error .disposed))
  | .prefetch => .rasters (.error (.error .disposed))
  | .reset | .dispose => .done

variable {K S : Type} {n : Nat} [LevelSource S]

/-- The placements whose sources a disposed mosaic releases. -/
def MosaicPlan.releasedBy (plan : MosaicPlan K n) : Request → List (Placement n)
  | .reset => plan.placements
  | .image _ | .tile _ _ _ | .prefetch | .dispose => []

theorem MosaicPlan.releasedBy_of_ne_reset (plan : MosaicPlan K n) {request : Request}
    (other : request ≠ .reset) : plan.releasedBy request = [] := by
  cases request with
  | reset => exact absurd rfl other
  | image _ | tile _ _ _ | prefetch | dispose => rfl

theorem MosaicPlan.count_releasedBy (plan : MosaicPlan K n) (requests : List Request)
    (k : Fin n) :
    ((requests.flatMap plan.releasedBy).map Placement.source).count k =
      requests.count .reset * (plan.placements.map Placement.source).count k := by
  induction requests with
  | nil => simp
  | cons request rest ih =>
      rw [List.flatMap_cons, List.map_append, List.count_append, ih, List.count_cons]
      by_cases hreset : request = .reset
      · subst hreset
        simp only [releasedBy, beq_self_eq_true, if_true]
        rw [Nat.add_mul, Nat.one_mul, Nat.add_comm]
      · simp [releasedBy_of_ne_reset plan hreset, hreset]

namespace Mosaic

/-- A mosaic that has been disposed. It has some level to refuse and holds none. -/
structure Retired (m : Mosaic K n) : Prop where
  disposed : m.disposed = true
  levels : 0 < m.plan.geometry.levelCount
  nothingHeld : ∀ level, m.store.get? level = none

/-- No disposed mosaic holds anything. -/
theorem kept_nothingHeld :
    Kept fun (m : Mosaic K n) (_ : Vector S n) =>
      m.disposed = true → ∀ level, m.store.get? level = none where
  image m sources level h := by
    intro disposed
    rw [disposed_image] at disposed
    rw [image_of_disposed disposed]
    exact h disposed
  reset m sources _ := fun _ => LevelStore.get?_reset m.store
  dispose m sources h := by
    cases active : m.disposed with
    | true => simpa [Mosaic.dispose, active] using h
    | false =>
        simp only [Mosaic.dispose, active]
        exact fun _ => LevelStore.get?_reset m.store

theorem Reachable.retired [Scalar K] [DecidableLT K] {m : Mosaic K n} (h : Reachable S m)
    (disposed : m.disposed = true) : m.Retired := by
  refine ⟨disposed, h.sound.levels, ?_⟩
  revert disposed
  induction h with
  | built new =>
      intro disposed
      rw [new.eq_fresh] at disposed
      cases disposed
  | withNoData _ _ ih => exact ih
  | serve _ sources request ih => exact kept_nothingHeld.serve request _ sources ih

@[simp] theorem disposed_dispose (m : Mosaic K n) (sources : Vector S n) :
    (m.dispose sources).1.disposed = true := by
  cases active : m.disposed <;> simp [dispose, reset, active]

theorem fetches_dispose (m : Mosaic K n) (sources : Vector (Counted S) n) (k : Fin n) :
    ((m.dispose sources).2.get k).fetches = (sources.get k).fetches := by
  cases active : m.disposed with
  | true => rw [dispose, if_pos active]
  | false =>
      rw [dispose, if_neg (Bool.not_eq_true _ ▸ active)]
      exact fetches_releaseSources sources k

namespace Retired
variable {m : Mosaic K n} (h : m.Retired)

include h

theorem heldLevels : m.heldLevels = 0 := by
  have none : ∀ level, level ∈ (∅ : Finset Nat) ↔ (m.store.get? level).isSome = true := by
    simp [h.nothingHeld]
  exact LevelStore.heldCount_eq_card none

theorem prefetch (sources : Vector S n) :
    m.prefetch sources = (.error (.error .disposed), m, sources) := by
  obtain ⟨count, hcount⟩ : ∃ count, m.plan.geometry.levelCount = count + 1 :=
    Nat.exists_eq_add_one.mpr h.levels
  rw [Mosaic.prefetch, hcount, List.range_succ_eq_map, images, image_of_disposed h.disposed]

theorem serve_of_ne_reset (sources : Vector S n) {request : Request} (other : request ≠ .reset) :
    m.serve sources request = (request.refusal, m, sources) := by
  cases request with
  | image level => simp only [Mosaic.serve, image_of_disposed h.disposed, Request.refusal]
  | tile level tileX tileY =>
      simp only [Mosaic.serve, tile, image_of_disposed h.disposed, Request.refusal]
      rfl
  | prefetch => simp only [Mosaic.serve, h.prefetch, Request.refusal]
  | reset => exact absurd rfl other
  | dispose => simp only [Mosaic.serve, dispose, h.disposed, if_true, Request.refusal]

theorem serve (sources : Vector S n) (request : Request) :
    (m.serve sources request).1 = request.refusal ∧
      (m.serve sources request).2.1.Retired ∧
      (m.serve sources request).2.1.plan = m.plan ∧
      (m.serve sources request).2.2 = releaseSources (m.plan.releasedBy request) sources := by
  by_cases hreset : request = .reset
  · subst hreset
    exact ⟨rfl, ⟨h.disposed, h.levels, LevelStore.get?_reset m.store⟩, rfl, rfl⟩
  · rw [h.serve_of_ne_reset sources hreset, m.plan.releasedBy_of_ne_reset hreset]
    exact ⟨rfl, h, rfl, rfl⟩

/-- Any requests to a disposed mosaic. -/
theorem serveAll (sources : Vector S n) (requests : List Request) :
    (m.serveAll sources requests).1 = requests.map Request.refusal ∧
      (m.serveAll sources requests).2.1.Retired ∧
      (m.serveAll sources requests).2.1.plan = m.plan ∧
      (m.serveAll sources requests).2.2 =
        releaseSources (requests.flatMap m.plan.releasedBy) sources := by
  induction requests generalizing m sources with
  | nil => exact ⟨rfl, h, rfl, rfl⟩
  | cons request rest ih =>
      obtain ⟨reply, retired, plan, released⟩ := h.serve sources request
      obtain ⟨replies, retired, plans, releasedAll⟩ := ih retired (m.serve sources request).2.2
      refine ⟨?_, retired, plans.trans plan, ?_⟩
      · exact congr (congrArg List.cons reply) replies
      · rw [List.flatMap_cons, releaseSources_append, ← released, ← plan]
        exact releasedAll

end Retired

end Mosaic
end RasterMosaic
