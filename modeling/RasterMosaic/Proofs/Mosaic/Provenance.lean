import RasterMosaic.Proofs.Mosaic.Caching

/-!
Where level images come from. A mosaic serves requests while its sources may also be fetched
from and released by others. Each image it answers with, held or new, is the one computed from
its sources in some state between the first request and now.
-/

namespace RasterMosaic
namespace Mosaic

variable {K S : Type} {n : Nat} [LevelSource S]

theorem kept_later (start : Vector S n) :
    Kept fun (_ : Mosaic K n) (sources : Vector S n) => AllLater start sources where
  image m sources level h := h.trans (m.allLater_image level sources)
  reset m sources h := h.trans (allLater_releaseSources m.plan.placements sources)
  dispose m sources h := by
    cases disposed : m.disposed with
    | true => simpa [dispose, disposed] using h
    | false =>
        simp only [dispose, disposed, Bool.false_eq_true, if_false]
        exact h.trans (allLater_releaseSources m.plan.placements sources)

theorem allLater_serve (m : Mosaic K n) (sources : Vector S n) (request : Request) :
    AllLater sources (m.serve sources request).2.2 :=
  (kept_later sources).serve request m sources (.refl sources)

/-- What a mosaic and its sources come to by requests, and by what others do to the sources in
between. -/
inductive Reached (m : Mosaic K n) (start : Vector S n) : Mosaic K n → Vector S n → Prop
  | start : Reached m start m start
  | serve {now : Mosaic K n} {sources : Vector S n} (before : Reached m start now sources)
      (request : Request) :
      Reached m start (now.serve sources request).2.1 (now.serve sources request).2.2
  | meanwhile {now : Mosaic K n} {sources later : Vector S n}
      (before : Reached m start now sources) (elsewhere : AllLater sources later) :
      Reached m start now later

theorem Reached.plan_eq {m now : Mosaic K n} {start sources : Vector S n}
    (h : Reached m start now sources) : now.plan = m.plan := by
  induction h with
  | start => rfl
  | serve _ request ih => exact (kept_plan m.plan).serve request _ _ ih
  | meanwhile _ _ ih => exact ih

/-- Every level image that is held was computed from the sources as they have been since the
start. -/
structure Traced (plan : MosaicPlan K n) (start : Vector S n) (m : Mosaic K n)
    (sources : Vector S n) : Prop where
  unchanged : m.plan = plan
  levels : m.store.levelCount = plan.geometry.levelCount
  later : AllLater start sources
  held : ∀ level image, m.store.get? level = some image →
    ∃ past, AllLater start past ∧ (plan.computeLevel level past).1 = .ok image

theorem traced_fresh (plan : MosaicPlan K n) (start : Vector S n) :
    Traced plan start (fresh plan) start :=
  ⟨rfl, rfl, .refl start, fun level image held => by simp [fresh] at held⟩

theorem Traced.reset {plan : MosaicPlan K n} {start sources : Vector S n} {m : Mosaic K n}
    (h : Traced plan start m sources) :
    Traced plan start (m.reset sources).1 (m.reset sources).2 where
  unchanged := h.unchanged
  levels := h.levels
  later := h.later.trans (allLater_releaseSources m.plan.placements sources)
  held level image held := by simp [Mosaic.reset, LevelStore.resetAfter] at held

theorem kept_traced (plan : MosaicPlan K n) (start : Vector S n) :
    Kept (Traced plan start) where
  image m sources level h := by
    cases disposed : m.disposed with
    | true => rwa [image_of_disposed disposed]
    | false =>
        by_cases inRange : level < m.plan.geometry.levelCount
        · obtain ⟨rfl, levels, later, held⟩ := h
          have hafter := later.trans (m.allLater_image level sources)
          rw [image_of_inRange disposed inRange] at hafter ⊢
          refine ⟨rfl, LevelStore.levelCount_ensure.trans levels, hafter, ?_⟩
          intro other image hother
          obtain before | ⟨rfl, computed⟩ := LevelStore.get?_ensure_cases hother
          · exact held other image before
          · exact ⟨sources, later, computed⟩
        · rwa [image_of_outside disposed (Nat.not_lt.mp inRange)]
  reset m sources h := h.reset
  dispose m sources h := by
    cases disposed : m.disposed with
    | true => simpa [Mosaic.dispose, disposed] using h
    | false =>
        have hmarked : Traced plan start { m with disposed := true } sources :=
          ⟨h.unchanged, h.levels, h.later, h.held⟩
        simpa [Mosaic.dispose, disposed] using hmarked.reset

theorem Reached.traced {m now : Mosaic K n} {start sources : Vector S n}
    (h : Reached (fresh m.plan) start now sources) : Traced m.plan start now sources := by
  induction h with
  | start => exact traced_fresh m.plan start
  | serve _ request ih => exact (kept_traced m.plan start).serve request _ _ ih
  | meanwhile _ elsewhere ih =>
      exact ⟨ih.unchanged, ih.levels, ih.later.trans elsewhere, ih.held⟩

/-- What a mosaic answers for a level that is held is what its sources gave at some time, and
else what they give now. -/
theorem Reached.origin [Scalar K] [DecidableLT K] {m now : Mosaic K n}
    {start sources : Vector S n} {level : Nat} (built : Built S m)
    (reached : Reached m start now sources) (active : now.disposed = false)
    (inRange : level < m.plan.geometry.levelCount) :
    ∃ past, AllLater start past ∧ (now.store.get? level = none → past = sources) ∧
      (now.image level sources).1 = (m.plan.computeLevel level past).1 := by
  rw [built.eq_fresh] at reached
  obtain ⟨same, levels, later, held⟩ := reached.traced
  rw [← same] at inRange levels
  rw [image_of_inRange active inRange]
  cases missing : now.store.get? level with
  | some image =>
      obtain ⟨past, hpast, computed⟩ := held level image missing
      exact ⟨past, hpast, nofun, by rw [LevelStore.ensure_of_held missing, computed]⟩
  | none =>
      refine ⟨sources, later, fun _ => rfl, ?_⟩
      rw [LevelStore.fst_ensure_of_missing (levels ▸ inRange) missing, same]

theorem Reached.fst_image [Scalar K] [DecidableLT K] {m now : Mosaic K n}
    {start sources : Vector S n} {level : Nat} (built : Built S m)
    (reached : Reached m start now sources) (active : now.disposed = false)
    (inRange : level < m.plan.geometry.levelCount) :
    ∃ past, AllLater start past ∧
      (now.image level sources).1 = (m.plan.computeLevel level past).1 := by
  obtain ⟨past, later, _, computed⟩ := reached.origin built active inRange
  exact ⟨past, later, computed⟩

end Mosaic
end RasterMosaic
