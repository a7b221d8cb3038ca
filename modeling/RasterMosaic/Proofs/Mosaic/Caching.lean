import RasterMosaic.Proofs.Except
import RasterMosaic.Proofs.Mosaic.Image

/-!
Caching is not seen in the answers. A mosaic that holds images, over sources that hold levels of
their own, is compared with one that holds nothing and meets its sources as they were at the
start. As long as each source answers a level in one way, both reply alike until disposal.
-/

namespace RasterMosaic

variable {K S : Type} {n : Nat} [LevelSource S]

namespace LevelSource.Steady
variable {s t u : S}

theorem fst_fetch_eq (h : Steady s) (ht : Later s t) (hu : Later s u) (level : Nat) :
    (LevelSource.fetch t level).1 = (LevelSource.fetch u level).1 :=
  ((h t ht).2 level).trans ((h u hu).2 level).symm

theorem noData_eq (h : Steady s) (ht : Later s t) (hu : Later s u) :
    LevelSource.noData t = LevelSource.noData u :=
  (h t ht).1.trans (h u hu).1.symm

end LevelSource.Steady

/-- What steady sources answer for a level does not depend on what was asked of them before. The
two runs meet different states, so both are followed from the same beginning. -/
theorem fst_fetchLevel_eq_of_steady {level : Nat} {placements : List (Placement n)}
    {sources first second : Vector S n}
    (steady : ∀ p ∈ placements, LevelSource.Steady (sources.get p.source))
    (hfirst : AllLater sources first) (hsecond : AllLater sources second) :
    (fetchLevel level placements first).1 = (fetchLevel level placements second).1 := by
  induction placements generalizing first second with
  | nil => rfl
  | cons placement rest ih =>
      have hsteady := steady placement List.mem_cons_self
      have hleft := hfirst placement.source
      have hright := hsecond placement.source
      have hanswer := hsteady.fst_fetch_eq hleft hright level
      have hnoData := hsteady.noData_eq (.fetch level hleft) (.fetch level hright)
      have hrest := ih (fun p hmem => steady p (List.mem_cons_of_mem _ hmem))
        (hfirst.trans (.put_fetch first placement.source level))
        (hsecond.trans (.put_fetch second placement.source level))
      cases fetched : LevelSource.fetch (first.get placement.source) level with
      | mk answer source =>
          cases fetched' : LevelSource.fetch (second.get placement.source) level with
          | mk answer' source' =>
              rw [fetched, fetched'] at hanswer hnoData hrest
              change answer = answer' at hanswer
              subst hanswer
              cases settled : Failure.settle answer with
              | error fault =>
                  rw [fetchLevel_cons_of_fault fetched settled,
                    fetchLevel_cons_of_fault fetched' settled]
              | ok image =>
                  rw [fetchLevel_cons_of_settle fetched settled,
                    fetchLevel_cons_of_settle fetched' settled, hrest]
                  simp only [LevelAnswer.ofPlacement, hnoData]

theorem allLater_releaseSources (placements : List (Placement n)) (sources : Vector S n) :
    AllLater sources (Mosaic.releaseSources placements sources) := by
  induction placements generalizing sources with
  | nil => exact .refl sources
  | cons placement rest ih =>
      have hstep : AllLater sources _ := .put placement.source (.release .refl)
      exact hstep.trans (ih _)

theorem Mosaic.allLater_image (m : Mosaic K n) (level : Nat) (sources : Vector S n) :
    AllLater sources (m.image level sources).2.2 := by
  obtain same | fetched : (m.image level sources).2.2 = sources ∨ _ := sources_image_cases
  · rw [same]
    exact .refl sources
  · rw [fetched]
    exact allLater_fetchLevel level m.plan.placements sources

namespace MosaicPlan

/-- A level image made without any that is held. -/
def imageAnew (plan : MosaicPlan K n) (sources : Vector S n) (level : Nat) :
    Except Failure (Raster Float32) :=
  match plan.geometry.check level with
  | .error cause => .error (.error cause)
  | .ok () => (plan.computeLevel level sources).1

/-- The reply to a request made without any image that is held. -/
def replyAnew (plan : MosaicPlan K n) (sources : Vector S n) : Request → Reply
  | .image level => .raster (plan.imageAnew sources level)
  | .tile level tileX tileY =>
      .raster <| (plan.imageAnew sources level).bind fun image =>
        (Mosaic.cutTile plan.tileSize level tileX tileY image).mapError (.error ∘ .badArgument)
  | .prefetch =>
      .rasters ((List.range plan.geometry.levelCount).mapM (plan.imageAnew sources))
  | .reset | .dispose => .done

/-- Every source the plan places answers each level in one way. -/
def SteadyOver (plan : MosaicPlan K n) (sources : Vector S n) : Prop :=
  ∀ p ∈ plan.placements, LevelSource.Steady (sources.get p.source)

variable {plan : MosaicPlan K n} {sources later : Vector S n} {level : Nat}

theorem imageAnew_of_outside (outside : plan.geometry.levelCount ≤ level) :
    plan.imageAnew sources level =
      .error (.error (.noSuchLevel level plan.geometry.levelCount)) := by
  simp [imageAnew, LevelGeometry.check, outside]

theorem imageAnew_of_inRange (inRange : level < plan.geometry.levelCount) :
    plan.imageAnew sources level = (plan.computeLevel level sources).1 := by
  simp [imageAnew, LevelGeometry.check, Nat.not_le.mpr inRange]

theorem SteadyOver.fst_computeLevel (h : plan.SteadyOver sources)
    (hlater : AllLater sources later) (level : Nat) :
    (plan.computeLevel level later).1 = (plan.computeLevel level sources).1 := by
  simp only [computeLevel, fst_fetchLevel_eq_of_steady h hlater (.refl sources)]

end MosaicPlan

namespace Mosaic

/-- A mosaic and its sources after requests: nothing about them tells the requests apart from
none, except what is held, and that is what would be computed anew. -/
structure AsNew (plan : MosaicPlan K n) (start : Vector S n) (m : Mosaic K n)
    (sources : Vector S n) : Prop where
  unchanged : m.plan = plan
  active : m.disposed = false
  levels : m.store.levelCount = plan.geometry.levelCount
  later : AllLater start sources
  held : ∀ level image, m.store.get? level = some image →
    plan.imageAnew start level = .ok image

namespace AsNew
variable {plan : MosaicPlan K n} {start sources : Vector S n} {m : Mosaic K n}

theorem image (h : AsNew plan start m sources) (steady : plan.SteadyOver start) (level : Nat) :
    (m.image level sources).1 = plan.imageAnew start level ∧
      AsNew plan start (m.image level sources).2.1 (m.image level sources).2.2 := by
  obtain ⟨rfl, active, levels, later, held⟩ := h
  by_cases inRange : level < m.plan.geometry.levelCount
  · have hafter := later.trans (m.allLater_image level sources)
    have hslot : level < m.store.levelCount := levels ▸ inRange
    have hanew : (m.plan.computeLevel level sources).1 = m.plan.imageAnew start level := by
      rw [MosaicPlan.imageAnew_of_inRange inRange, steady.fst_computeLevel later]
    rw [image_of_inRange active inRange] at hafter ⊢
    refine ⟨?_, rfl, active, LevelStore.levelCount_ensure.trans levels, hafter, ?_⟩
    · cases hheld : m.store.get? level with
      | some image => rw [LevelStore.ensure_of_held hheld, held level image hheld]
      | none => rw [LevelStore.fst_ensure_of_missing hslot hheld, hanew]
    · intro other image hother
      obtain before | ⟨rfl, computed⟩ := LevelStore.get?_ensure_cases hother
      · exact held other image before
      · exact hanew.symm.trans computed
  · have outside := Nat.not_lt.mp inRange
    rw [image_of_outside active outside, MosaicPlan.imageAnew_of_outside outside]
    exact ⟨rfl, rfl, active, levels, later, held⟩

theorem images (h : AsNew plan start m sources) (steady : plan.SteadyOver start)
    (levels : List Nat) :
    (m.images levels sources).1 = levels.mapM (plan.imageAnew start) ∧
      AsNew plan start (m.images levels sources).2.1 (m.images levels sources).2.2 := by
  induction levels generalizing m sources with
  | nil => exact ⟨rfl, h⟩
  | cons level rest ih =>
      obtain ⟨hanswer, hafter⟩ := h.image steady level
      rw [List.mapM_cons, ← hanswer]
      cases step : m.image level sources with
      | mk answer after =>
          rw [step] at hafter
          cases answer with
          | error failure =>
              simp only [Mosaic.images, step]
              exact ⟨rfl, hafter⟩
          | ok image =>
              obtain ⟨hrest, hlast⟩ := ih hafter
              simp only [Mosaic.images, step]
              refine ⟨?_, hlast⟩
              rw [hrest]
              cases rest.mapM (plan.imageAnew start) <;> rfl

theorem reset (h : AsNew plan start m sources) :
    AsNew plan start (m.reset sources).1 (m.reset sources).2 where
  unchanged := h.unchanged
  active := h.active
  levels := h.levels
  later := h.later.trans (allLater_releaseSources m.plan.placements sources)
  held level image held := by simp [Mosaic.reset, LevelStore.resetAfter] at held

/-- One request: the reply is that of a mosaic without memory, and memory stays faithful. -/
theorem serve (h : AsNew plan start m sources) (steady : plan.SteadyOver start)
    {request : Request} (keep : request ≠ .dispose) :
    (m.serve sources request).1 = plan.replyAnew start request ∧
      AsNew plan start (m.serve sources request).2.1 (m.serve sources request).2.2 := by
  cases request with
  | image level =>
      obtain ⟨hanswer, hafter⟩ := h.image steady level
      exact ⟨congrArg Reply.raster hanswer, hafter⟩
  | tile level tileX tileY =>
      obtain ⟨hanswer, hafter⟩ := h.image steady level
      refine ⟨?_, hafter⟩
      simp only [Mosaic.serve, Mosaic.tile, MosaicPlan.replyAnew, hanswer, hafter.unchanged]
  | prefetch =>
      obtain ⟨hanswer, hafter⟩ := h.images steady (List.range m.plan.geometry.levelCount)
      refine ⟨?_, hafter⟩
      rw [h.unchanged] at hanswer
      simp only [Mosaic.serve, Mosaic.prefetch, MosaicPlan.replyAnew, h.unchanged, hanswer]
  | reset => exact ⟨rfl, h.reset⟩
  | dispose => exact absurd rfl keep

theorem serveAll (h : AsNew plan start m sources) (steady : plan.SteadyOver start)
    {before : List Request} (keep : .dispose ∉ before) (rest : List Request) :
    (m.serveAll sources (before ++ rest)).1.take before.length =
      before.map (plan.replyAnew start) := by
  induction before generalizing m sources with
  | nil => rfl
  | cons request others ih =>
      have hhead : request ≠ .dispose := fun same => keep (same ▸ List.mem_cons_self)
      have htail : .dispose ∉ others := fun hmem => keep (List.mem_cons_of_mem _ hmem)
      obtain ⟨hreply, hafter⟩ := h.serve steady hhead
      simp only [List.cons_append, Mosaic.serveAll, List.length_cons, List.take_succ_cons,
        List.map_cons, hreply, ih hafter htail]

end AsNew

theorem asNew_fresh (plan : MosaicPlan K n) (sources : Vector S n) :
    AsNew plan sources (fresh plan) sources :=
  ⟨rfl, rfl, rfl, .refl sources, fun level image held => by simp [fresh] at held⟩

/-- Until the first disposal every reply is the one a mosaic without memory gives, so nothing of
what was requested before shows in it. A prefetch that succeeds lists the images of all levels.
Decimated pyramids are sources of the kind this asks for. -/
theorem replies_eq_replyAnew [Scalar K] [DecidableLT K] :
    (∀ (base : Raster Float32) (tileSize : Size) (levelCount : Nat) (noData : Option Float)
      (s : DecimatedPyramid),
      DecimatedPyramid.create base tileSize levelCount noData = .ok s → LevelSource.Steady s) ∧
    ∀ (m : Mosaic K n), Built S m → ∀ sources : Vector S n, m.plan.SteadyOver sources →
      ∀ before rest : List Request, .dispose ∉ before →
      let replies := (m.serveAll sources (before ++ rest)).1.take before.length
      replies = before.map (m.plan.replyAnew sources) ∧
      ∀ images, .rasters (.ok images) ∈ replies →
        images.map .ok =
          (List.range m.plan.geometry.levelCount).map (m.plan.imageAnew sources) := by
  refine ⟨fun base tileSize levelCount noData s created =>
    DecimatedPyramid.steady_of_create created, ?_⟩
  intro m built sources steady before rest keep
  have hm : AsNew m.plan sources m sources := by
    have hfresh := asNew_fresh m.plan sources
    rwa [← built.eq_fresh] at hfresh
  have hreplies := hm.serveAll steady keep rest
  refine ⟨hreplies, fun images hmem => ?_⟩
  rw [hreplies] at hmem
  obtain ⟨request, _, hreply⟩ := List.mem_map.mp hmem
  cases request with
  | prefetch => exact map_ok_of_mapM_eq_ok (Reply.rasters.inj hreply)
  | image _ | tile _ _ _ | reset | dispose => cases hreply

theorem replies_eq_replyAnew_shared :
    let before : List Request := [.image 1, .tile 1 9 0, .prefetch, .reset, .image 7, .image 1]
    (sharedScene.serveAll #v[pyramid] (before ++ [.dispose, .image 1])).1.take 6 =
      before.map (sharedScene.plan.replyAnew #v[pyramid]) := by
  obtain ⟨steady, replies⟩ :=
    replies_eq_replyAnew (K := Rat) (S := DecimatedPyramid) (n := 1)
  have placed : sharedScene.plan.SteadyOver #v[pyramid] := by
    intro p _
    rw [get_pyramid]
    exact steady _ _ _ _ pyramid create_pyramid
  intro before
  exact (replies sharedScene built_sharedScene #v[pyramid] placed before
    [.dispose, .image 1] (by decide)).1

end Mosaic
end RasterMosaic
