import Mathlib.Data.List.Nodup
import RasterMosaic.Proofs.Mosaic.Accounting
import RasterMosaic.Proofs.Mosaic.Disposal
import RasterMosaic.Proofs.Product.Requests

/-!
Disposal is final. A product is disposed of by disposing of the mosaic of each band, those that had
been disposed of before included. From then on every band refuses its levels, nothing is fetched,
and resets do nothing but release: a reset of one band the sources of that band, a reset of the
product those of all bands.
-/

namespace RasterMosaic

variable {K S : Type} {n : Nat}

/-- The reply of a disposed product of some number of bands. -/
def ProductRequest.refusal (bandCount : Nat) : ProductRequest → Option Reply
  | .band index request => if index < bandCount then some request.refusal else none
  | .physical index _ =>
      if index < bandCount then some (.raster (.error (.error .disposed))) else none
  | .reset | .dispose => some .done

/-- The placements whose sources a disposed product releases, given the plans of its bands. -/
def ProductRequest.releasing (plans : List (MosaicPlan K n)) :
    ProductRequest → List (Placement n)
  | .band index request => plans[index]?.toList.flatMap (·.releasedBy request)
  | .reset => plans.flatMap MosaicPlan.placements
  | .physical _ _ | .dispose => []

/-- The request resets the band at an index, alone or with the whole product. -/
def ProductRequest.resets (index : Nat) : ProductRequest → Bool
  | .band other request => other == index && request == .reset
  | .reset => true
  | .physical _ _ | .dispose => false

section Releases
variable {plans : List (MosaicPlan K n)}
  (distinct : ((plans.flatMap MosaicPlan.placements).map Placement.source).Nodup)
  {index : Nat} {plan : MosaicPlan K n} (found : plans[index]? = some plan)
  {p : Placement n} (mem : p ∈ plan.placements)

include distinct found mem

/-- No other band uses the source. -/
theorem not_mem_of_distinct {other : Nat} {plan' : MosaicPlan K n}
    (found' : plans[other]? = some plan') (ne : other ≠ index) :
    p.source ∉ plan'.placements.map Placement.source := by
  rw [List.map_flatMap, List.nodup_flatMap, List.pairwise_iff_getElem] at distinct
  obtain ⟨hi, rfl⟩ := List.getElem?_eq_some_iff.mp found
  obtain ⟨hj, rfl⟩ := List.getElem?_eq_some_iff.mp found'
  have hmem := List.mem_map_of_mem (f := Placement.source) mem
  intro hmem'
  obtain before | after := Nat.lt_or_gt_of_ne ne
  · exact distinct.2 other index hj hi before hmem' hmem
  · exact distinct.2 index other hi hj after hmem hmem'

theorem count_releasing (request : ProductRequest) :
    ((request.releasing plans).map Placement.source).count p.source =
      if request.resets index then 1 else 0 := by
  cases request with
  | physical _ _ | dispose => rfl
  | reset =>
      refine List.count_eq_one_of_mem distinct (List.mem_map_of_mem ?_)
      exact List.mem_flatMap_of_mem (List.mem_of_getElem? found) mem
  | band other asked =>
      simp only [ProductRequest.releasing, ProductRequest.resets]
      by_cases hreset : asked = .reset
      · subst hreset
        by_cases hother : other = index
        · subst hother
          have once : (plan.placements.map Placement.source).Nodup := by
            rw [List.map_flatMap, List.nodup_flatMap] at distinct
            exact distinct.1 plan (List.mem_of_getElem? found)
          simpa [found, MosaicPlan.releasedBy] using
            List.count_eq_one_of_mem once (List.mem_map_of_mem mem)
        · cases found' : plans[other]? with
          | none => simp [hother]
          | some plan' =>
              have absent := not_mem_of_distinct distinct found mem found' hother
              simpa [hother, MosaicPlan.releasedBy] using List.count_eq_zero.mpr absent
      · have none : ∀ plan : MosaicPlan K n, plan.releasedBy asked = [] :=
          fun plan => plan.releasedBy_of_ne_reset hreset
        cases plans[other]? <;> simp [none, hreset]

/-- With a source for every placement, the requests that reset a band are what releases its
sources. -/
theorem count_flatMap_releasing (requests : List ProductRequest) :
    ((requests.flatMap (ProductRequest.releasing plans)).map Placement.source).count p.source =
      requests.countP (ProductRequest.resets index) := by
  induction requests with
  | nil => rfl
  | cons request rest ih =>
      rw [List.flatMap_cons, List.map_append, List.count_append, ih,
        count_releasing distinct found mem, List.countP_cons, Nat.add_comm]

end Releases

namespace Product

def plans (p : Product K n) : List (MosaicPlan K n) := p.bands.map (·.mosaic.plan)

/-- All of its bands have been disposed of. -/
def Retired (p : Product K n) : Prop := ∀ band ∈ p.bands, band.mosaic.Retired

section Steps
variable {step : Mosaic K n → Vector S n → Mosaic K n × Vector S n} {bands : List (Band K n)}

theorem stepBands_eq_self
    (idle : ∀ band ∈ bands, ∀ sources, step band.mosaic sources = (band.mosaic, sources))
    (sources : Vector S n) : stepBands step bands sources = (bands, sources) := by
  induction bands generalizing sources with
  | nil => rfl
  | cons first rest ih =>
      have hrest := ih fun band hmem => idle band (List.mem_cons_of_mem _ hmem)
      simp only [stepBands, idle first List.mem_cons_self, hrest]

theorem plans_stepBands (same : ∀ m sources, (step m sources).1.plan = m.plan)
    (sources : Vector S n) :
    (stepBands step bands sources).1.map (·.mosaic.plan) = bands.map (·.mosaic.plan) := by
  induction bands generalizing sources with
  | nil => rfl
  | cons first rest ih =>
      rw [stepBands, List.map_cons, List.map_cons, ih, same]

theorem stepBands_invariant {β : Type} (seen : Vector S n → β)
    (same : ∀ m sources, seen (step m sources).2 = seen sources) (sources : Vector S n) :
    seen (stepBands step bands sources).2 = seen sources := by
  induction bands generalizing sources with
  | nil => rfl
  | cons first rest ih => exact (ih _).trans (same first.mosaic sources)

end Steps

theorem set_of_getElem? {α : Type} {xs : List α} {i : Nat} {x : α} (found : xs[i]? = some x) :
    xs.set i x = xs := by
  obtain ⟨hi, rfl⟩ := List.getElem?_eq_some_iff.mp found
  exact List.set_getElem_self hi

theorem plans_set {p : Product K n} {index : Nat} {before after : Band K n}
    (found : p.bands[index]? = some before) (same : after.mosaic.plan = before.mosaic.plan) :
    plans { p with bands := p.bands.set index after } = p.plans := by
  rw [plans, List.map_set, same, plans]
  exact set_of_getElem? (by rw [List.getElem?_map, found]; rfl)

variable [LevelSource S]

theorem sources_stepBands_reset (bands : List (Band K n)) (sources : Vector S n) :
    (stepBands Mosaic.reset bands sources).2 =
      Mosaic.releaseSources (bands.flatMap (·.mosaic.plan.placements)) sources := by
  induction bands generalizing sources with
  | nil => rfl
  | cons first rest ih =>
      rw [List.flatMap_cons, releaseSources_append]
      exact ih _

theorem Reachable.retired_dispose [CrsRegistry] [Scalar K] [DecidableLT K] {p : Product K n}
    (h : Reachable S p) (sources : Vector S n) : (p.dispose sources).1.Retired := by
  intro band hmem
  obtain ⟨before, hbefore, met, rfl⟩ := mem_stepBands hmem
  have disposed := (h.band before hbefore).serve met .dispose
  exact disposed.retired (Mosaic.disposed_dispose before.mosaic met)

namespace Retired
variable {p : Product K n} (h : p.Retired)

include h

theorem dispose (sources : Vector S n) : p.dispose sources = (p, sources) := by
  have idle : ∀ band ∈ p.bands, ∀ met : Vector S n,
      band.mosaic.dispose met = (band.mosaic, met) := fun band hmem met => by
    rw [Mosaic.dispose, if_pos (h band hmem).disposed]
  rw [Product.dispose, stepBands_eq_self idle]

theorem set {index : Nat} {band : Band K n} (retired : band.mosaic.Retired) :
    Retired { p with bands := p.bands.set index band } := by
  intro other hmem
  obtain hmem | rfl := List.mem_or_eq_of_mem_set hmem
  · exact h other hmem
  · exact retired

/-- One request to a disposed product. -/
theorem serve (sources : Vector S n) (request : ProductRequest) :
    (p.serve sources request).1 = request.refusal p.bands.length ∧
      (p.serve sources request).2.1.Retired ∧
      (p.serve sources request).2.1.plans = p.plans ∧
      (p.serve sources request).2.2 =
        Mosaic.releaseSources (request.releasing p.plans) sources := by
  cases request with
  | band index asked =>
      simp only [Product.serve, ProductRequest.refusal, ProductRequest.releasing, plans,
        List.getElem?_map]
      cases found : p.bands[index]? with
      | none =>
          rw [if_neg (Nat.not_lt.mpr (List.getElem?_eq_none_iff.mp found))]
          exact ⟨rfl, h, rfl, rfl⟩
      | some band =>
          obtain ⟨reply, retired, plan, released⟩ :=
            (h band (List.mem_of_getElem? found)).serve sources asked
          rw [if_pos (List.getElem?_eq_some_iff.mp found).1]
          refine ⟨congrArg some reply, h.set retired, ?_, ?_⟩
          · exact plans_set found plan
          · simpa using released
  | physical index level =>
      simp only [Product.serve, ProductRequest.refusal, ProductRequest.releasing]
      cases found : p.bands[index]? with
      | none =>
          rw [if_neg (Nat.not_lt.mpr (List.getElem?_eq_none_iff.mp found))]
          exact ⟨rfl, h, rfl, rfl⟩
      | some band =>
          have hband := h band (List.mem_of_getElem? found)
          rw [if_pos (List.getElem?_eq_some_iff.mp found).1]
          simp only [Band.physicalImage, Band.image, Mosaic.image_of_disposed hband.disposed]
          exact ⟨rfl, h.set hband, plans_set found rfl, rfl⟩
  | reset =>
      refine ⟨rfl, ?_, plans_stepBands (fun _ _ => rfl) sources, ?_⟩
      · intro band hmem
        obtain ⟨before, hbefore, met, rfl⟩ := mem_stepBands hmem
        exact ((h before hbefore).serve met .reset).2.1
      · refine (sources_stepBands_reset p.bands sources).trans ?_
        rw [ProductRequest.releasing, plans, List.flatMap_map]
  | dispose =>
      rw [Product.serve, h.dispose]
      exact ⟨rfl, h, rfl, rfl⟩

/-- A request that resets nothing leaves a disposed product and its sources alone. -/
theorem serve_idle (sources : Vector S n) {request : ProductRequest}
    (idle : ∀ index, request.resets index = false) :
    (p.serve sources request).2 = (p, sources) := by
  cases request with
  | band index asked =>
      simp only [Product.serve]
      cases found : p.bands[index]? with
      | none => rfl
      | some band =>
          have other : asked ≠ .reset := by simpa [ProductRequest.resets] using idle index
          have hband := h band (List.mem_of_getElem? found)
          simp only [hband.serve_of_ne_reset sources other, set_of_getElem? found]
  | physical index level =>
      simp only [Product.serve]
      cases found : p.bands[index]? with
      | none => rfl
      | some band =>
          have hband := h band (List.mem_of_getElem? found)
          simp only [Band.physicalImage, Band.image, Mosaic.image_of_disposed hband.disposed,
            set_of_getElem? found]
  | reset => cases idle 0
  | dispose => rw [Product.serve, h.dispose]

/-- Any requests to a disposed product. -/
theorem serveAll (sources : Vector S n) (requests : List ProductRequest) :
    (p.serveAll sources requests).1 =
        requests.map (ProductRequest.refusal p.bands.length) ∧
      (p.serveAll sources requests).2.1.Retired ∧
      (p.serveAll sources requests).2.1.plans = p.plans ∧
      (p.serveAll sources requests).2.2 =
        Mosaic.releaseSources (requests.flatMap (ProductRequest.releasing p.plans)) sources := by
  induction requests generalizing p sources with
  | nil => exact ⟨rfl, h, rfl, rfl⟩
  | cons request rest ih =>
      obtain ⟨reply, retired, plan, released⟩ := h.serve sources request
      obtain ⟨replies, retired, plans, releasedAll⟩ := ih retired (p.serve sources request).2.2
      have count : (p.serve sources request).2.1.bands.length = p.bands.length := by
        simpa [Product.plans] using congrArg List.length plan
      refine ⟨?_, retired, plans.trans plan, ?_⟩
      · rw [count] at replies
        exact congr (congrArg List.cons reply) replies
      · rw [List.flatMap_cons, releaseSources_append, ← released, ← plan]
        exact releasedAll

end Retired

theorem plans_dispose (p : Product K n) (sources : Vector S n) :
    (p.dispose sources).1.plans = p.plans :=
  plans_stepBands (fun m met => (Mosaic.kept_plan m.plan).dispose m met rfl) sources

/-- Disposal is final, for a mosaic and for a product whose bands may have been disposed of one by
one before. Whatever is asked afterwards, levels are refused, nothing is held or fetched, and only
resets still act: each releases the source of every component it is for once, and nothing else is
released. -/
theorem disposal_is_final [CrsRegistry] [Scalar K] [DecidableLT K] :
    (∀ m : Mosaic K n, Mosaic.Reachable (Counted S) m →
      ∀ (start : Vector (Counted S) n) (rest : List Request),
      let disposed := m.dispose start
      let run := disposed.1.serveAll disposed.2 rest
      let now := run.2.1
      let sources := run.2.2
      run.1 = rest.map Request.refusal ∧
      now.disposed = true ∧ now.heldLevels = 0 ∧
      (∀ request, request ≠ .reset → (now.serve sources request).2 = (now, sources)) ∧
      (∀ k, (sources.get k).fetches = (start.get k).fetches ∧
        (sources.get k).releases = (disposed.2.get k).releases +
          rest.count .reset * (m.plan.placements.map Placement.source).count k) ∧
      ((m.plan.placements.map Placement.source).Nodup → ∀ c ∈ m.plan.placements,
        (sources.get c.source).releases =
          (disposed.2.get c.source).releases + rest.count .reset)) ∧
    ∀ p : Product K n, Reachable (Counted S) p →
      ∀ (start : Vector (Counted S) n) (rest : List ProductRequest),
      let disposed := p.dispose start
      let run := disposed.1.serveAll disposed.2 rest
      let now := run.2.1
      let sources := run.2.2
      run.1 = rest.map (ProductRequest.refusal p.bands.length) ∧
      (∀ band ∈ now.bands, band.mosaic.disposed = true ∧ band.mosaic.heldLevels = 0) ∧
      (∀ request, (∀ index, ProductRequest.resets index request = false) →
        (now.serve sources request).2 = (now, sources)) ∧
      (∀ k, (sources.get k).fetches = (start.get k).fetches ∧
        (sources.get k).releases = (disposed.2.get k).releases +
          ((rest.flatMap (ProductRequest.releasing p.plans)).map Placement.source).count k) ∧
      (((p.plans.flatMap MosaicPlan.placements).map Placement.source).Nodup →
        ∀ index plan, p.plans[index]? = some plan → ∀ c ∈ plan.placements,
        (sources.get c.source).releases = (disposed.2.get c.source).releases +
          rest.countP (ProductRequest.resets index)) := by
  constructor
  · intro m reachable start rest disposed run now sources
    have retired : disposed.1.Retired :=
      (reachable.serve start .dispose).retired (Mosaic.disposed_dispose m start)
    have plan : disposed.1.plan = m.plan := (Mosaic.kept_plan m.plan).dispose m start rfl
    obtain ⟨replies, last, _, released⟩ := retired.serveAll disposed.2 rest
    have counts : ∀ k, (sources.get k).releases = (disposed.2.get k).releases +
        rest.count .reset * (m.plan.placements.map Placement.source).count k := fun k => by
      rw [← MosaicPlan.count_releasedBy, ← plan, ← releases_releaseSources, ← released]
    refine ⟨replies, last.disposed, last.heldLevels, ?_, fun k => ⟨?_, counts k⟩, ?_⟩
    · intro request other
      rw [last.serve_of_ne_reset sources other]
    · rw [show sources = _ from released, fetches_releaseSources]
      exact Mosaic.fetches_dispose m start k
    · intro distinct c mem
      rw [counts, List.count_eq_one_of_mem distinct (List.mem_map_of_mem mem), Nat.mul_one]
  · intro p reachable start rest disposed run now sources
    have retired : disposed.1.Retired := reachable.retired_dispose start
    have plan : disposed.1.plans = p.plans := p.plans_dispose start
    have length : disposed.1.bands.length = p.bands.length := by
      simpa [plans] using congrArg List.length plan
    obtain ⟨replies, last, _, released⟩ := retired.serveAll disposed.2 rest
    have counts : ∀ k, (sources.get k).releases = (disposed.2.get k).releases +
        ((rest.flatMap (ProductRequest.releasing p.plans)).map Placement.source).count k :=
      fun k => by rw [← plan, ← releases_releaseSources, ← released]
    refine ⟨length ▸ replies, fun band hmem => ?_, fun request idle => ?_,
      fun k => ⟨?_, counts k⟩, ?_⟩
    · exact ⟨(last band hmem).disposed, (last band hmem).heldLevels⟩
    · exact last.serve_idle sources idle
    · rw [show sources = _ from released, fetches_releaseSources]
      exact stepBands_invariant (fun met => (met.get k).fetches)
        (fun m met => Mosaic.fetches_dispose m met k) start
    · intro distinct index plan found c mem
      rw [counts, count_flatMap_releasing distinct found mem]

section Twins
open Mosaic

def plainDescription (name : String) : BandDescription Rat where
  name := name
  unit := none
  summary := none
  scalingFactor := 1
  scalingOffset := 0
  noData := none
  spectralIndex := none
  wavelength := none
  reference := ⟨⟨0, 0⟩, none, none, ⟨0, 0⟩⟩

def plainScene : SceneReference Rat := ⟨⟨3, 2⟩, none, none, none, ⟨0, 0⟩⟩

def twinSources : Vector (Counted ListedSource) 2 :=
  #v[countedSources.get ⟨0, Nat.two_pos⟩, countedSources.get ⟨0, Nat.two_pos⟩]

/-- The mosaic of one source, the size of the scene, as it is created. -/
def plainMosaic (source : Fin 2) : Mosaic Rat 2 :=
  fresh
    { placements := [⟨source, 0, 0⟩]
      geometry := ⟨3, ⟨3, 2⟩, .identity, .identity⟩
      tileSize := ⟨3, 2⟩
      noData := (LevelSource.noData (twinSources.get source)).map Sample.narrow
      config := {} }

theorem create_plain (source : Fin 2) :
    Mosaic.create twinSources [⟨source, 0, 0⟩] ⟨3, 2⟩ ⟨3, 2⟩ 3 Affine.identity {} =
      .ok (plainMosaic source) :=
  create_eq_ok_iff.mpr
    ⟨_, _, _, rfl, rfl, rfl, LevelGeometry.create_eq_ok_iff.mpr
      ⟨by decide, rfl, _, Affine.inverse_identity, rfl⟩, rfl⟩

def plainBand (name : String) (source : Fin 2) : Band Rat 2 where
  description := (plainDescription name).withSize ⟨3, 2⟩
  geocoding := .absent
  imageToModel := .identity
  mosaic := (plainMosaic source).withNoData (some (-1))

theorem bandOf_plain [CrsRegistry] (name : String) (k : Fin 2) :
    bandOf plainScene none {} twinSources ⟨plainDescription name, k⟩ =
      .ok (plainBand name k) := by
  match k with
  | 0 | 1 =>
    simp only [bandOf, bind_eq_ok_iff, mapError_eq_ok_iff]
    exact ⟨⟨3, 2⟩, rfl, _, create_plain _, rfl⟩

def twins : Product Rat 2 :=
  ⟨"twins", ⟨3, 2⟩, none,
    [plainBand "first" ⟨0, Nat.two_pos⟩, plainBand "second" ⟨1, Nat.one_lt_two⟩]⟩

theorem build_twins [CrsRegistry] :
    build "twins" plainScene
      [⟨plainDescription "first", 0⟩, ⟨plainDescription "second", 1⟩] {} twinSources =
        .ok twins := by
  have bands : List.mapM (bandOf plainScene none {} twinSources)
      [⟨plainDescription "first", 0⟩, ⟨plainDescription "second", 1⟩] =
        .ok [plainBand "first" 0, plainBand "second" 1] := by
    simp only [List.mapM_cons, List.mapM_nil, bandOf_plain]
    rfl
  exact congrArg (Except.map (Product.mk "twins" ⟨3, 2⟩ none)) bands

/-- A mosaic of two components, and a product one band of which was disposed of before it. -/
theorem disposal_is_final_twins :
    (let disposed := unevenScene.dispose countedSources
      let run := disposed.1.serveAll disposed.2
        [.image 9, .prefetch, .reset, .dispose, .tile 0 0 0, .reset]
      run.1 = [.raster (.error (.error .disposed)), .rasters (.error (.error .disposed)), .done,
        .done, .raster (.error (.error .disposed)), .done] ∧
      run.2.1.heldLevels = 0 ∧
      ∀ c ∈ unevenScene.plan.placements, (run.2.2.get c.source).fetches = [] ∧
        (run.2.2.get c.source).releases = (disposed.2.get c.source).releases + 2) ∧
    let early := (twins.serve twinSources (.band 0 .dispose)).2
    let disposed := early.1.dispose early.2
    let run := disposed.1.serveAll disposed.2
      [.physical 0 0, .band 1 (.image 0), .band 2 .reset, .reset, .band 1 .reset]
    run.1 = [some (.raster (.error (.error .disposed))),
      some (.raster (.error (.error .disposed))), none, some .done, some .done] ∧
    (∀ band ∈ run.2.1.bands, band.mosaic.disposed = true ∧ band.mosaic.heldLevels = 0) ∧
    (run.2.2.get 0).releases = (disposed.2.get 0).releases + 1 ∧
    (run.2.2.get 1).releases = (disposed.2.get 1).releases + 2 := by
  obtain ⟨mosaics, products⟩ :=
    disposal_is_final (K := Rat) (S := ListedSource) (n := 2)
  constructor
  · obtain ⟨replies, _, held, _, counts, once⟩ := mosaics unevenScene
      (.built (.create create_unevenScene_counted)) countedSources
      [.image 9, .prefetch, .reset, .dispose, .tile 0 0 0, .reset]
    refine ⟨replies, held, fun c mem => ⟨?_, once (by decide) c mem⟩⟩
    exact (counts c.source).1.trans (countedSources_unused c.source).1
  · obtain ⟨replies, held, _, counts, _⟩ := products _
      ((Reachable.built build_twins).serve twinSources (.band 0 .dispose))
      (twins.serve twinSources (.band 0 .dispose)).2.2
      [.physical 0 0, .band 1 (.image 0), .band 2 .reset, .reset, .band 1 .reset]
    exact ⟨replies, held, (counts 0).2, (counts 1).2⟩

end Twins

end Product
end RasterMosaic
