import RasterMosaic.Proofs.Mosaic.Image
import RasterMosaic.Proofs.Mosaic.Rounds
import RasterMosaic.Proofs.Pyramid.History
import RasterMosaic.Proofs.Source.Counted

/-!
What requests cost. A mosaic works on its sources by calls on its level store only, so what is
fetched and released follows from the history of that store: a level is fetched when it has had
no success since the last reset, once from every source, and never else.
-/

namespace RasterMosaic

/-- The level that a request is for. -/
def Request.level? : Request → Option Nat
  | .image level | .tile level _ _ => some level
  | .prefetch | .reset | .dispose => none

namespace Mosaic

variable {K S : Type} {n : Nat}

/-- A session on the store of a mosaic, over its sources. -/
structure Mirrored (m : Mosaic K n) (sources : Vector S n)
    (s : LevelStore.Session (Raster Float32) (Vector S n)) : Prop where
  store : s.store = m.store
  state : s.state = sources
  faithful : s.Faithful m.plan.geometry.levelCount

theorem mirrored_fresh (plan : MosaicPlan K n) (start : Vector S n) :
    Mirrored (fresh plan) start (.start plan.geometry.levelCount start) :=
  ⟨rfl, rfl, .start _ start⟩

namespace Mirrored
variable {m : Mosaic K n} {sources : Vector S n} {level : Nat}
  {s : LevelStore.Session (Raster Float32) (Vector S n)} (h : Mirrored m sources s)

include h

theorem get?_eq_none_iff : m.store.get? level = none ↔ level ∉ s.history.levels := by
  rw [History.mem_levels_iff, ← h.faithful.first, h.store, Option.not_isSome_iff_eq_none]

theorem heldLevels : m.heldLevels = s.history.levels.card := by
  rw [← h.faithful.heldCount, h.store]
  rfl

end Mirrored

variable [LevelSource S]

/-- What a request other than a prefetch calls on the level store. -/
def call? (m : Mosaic K n) : Request → Option (LevelStore.Call (Raster Float32) (Vector S n))
  | .image level | .tile level _ _ =>
      if m.disposed = true ∨ m.plan.geometry.levelCount ≤ level then none
      else some (.ensure level (m.plan.computeLevel level))
  | .prefetch => none
  | .reset => some (.resetWith fun _ => releaseSources m.plan.placements)
  | .dispose =>
      if m.disposed = true then none
      else some (.resetWith fun _ => releaseSources m.plan.placements)

/-- The calls on the level store that requests made one after the other come to. -/
def calls (m : Mosaic K n) (sources : Vector S n) :
    List Request → List (LevelStore.Call (Raster Float32) (Vector S n))
  | [] => []
  | request :: rest =>
      let (_, later, after) := m.serve sources request
      (m.call? request).toList ++ later.calls after rest

section Serve

theorem serveAll_cons (m : Mosaic K n) (sources : Vector S n) (request : Request)
    (rest : List Request) :
    (m.serveAll sources (request :: rest)).2 =
      ((m.serve sources request).2.1.serveAll (m.serve sources request).2.2 rest).2 := rfl

theorem calls_cons (m : Mosaic K n) (sources : Vector S n) (request : Request)
    (rest : List Request) :
    m.calls sources (request :: rest) =
      (m.call? request).toList ++
        (m.serve sources request).2.1.calls (m.serve sources request).2.2 rest := rfl

variable {m : Mosaic K n} {sources : Vector S n} {request : Request} {level : Nat}

theorem sources_serve_of_level? (h : request.level? = some level) :
    (m.serve sources request).2.2 = (m.image level sources).2.2 := by
  cases request with
  | image _ | tile _ _ _ =>
      cases h
      rfl
  | prefetch | reset | dispose => cases h

theorem call?_of_level? (h : request.level? = some level) :
    m.call? (S := S) request =
      if m.disposed = true ∨ m.plan.geometry.levelCount ≤ level then none
      else some (.ensure level (m.plan.computeLevel level)) := by
  cases request with
  | image _ | tile _ _ _ =>
      cases h
      rfl
  | prefetch | reset | dispose => cases h

theorem disposed_serve (single : request ≠ .prefetch) :
    (m.serve sources request).2.1.disposed = (m.disposed || decide (request = .dispose)) := by
  cases request with
  | image _ | tile _ _ _ => simp [serve, tile]
  | prefetch => exact absurd rfl single
  | reset => simp [serve, reset]
  | dispose =>
      cases active : m.disposed <;> simp [serve, dispose, active, reset]

theorem disposed_serveAll {requests : List Request} (single : .prefetch ∉ requests) :
    (m.serveAll sources requests).2.1.disposed = true ↔
      m.disposed = true ∨ .dispose ∈ requests := by
  induction requests generalizing m sources with
  | nil => simp [serveAll]
  | cons request rest ih =>
      have hhead := (List.ne_of_not_mem_cons single).symm
      have hrest := List.not_mem_of_not_mem_cons single
      rw [serveAll_cons, ih hrest, disposed_serve hhead, List.mem_cons, Bool.or_eq_true,
        decide_eq_true_iff, or_assoc, @eq_comm _ request]

theorem calls_append (first second : List Request) :
    m.calls sources (first ++ second) =
      m.calls sources first ++
        (m.serveAll sources first).2.1.calls (m.serveAll sources first).2.2 second := by
  induction first generalizing m sources with
  | nil => rfl
  | cons request rest ih =>
      rw [List.cons_append, calls_cons, calls_cons, serveAll_cons, ih, List.append_assoc]

end Serve

section Releases
variable {m : Mosaic K n} {sources : Vector (Counted S) n} {p : Placement n}

theorem releases_image (level : Nat) (k : Fin n) :
    ((m.image level sources).2.2.get k).releases = (sources.get k).releases := by
  obtain same | fetched : (m.image level sources).2.2 = sources ∨ _ := sources_image_cases
  · rw [same]
  · obtain ⟨asked, round, _⟩ := snd_fetchLevel level m.plan.placements sources
    rw [fetched, round]
    exact get_afterRound_invariant (fun s => Counted.releases_fetch s level) k

variable (distinct : (m.plan.placements.map Placement.source).Nodup)
  (mem : p ∈ m.plan.placements)

include distinct mem

theorem releases_reset :
    ((m.reset sources).2.get p.source).releases = (sources.get p.source).releases + 1 := by
  have once := List.count_eq_one_of_mem distinct (List.mem_map_of_mem mem)
  exact (releases_releaseSources sources p.source).trans (congrArg _ once)

theorem releases_serve {request : Request} (single : request ≠ .prefetch) :
    ((m.serve sources request).2.2.get p.source).releases = (sources.get p.source).releases +
      if request = .reset ∨ request = .dispose ∧ m.disposed = false then 1 else 0 := by
  cases request with
  | image level | tile level _ _ => exact releases_image level p.source
  | prefetch => exact absurd rfl single
  | reset => exact releases_reset distinct mem
  | dispose =>
      cases active : m.disposed with
      | true => simp [serve, dispose, active]
      | false =>
          simp only [serve, dispose, active, Bool.false_eq_true, if_false, and_self, or_true,
            if_true]
          exact releases_reset (m := { m with disposed := true }) distinct mem

/-- Each reset releases a source once, and so does the first disposal. -/
theorem releases_serveAll {requests : List Request} (single : .prefetch ∉ requests) :
    ((m.serveAll sources requests).2.2.get p.source).releases =
      (sources.get p.source).releases + requests.count .reset +
        if m.disposed = false ∧ .dispose ∈ requests then 1 else 0 := by
  induction requests generalizing m sources with
  | nil => simp [serveAll]
  | cons request rest ih =>
      have hhead := (List.ne_of_not_mem_cons single).symm
      have hrest := List.not_mem_of_not_mem_cons single
      have hplan := (kept_plan m.plan).serve request m sources rfl
      rw [serveAll_cons, ih (hplan ▸ distinct) (hplan ▸ mem) hrest,
        releases_serve distinct mem hhead, disposed_serve hhead, List.count_cons]
      simp only [List.mem_cons]
      cases request with
      | image _ | tile _ _ _ => simp
      | prefetch => exact absurd rfl hhead
      | reset =>
          simp
          omega
      | dispose =>
          cases m.disposed with
          | true => simp
          | false =>
              simp
              omega

end Releases

namespace Mirrored
variable {m : Mosaic K n} {sources : Vector S n} {request : Request} {level : Nat}
  {s : LevelStore.Session (Raster Float32) (Vector S n)} (h : Mirrored m sources s)

include h

/-- A level that is refused or held costs nothing. -/
theorem image_settled (hlevel : request.level? = some level)
    (settled : m.disposed = true ∨ m.plan.geometry.levelCount ≤ level ∨
      level ∈ s.history.levels) :
    m.image level sources = ((m.image level sources).1, m, sources) ∧
      s.after (m.call? request).toList = s := by
  by_cases refused : m.disposed = true ∨ m.plan.geometry.levelCount ≤ level
  · rw [call?_of_level? hlevel, if_pos refused]
    refine ⟨?_, rfl⟩
    cases disposed : m.disposed with
    | true => rw [image_of_disposed disposed]
    | false => rw [image_of_outside disposed (refused.resolve_left (by simp [disposed]))]
  · rw [call?_of_level? hlevel, if_neg refused]
    obtain ⟨active, inRange⟩ := not_or.mp refused
    have held := (settled.resolve_left active).resolve_left inRange
    rw [History.mem_levels_iff, ← h.faithful.first, Option.isSome_iff_exists] at held
    obtain ⟨image, hheld⟩ := held
    rw [image_of_inRange (Bool.not_eq_true _ ▸ active) (Nat.not_le.mp inRange),
      LevelStore.ensure_of_held (h.store ▸ hheld)]
    exact ⟨rfl, congrArg Prod.snd (LevelStore.Session.serve_ensure_of_held _ hheld)⟩

/-- A level that is neither is computed, and the session tells the outcome. -/
theorem image_due (hlevel : request.level? = some level) (active : m.disposed = false)
    (inRange : level < m.plan.geometry.levelCount) (due : level ∉ s.history.levels) :
    (m.image level sources).2.2 = (fetchLevel level m.plan.placements sources).2 ∧
      (s.after (m.call? request).toList).history =
        .computed level (m.image level sources).1 :: s.history := by
  have refused : ¬ (m.disposed = true ∨ m.plan.geometry.levelCount ≤ level) := by
    simp [active, inRange]
  have missing := h.get?_eq_none_iff.mpr due
  have hslot : level < m.store.levelCount := by
    rwa [← h.store, h.faithful.levels]
  obtain ⟨store, served, _⟩ := LevelStore.Session.serve_ensure_of_missing
    (m.plan.computeLevel level) (h.store ▸ hslot) (h.store ▸ missing)
  rw [call?_of_level? hlevel, if_neg refused, image_of_inRange active inRange,
    LevelStore.fst_ensure_of_missing hslot missing]
  refine ⟨LevelStore.state_ensure_of_missing hslot missing, ?_⟩
  rw [← h.state]
  exact congrArg (fun answered => answered.2.history) served

theorem image (hlevel : request.level? = some level) :
    Mirrored (m.image level sources).2.1 (m.image level sources).2.2
      (s.after (m.call? request).toList) := by
  by_cases refused : m.disposed = true ∨ m.plan.geometry.levelCount ≤ level
  · obtain ⟨same, after⟩ := h.image_settled hlevel (refused.imp_right .inl)
    rwa [same, after]
  · obtain ⟨active, inRange⟩ := not_or.mp refused
    rw [call?_of_level? hlevel, if_neg refused,
      image_of_inRange (Bool.not_eq_true _ ▸ active) (Nat.not_le.mp inRange)]
    have carried := LevelStore.Session.store_state_serve_ensure s level
      (m.plan.computeLevel level)
    rw [h.store, h.state] at carried
    exact ⟨congrArg Prod.fst carried, congrArg Prod.snd carried, h.faithful.serve _⟩

theorem reset :
    Mirrored (m.reset sources).1 (m.reset sources).2
      (s.after [.resetWith fun _ => releaseSources m.plan.placements]) :=
  ⟨congrArg LevelStore.reset h.store, congrArg (releaseSources m.plan.placements) h.state,
    h.faithful.serve _⟩

/-- The session goes through a request's calls as the mosaic does. -/
theorem serve (single : request ≠ .prefetch) :
    Mirrored (m.serve sources request).2.1 (m.serve sources request).2.2
      (s.after (m.call? request).toList) := by
  cases request with
  | image level | tile level _ _ => exact h.image rfl
  | prefetch => exact absurd rfl single
  | reset => exact h.reset
  | dispose =>
      cases active : m.disposed with
      | true => simpa [Mosaic.serve, dispose, call?, active, LevelStore.Session.after] using h
      | false =>
          have marked : Mirrored { m with disposed := true } sources s :=
            ⟨h.store, h.state, h.faithful⟩
          simpa [Mosaic.serve, dispose, call?, active] using marked.reset

theorem serveAll {requests : List Request} (single : .prefetch ∉ requests) :
    Mirrored (m.serveAll sources requests).2.1 (m.serveAll sources requests).2.2
      (s.after (m.calls sources requests)) := by
  induction requests generalizing m sources s with
  | nil => exact h
  | cons request rest ih =>
      have hhead := (List.ne_of_not_mem_cons single).symm
      have hrest := List.not_mem_of_not_mem_cons single
      rw [serveAll_cons, calls_cons, LevelStore.Session.after, List.foldl_append]
      exact ih (h.serve hhead) hrest

end Mirrored

section Fetches
variable {m : Mosaic K n} {sources : Vector (Counted S) n} {level : Nat}
  (distinct : (m.plan.placements.map Placement.source).Nodup)
  (answered : ∀ p ∈ m.plan.placements, LevelSource.Answers (sources.get p.source) level)

include distinct answered

theorem answers_turns_of_distinct :
    ∀ turn ∈ turns level m.plan.placements sources, LevelSource.Answers turn.source level := by
  rw [turns_of_distinct distinct]
  intro turn hmem
  obtain ⟨p, hp, rfl⟩ := List.mem_map.mp hmem
  exact answered p hp

theorem fetches_fetchLevel {p : Placement n} (mem : p ∈ m.plan.placements) :
    ((fetchLevel level m.plan.placements sources).2.get p.source).fetches =
      level :: (sources.get p.source).fetches := by
  obtain ⟨asked, round, all⟩ := snd_fetchLevel level m.plan.placements sources
  obtain rfl := all (answers_turns_of_distinct distinct answered)
  rw [round, get_afterRound distinct mem, Counted.fetches_fetch]

end Fetches

/-- A request that is for no level fetches nothing. -/
theorem fetches_serve_of_no_level (m : Mosaic K n) (sources : Vector (Counted S) n)
    {request : Request} (single : request ≠ .prefetch) (none : request.level? = none)
    (k : Fin n) :
    ((m.serve sources request).2.2.get k).fetches = (sources.get k).fetches := by
  cases request with
  | image _ | tile _ _ _ => cases none
  | prefetch => exact absurd rfl single
  | reset => exact fetches_releaseSources sources k
  | dispose =>
      simp only [serve, dispose]
      split
      · rfl
      · exact fetches_releaseSources sources k

theorem Mirrored.fetches_due {m : Mosaic K n} {sources : Vector (Counted S) n}
    {s : LevelStore.Session (Raster Float32) (Vector (Counted S) n)} {request : Request}
    {level : Nat} (h : Mirrored m sources s) (valid : m.Valid)
    (distinct : (m.plan.placements.map Placement.source).Nodup)
    (hlevel : request.level? = some level) (active : m.disposed = false)
    (inRange : level < m.plan.geometry.levelCount) (due : level ∉ s.history.levels)
    (answered : ∀ p ∈ m.plan.placements, LevelSource.Answers (sources.get p.source) level) :
    let after := (m.serve sources request).2.2
    let done' := (s.after (m.call? request).toList).history.levels
    (∀ p ∈ m.plan.placements,
      (after.get p.source).fetches = level :: (sources.get p.source).fetches) ∧
    ((∃ p ∈ m.plan.placements, Turn.Overhangs m.plan level ⟨p, sources.get p.source⟩) →
      done' = s.history.levels ∧ ∃ extent, (m.image level sources).1 =
        .error (.error (.compositeTooLarge level extent
          (.sized (m.plan.geometry.size.atLevel level))))) ∧
    ((∀ p ∈ m.plan.placements, ¬ Turn.Overhangs m.plan level ⟨p, sources.get p.source⟩) →
      done' = insert level s.history.levels ∧
        ∃ image, (m.image level sources).1 = .ok image) := by
  intro after done'
  obtain ⟨fetched, noted⟩ := h.image_due hlevel active inRange due
  have missing := h.get?_eq_none_iff.mpr due
  have hturns := answers_turns_of_distinct distinct answered
  refine ⟨fun p hp => ?_, ?_, ?_⟩
  · rw [show after = _ from (sources_serve_of_level? hlevel).trans fetched]
    exact fetches_fetchLevel distinct answered hp
  · rintro ⟨p, hp, hangs⟩
    have hmem : ⟨p, sources.get p.source⟩ ∈ turns level m.plan.placements sources := by
      rw [turns_of_distinct distinct]
      exact List.mem_map_of_mem hp
    obtain ⟨extent, large⟩ := image_of_overhang valid active inRange missing hturns hmem hangs
    refine ⟨?_, extent, large⟩
    simp only [done', noted, large, History.levels_computed_error]
  · intro within
    have hwithin : ∀ turn ∈ turns level m.plan.placements sources,
        ¬ turn.Overhangs m.plan level := by
      rw [turns_of_distinct distinct]
      intro turn hmem
      obtain ⟨p, hp, rfl⟩ := List.mem_map.mp hmem
      exact within p hp
    obtain ⟨image, computed, _⟩ :=
      image_of_no_overhang valid active inRange missing hturns hwithin
    refine ⟨?_, image, computed⟩
    simp only [done', noted, computed, History.levels_computed_ok]

/-- The account of a mosaic over distinct sources, after any requests but prefetches. It holds
the levels with a success since the last reset, has released each source once for each reset and
once for the first disposal, and fetches a level exactly when it is asked for one that it has and
that had no success: then once from each source, whatever some of them answer. Only an image that
is too large is not held, and is fetched for again. -/
theorem fetches_and_releases [Scalar K] [DecidableLT K] {m : Mosaic K n}
    (built : Built (Counted S) m) (distinct : (m.plan.placements.map Placement.source).Nodup)
    (start : Vector (Counted S) n) {requests : List Request} (single : .prefetch ∉ requests) :
    let levelCount := m.plan.geometry.levelCount
    let placements := m.plan.placements
    let now := (m.serveAll start requests).2.1
    let sources := (m.serveAll start requests).2.2
    let session (requests : List Request) :=
      (LevelStore.Session.start levelCount start).after (m.calls start requests)
    let done := (session requests).history.levels
    (session requests).store = now.store ∧ (session requests).state = sources ∧
    now.heldLevels = done.card ∧
    (now.disposed = true ↔ .dispose ∈ requests) ∧
    (∀ p ∈ placements, (sources.get p.source).releases =
      (start.get p.source).releases + requests.count .reset +
        if .dispose ∈ requests then 1 else 0) ∧
    ∀ request, request ≠ .prefetch →
      let after := (now.serve sources request).2.2
      let done' := (session (requests ++ [request])).history.levels
      (request.level? = none → ∀ k, (after.get k).fetches = (sources.get k).fetches) ∧
      ∀ level, request.level? = some level →
        (.dispose ∈ requests ∨ levelCount ≤ level ∨ level ∈ done →
          after = sources ∧ done' = done) ∧
        (.dispose ∉ requests → level < levelCount → level ∉ done →
          (∀ p ∈ placements, LevelSource.Answers (sources.get p.source) level) →
          (∀ p ∈ placements,
            (after.get p.source).fetches = level :: (sources.get p.source).fetches) ∧
          ((∃ p ∈ placements, Turn.Overhangs m.plan level ⟨p, sources.get p.source⟩) →
            done' = done ∧ ∃ extent, (now.image level sources).1 =
              .error (.error (.compositeTooLarge level extent
                (.sized (m.plan.geometry.size.atLevel level))))) ∧
          ((∀ p ∈ placements, ¬ Turn.Overhangs m.plan level ⟨p, sources.get p.source⟩) →
            done' = insert level done ∧ ∃ image, (now.image level sources).1 = .ok image)) := by
  intro levelCount placements now sources session done
  have hstart : Mirrored m start (.start levelCount start) := by
    have hfresh := mirrored_fresh m.plan start
    rwa [← built.eq_fresh] at hfresh
  have mirrored : Mirrored now sources (session requests) := hstart.serveAll single
  have hplan : now.plan = m.plan := (kept_plan m.plan).serveAll requests m start rfl
  have active : m.disposed = false := by
    rw [built.eq_fresh]
    rfl
  have hdisposed : now.disposed = true ↔ .dispose ∈ requests := by
    rw [disposed_serveAll single, active]
    simp
  have valid : now.Valid :=
    kept_valid.serveAll requests m start (built.eq_fresh ▸ valid_fresh _)
  refine ⟨mirrored.store, mirrored.state, mirrored.heldLevels, hdisposed, ?_, ?_⟩
  · intro p hp
    rw [releases_serveAll distinct hp single]
    simp [active]
  intro request hrequest after done'
  have hsession : session (requests ++ [request]) =
      (session requests).after (now.call? request).toList := by
    simp only [session, calls_append, LevelStore.Session.after, List.foldl_append]
    rw [calls_cons, calls, List.append_nil]
  refine ⟨fetches_serve_of_no_level now sources hrequest, fun level hlevel => ⟨?_, ?_⟩⟩
  · intro settled
    rw [← hdisposed] at settled
    obtain ⟨same, unchanged⟩ := mirrored.image_settled hlevel (hplan ▸ settled)
    refine ⟨?_, ?_⟩
    · exact (sources_serve_of_level? hlevel).trans (congrArg (·.2.2) same)
    · simp only [done', hsession, unchanged, done]
  · intro kept inRange due answered
    have hactive : now.disposed = false := by
      rwa [← Bool.not_eq_true, hdisposed]
    have account := mirrored.fetches_due valid (hplan ▸ distinct) hlevel hactive
      (hplan ▸ inRange) due (hplan ▸ answered)
    rw [hplan, ← hsession] at account
    exact account

def countedSources : Vector (Counted ListedSource) 2 :=
  #v[{ source := unevenSources.get ⟨0, Nat.two_pos⟩ },
    { source := unevenSources.get ⟨1, Nat.one_lt_two⟩ }]

theorem create_unevenScene_counted :
    create countedSources [⟨0, 0, 0⟩, ⟨1, 3, 3⟩] ⟨5, 4⟩ ⟨2, 2⟩ 3 Affine.identity {} =
      .ok unevenScene :=
  create_eq_ok_iff.mpr
    ⟨_, _, _, rfl, rfl, rfl, LevelGeometry.create_eq_ok_iff.mpr
      ⟨by decide, rfl, _, Affine.inverse_identity, rfl⟩, rfl⟩

theorem countedSources_unused (k : Fin 2) :
    (countedSources.get k).fetches = [] ∧ (countedSources.get k).releases = 0 := by
  match k with
  | 0 | 1 => exact ⟨rfl, rfl⟩

/-- The third level is too large and not held. The second is held, though a source fails for it,
and is not fetched again. -/
theorem fetches_and_releases_uneven :
    let placements := unevenScene.plan.placements
    let after (requests : List Request) := (unevenScene.serveAll countedSources requests).2
    ((∀ p ∈ placements, ((after [.image 2]).2.get p.source).fetches = [2]) ∧
      (after [.image 2]).1.heldLevels = 0) ∧
    ((∀ p ∈ placements, ((after [.tile 1 0 0]).2.get p.source).fetches = [1]) ∧
      (after [.tile 1 0 0]).1.heldLevels = 1) ∧
    (after [.tile 1 0 0, .image 1]).2 = (after [.tile 1 0 0]).2 ∧
    ∀ p ∈ placements, ((after [.reset, .dispose, .dispose]).2.get p.source).releases = 2 := by
  intro placements after
  have account (requests : List Request) (single : .prefetch ∉ requests) :=
    fetches_and_releases (.create create_unevenScene_counted) (by decide) countedSources single
  have answered (level : Nat) : ∀ p ∈ placements,
      LevelSource.Answers (countedSources.get p.source) level :=
    fun p _ => answers_listed (countedSources.get p.source).source level
  obtain ⟨_, _, _, _, _, next⟩ := account [] (by decide)
  obtain ⟨fetched2, large, _⟩ := ((next (.image 2) (by decide)).2 2 rfl).2 (by decide) (by decide)
    (by decide) (answered 2)
  obtain ⟨fetched1, _, fits⟩ := ((next (.tile 1 0 0) (by decide)).2 1 rfl).2 (by decide)
    (by decide) (by decide) (answered 1)
  obtain ⟨_, _, held2, _⟩ := account [.image 2] (by decide)
  obtain ⟨_, _, held1, _, _, again⟩ := account [.tile 1 0 0] (by decide)
  obtain ⟨_, _, _, _, released, _⟩ := account [.reset, .dispose, .dispose] (by decide)
  have unheld := (large ⟨_, List.mem_cons_self, _, rfl, rfl, .inl (by decide)⟩).1
  have within : ∀ p ∈ unevenScene.plan.placements,
      ¬ Turn.Overhangs unevenScene.plan 1 ⟨p, countedSources.get p.source⟩ := by
    rintro p hmem ⟨image, hanswer, _, hedge⟩
    cases hmem with
    | head =>
        cases hanswer
        revert hedge
        decide
    | tail _ htail =>
        cases htail with
        | head => cases hanswer
        | tail _ hnone => cases hnone
  have hheld := (fits within).1
  refine ⟨⟨?_, ?_⟩, ⟨?_, ?_⟩, ?_, ?_⟩
  · intro p hp
    exact (fetched2 p hp).trans (congrArg _ (countedSources_unused p.source).1)
  · exact held2.trans (congrArg Finset.card unheld)
  · intro p hp
    exact (fetched1 p hp).trans (congrArg _ (countedSources_unused p.source).1)
  · exact held1.trans (congrArg Finset.card hheld)
  · exact (((again (.image 1) (by decide)).2 1 rfl).1
      (.inr (.inr ((Finset.ext_iff.mp hheld 1).mpr (Finset.mem_insert_self 1 _))))).1
  · intro p hp
    rw [released p hp, (countedSources_unused p.source).2]
    decide

end Mosaic
end RasterMosaic
