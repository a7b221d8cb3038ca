import RasterMosaic.Mosaic.Level
import RasterMosaic.Proofs.Except
import RasterMosaic.Proofs.Source.Conduct

/-!
Who is asked what when a level is computed. The placements take turns; a source that several of
them share is met in the state its earlier turns left it in. The tiles of a level follow from
the turns, each placement adding at most one.
-/

namespace RasterMosaic

/-- A placement with its source as it is when the placement's turn comes. -/
structure Turn (S : Type) (n : Nat) where
  placement : Placement n
  source : S

variable {K S : Type} {n : Nat} [LevelSource S]

def turns (level : Nat) : List (Placement n) → Vector S n → List (Turn S n)
  | [], _ => []
  | placement :: rest, sources =>
      let source := sources.get placement.source
      ⟨placement, source⟩ ::
        turns level rest
          (LevelSource.put sources placement.source (LevelSource.fetch source level).2)

/-- The tile of one turn. An image lies at the offset of its placement on the level, with the
no-data value of its source. A failure leaves a filler without one, cut off at the edges of the
level, and nothing where none of the filler lies within them. -/
def Turn.tile? (plan : MosaicPlan K n) (level : Nat) (turn : Turn S n) :
    Option (PlacedRaster Float32) :=
  let x := offsetAtLevel turn.placement.x level
  let y := offsetAtLevel turn.placement.y level
  match LevelSource.fetch turn.source level with
  | (.ok image, source) => some ⟨image, x, y, (LevelSource.noData source).map Sample.narrow⟩
  | (.error _, _) =>
      let width := min plan.tileSize.width (lengthAtLevel plan.geometry.size.width level - x)
      let height := min plan.tileSize.height (lengthAtLevel plan.geometry.size.height level - y)
      if width = 0 ∨ height = 0 then none
      else some ⟨.filled ⟨width, height⟩ plan.config.fillValue, x, y, none⟩

/-- The tiles of a level, in the order of the placements. -/
def MosaicPlan.levelTiles (plan : MosaicPlan K n) (level : Nat) (sources : Vector S n) :
    List (PlacedRaster Float32) :=
  (turns level plan.placements sources).filterMap (Turn.tile? plan level)

/-- Every source is in a state that fetches and releases lead to. -/
def AllLater (sources later : Vector S n) : Prop :=
  ∀ k, LevelSource.Later (sources.get k) (later.get k)

namespace AllLater
variable {sources later : Vector S n}

theorem refl (sources : Vector S n) : AllLater sources sources := fun _ => .refl

theorem trans {latest : Vector S n} (first : AllLater sources later)
    (second : AllLater later latest) : AllLater sources latest :=
  fun k => (first k).trans (second k)

theorem put (k : Fin n) {source : S} (h : LevelSource.Later (sources.get k) source) :
    AllLater sources (LevelSource.put sources k source) := by
  intro i
  rw [LevelSource.get_put]
  by_cases hk : k = i
  · subst hk
    rwa [if_pos rfl]
  · rw [if_neg hk]
    exact .refl

theorem put_fetch (sources : Vector S n) (k : Fin n) (level : Nat) :
    AllLater sources
      (LevelSource.put sources k (LevelSource.fetch (sources.get k) level).2) :=
  put k (.fetch level .refl)

end AllLater

theorem later_of_mem_turns {level : Nat} {placements : List (Placement n)}
    {sources : Vector S n} {turn : Turn S n} (h : turn ∈ turns level placements sources) :
    turn.placement ∈ placements ∧
      LevelSource.Later (sources.get turn.placement.source) turn.source := by
  induction placements generalizing sources with
  | nil => cases h
  | cons placement rest ih =>
      cases h with
      | head => exact ⟨List.mem_cons_self, .refl⟩
      | tail _ htail =>
          obtain ⟨hmem, hlater⟩ := ih htail
          refine ⟨List.mem_cons_of_mem _ hmem, ?_⟩
          exact (AllLater.put_fetch sources placement.source level _).trans hlater

theorem settle_eq_error_iff {α : Type} {answer : Except Failure α} {fault : ArithmeticFault} :
    Failure.settle answer = .error fault ↔ answer = .error (.fault fault) := by
  cases answer with
  | ok value => simp [Failure.settle]
  | error failure => cases failure <;> simp [Failure.settle]

theorem LevelSource.Answers.settle {level : Nat} {source : S}
    (h : LevelSource.Answers source level) :
    ∃ image, Failure.settle (LevelSource.fetch source level).1 = .ok image := by
  cases hsettle : Failure.settle (LevelSource.fetch source level).1 with
  | ok image => exact ⟨image, rfl⟩
  | error fault => exact absurd (settle_eq_error_iff.mp hsettle) (h fault)

section Steps
variable {level : Nat} {placement : Placement n} {rest : List (Placement n)}
  {sources : Vector S n} {answer : Except Failure (Raster Float32)} {source : S}
  (fetched : LevelSource.fetch (sources.get placement.source) level = (answer, source))

include fetched

theorem turns_cons :
    turns level (placement :: rest) sources =
      ⟨placement, sources.get placement.source⟩ ::
        turns level rest (LevelSource.put sources placement.source source) := by
  simp only [turns, fetched]

theorem fetchLevel_cons_of_settle {image : Except RasterError (Raster Float32)}
    (settled : Failure.settle answer = .ok image) :
    fetchLevel level (placement :: rest) sources =
      ((fetchLevel level rest (LevelSource.put sources placement.source source)).1.map
          (.ofPlacement placement level source image :: ·),
        (fetchLevel level rest (LevelSource.put sources placement.source source)).2) := by
  simp only [fetchLevel, fetched, settled]

theorem fetchLevel_cons_of_fault {fault : ArithmeticFault}
    (settled : Failure.settle answer = .error fault) :
    fetchLevel level (placement :: rest) sources =
      (.error fault, LevelSource.put sources placement.source source) := by
  simp only [fetchLevel, fetched, settled]

end Steps

theorem tileOf_ofPlacement (plan : MosaicPlan K n) (turn : Turn S n) {level : Nat}
    {answer : Except Failure (Raster Float32)} {source : S}
    {image : Except RasterError (Raster Float32)}
    (fetched : LevelSource.fetch turn.source level = (answer, source))
    (settled : Failure.settle answer = .ok image) :
    plan.tileOf level (.ofPlacement turn.placement level source image) =
      turn.tile? plan level := by
  cases answer with
  | ok value =>
      cases settled
      simp [MosaicPlan.tileOf, LevelAnswer.ofPlacement, Turn.tile?, fetched]
  | error failure =>
      cases failure with
      | error cause =>
          cases settled
          simp [MosaicPlan.tileOf, LevelAnswer.ofPlacement, Turn.tile?, fetched,
            MosaicPlan.fillerSize, MosaicPlan.bounds, Rectangle.sized, Size.atLevel,
            Size.isEmpty]
      | fault cause => cases settled

theorem Turn.tile?_of_ok {plan : MosaicPlan K n} {level : Nat} {turn : Turn S n}
    {image : Raster Float32} (answer : (LevelSource.fetch turn.source level).1 = .ok image) :
    turn.tile? plan level =
      some ⟨image, offsetAtLevel turn.placement.x level, offsetAtLevel turn.placement.y level,
        (LevelSource.noData (LevelSource.fetch turn.source level).2).map Sample.narrow⟩ := by
  cases fetched : LevelSource.fetch turn.source level with
  | mk given source =>
      rw [fetched] at answer
      cases answer
      simp only [tile?, fetched]

/-- With an answer in every turn, the fetched level is laid out as the turns say. -/
theorem fetchLevel_of_answers (plan : MosaicPlan K n) {level : Nat}
    {placements : List (Placement n)} {sources : Vector S n}
    (answered : ∀ turn ∈ turns level placements sources,
      LevelSource.Answers turn.source level) :
    ∃ answers, (fetchLevel level placements sources).1 = .ok answers ∧
      answers.filterMap (plan.tileOf level) =
        (turns level placements sources).filterMap (Turn.tile? plan level) := by
  induction placements generalizing sources with
  | nil => exact ⟨[], rfl, rfl⟩
  | cons placement rest ih =>
      cases fetched : LevelSource.fetch (sources.get placement.source) level with
      | mk answer source =>
          rw [turns_cons fetched] at answered ⊢
          obtain ⟨image, settled⟩ := (answered _ List.mem_cons_self).settle
          rw [fetched] at settled
          -- The rest is asked in the states this fetch left, so those are generalized.
          obtain ⟨others, hothers, htiles⟩ := ih fun turn hmem =>
            answered turn (List.mem_cons_of_mem _ hmem)
          refine ⟨.ofPlacement placement level source image :: others, ?_, ?_⟩
          · rw [fetchLevel_cons_of_settle fetched settled, hothers]
            rfl
          · have htile := tileOf_ofPlacement plan ⟨placement, sources.get placement.source⟩
              fetched settled
            rw [List.filterMap_cons, List.filterMap_cons, htile, htiles]

theorem answers_of_fetchLevel_eq_ok {level : Nat} {placements : List (Placement n)}
    {sources : Vector S n} {answers : List LevelAnswer}
    (h : (fetchLevel level placements sources).1 = .ok answers) :
    ∀ turn ∈ turns level placements sources, LevelSource.Answers turn.source level := by
  induction placements generalizing sources answers with
  | nil =>
      intro turn hmem
      cases hmem
  | cons placement rest ih =>
      cases fetched : LevelSource.fetch (sources.get placement.source) level with
      | mk answer source =>
          rw [turns_cons fetched]
          cases settled : Failure.settle answer with
          | error raised =>
              rw [fetchLevel_cons_of_fault fetched settled] at h
              cases h
          | ok image =>
              rw [fetchLevel_cons_of_settle fetched settled] at h
              intro turn hmem
              cases hmem with
              | head =>
                  intro fault hfault
                  rw [fetched] at hfault
                  cases settled.symm.trans (settle_eq_error_iff.mpr hfault)
              | tail _ htail =>
                  obtain ⟨others, hothers, _⟩ := map_eq_ok_iff.mp h
                  exact ih hothers turn htail

theorem allLater_fetchLevel (level : Nat) (placements : List (Placement n))
    (sources : Vector S n) :
    AllLater sources (fetchLevel level placements sources).2 := by
  induction placements generalizing sources with
  | nil => exact .refl sources
  | cons placement rest ih =>
      have hstep := AllLater.put_fetch sources placement.source level
      cases fetched : LevelSource.fetch (sources.get placement.source) level with
      | mk answer source =>
          rw [fetched] at hstep
          cases settled : Failure.settle answer with
          | error raised =>
              rw [fetchLevel_cons_of_fault fetched settled]
              exact hstep
          | ok image =>
              rw [fetchLevel_cons_of_settle fetched settled]
              exact hstep.trans (ih _)

end RasterMosaic
