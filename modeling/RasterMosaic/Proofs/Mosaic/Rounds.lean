import RasterMosaic.Mosaic.Requests
import RasterMosaic.Proofs.Mosaic.Turns
import RasterMosaic.Proofs.Source.Counted

/-!
Rounds over the placements. A fetch of a level and a release both go from placement to placement
and change the source of each. With distinct sources no placement meets what an earlier one did,
and every source is changed once.
-/

namespace RasterMosaic

variable {S : Type} {n : Nat}

/-- The sources after a round in which each placement's source is acted on. -/
def afterRound (act : S → S) (placements : List (Placement n)) (sources : Vector S n) :
    Vector S n :=
  placements.foldl
    (fun sources p => LevelSource.put sources p.source (act (sources.get p.source))) sources

section Rounds
variable {act : S → S} {placements : List (Placement n)} {sources : Vector S n}

theorem get_afterRound_invariant {β : Type} {seen : S → β} (same : ∀ s, seen (act s) = seen s)
    (k : Fin n) : seen ((afterRound act placements sources).get k) = seen (sources.get k) := by
  induction placements generalizing sources with
  | nil => rfl
  | cons placement rest ih =>
      refine ih.trans ?_
      rw [LevelSource.get_put]
      split
      · rename_i hk
        rw [same, hk]
      · rfl

theorem get_afterRound_of_absent {k : Fin n} (absent : k ∉ placements.map Placement.source) :
    (afterRound act placements sources).get k = sources.get k := by
  induction placements generalizing sources with
  | nil => rfl
  | cons placement rest ih =>
      have hhead : placement.source ≠ k := fun same => absent (same ▸ List.mem_cons_self)
      refine (ih fun htail => absent (List.mem_cons_of_mem _ htail)).trans ?_
      rw [LevelSource.get_put, if_neg hhead]

theorem get_afterRound (distinct : (placements.map Placement.source).Nodup)
    {p : Placement n} (mem : p ∈ placements) :
    (afterRound act placements sources).get p.source = act (sources.get p.source) := by
  induction placements generalizing sources with
  | nil => cases mem
  | cons placement rest ih =>
      obtain ⟨absent, hrest⟩ := List.nodup_cons.mp distinct
      cases mem with
      | head =>
          refine (get_afterRound_of_absent absent).trans ?_
          rw [LevelSource.get_put, if_pos rfl]
      | tail _ htail =>
          have hother : placement.source ≠ p.source := fun same =>
            absent (same ▸ List.mem_map_of_mem htail)
          refine (ih hrest htail).trans ?_
          rw [LevelSource.get_put, if_neg hother]

end Rounds

variable [LevelSource S]

/-- The round of a fetch ends with the first placement whose source faults. -/
theorem snd_fetchLevel (level : Nat) (placements : List (Placement n)) (sources : Vector S n) :
    ∃ asked, (fetchLevel level placements sources).2 =
        afterRound (fun s => (LevelSource.fetch s level).2) asked sources ∧
      ((∀ turn ∈ turns level placements sources, LevelSource.Answers turn.source level) →
        asked = placements) := by
  induction placements generalizing sources with
  | nil => exact ⟨[], rfl, fun _ => rfl⟩
  | cons placement rest ih =>
      cases fetched : LevelSource.fetch (sources.get placement.source) level with
      | mk answer source =>
          rw [turns_cons fetched]
          cases settled : Failure.settle answer with
          | error fault =>
              refine ⟨[placement], ?_, fun answered => ?_⟩
              · rw [fetchLevel_cons_of_fault fetched settled]
                simp only [afterRound, List.foldl_cons, List.foldl_nil, fetched]
              · obtain ⟨image, hsettle⟩ := (answered _ List.mem_cons_self).settle
                rw [fetched] at hsettle
                cases settled.symm.trans hsettle
          | ok image =>
              obtain ⟨asked, hround, hall⟩ :=
                ih (LevelSource.put sources placement.source source)
              refine ⟨placement :: asked, ?_, fun answered => ?_⟩
              · rw [fetchLevel_cons_of_settle fetched settled, hround]
                simp only [afterRound, List.foldl_cons, fetched]
              · rw [hall fun turn hmem => answered turn (List.mem_cons_of_mem _ hmem)]

theorem turns_of_distinct {level : Nat} {placements : List (Placement n)}
    {sources : Vector S n} (distinct : (placements.map Placement.source).Nodup) :
    turns level placements sources = placements.map fun p => ⟨p, sources.get p.source⟩ := by
  induction placements generalizing sources with
  | nil => rfl
  | cons placement rest ih =>
      obtain ⟨absent, hrest⟩ := List.nodup_cons.mp distinct
      rw [turns, ih hrest, List.map_cons]
      refine congrArg _ (List.map_congr_left fun p hmem => ?_)
      have hother : placement.source ≠ p.source := fun same =>
        absent (same ▸ List.mem_map_of_mem hmem)
      rw [LevelSource.get_put, if_neg hother]

section Releases
variable {placements : List (Placement n)}

theorem releaseSources_append (first second : List (Placement n)) (sources : Vector S n) :
    Mosaic.releaseSources (first ++ second) sources =
      Mosaic.releaseSources second (Mosaic.releaseSources first sources) :=
  List.foldl_append ..

theorem fetches_releaseSources (sources : Vector (Counted S) n) (k : Fin n) :
    ((Mosaic.releaseSources placements sources).get k).fetches = (sources.get k).fetches :=
  get_afterRound_invariant Counted.fetches_release k

/-- A round of releases reaches a source once for every placement that uses it. -/
theorem releases_releaseSources (sources : Vector (Counted S) n) (k : Fin n) :
    ((Mosaic.releaseSources placements sources).get k).releases =
      (sources.get k).releases + (placements.map Placement.source).count k := by
  induction placements generalizing sources with
  | nil => rfl
  | cons placement rest ih =>
      refine (ih _).trans ?_
      rw [LevelSource.get_put, List.map_cons, List.count_cons]
      by_cases hk : placement.source = k
      · subst hk
        simp only [if_true, beq_self_eq_true, Counted.releases_release]
        omega
      · simp only [hk, if_false, beq_eq_false_iff_ne.mpr hk, Bool.false_eq_true, Nat.add_zero]

end Releases

end RasterMosaic
