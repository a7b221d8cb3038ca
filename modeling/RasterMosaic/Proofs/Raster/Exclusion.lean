import RasterMosaic.Proofs.Raster.Compositing
import RasterMosaic.Proofs.Sample.Widths
import RasterMosaic.Raster.Decimation

/-!
What is left out of the means of a pyramid against what is transparent in a mosaic. The means
compare widened samples with the no-data value as it is given, the mosaic compares samples with
the no-data value narrowed. The two part on the samples that equal a narrowed value which is not
the value itself: these are transparent, and still they count.
-/

namespace RasterMosaic

theorem countsInMean_eq_true_iff {noData : Option Float} {v : Float32} :
    countsInMean noData v = true ↔
      Sample.isNaN v = false ∧
        ∀ mark, noData = some mark → (Sample.widen v == mark) = false := by
  change (!Sample.isNaN v && _) = true ↔ _
  cases noData <;> simp

theorem isNaN_eq_false_of_beq {v w : Float32} (same : (v == w) = true) :
    Sample.isNaN v = false ∧ Sample.isNaN w = false := by
  obtain ⟨left, right, _⟩ := Float32.beq_iff_ne_nan_and_eq.mp same
  exact ⟨Float32.isNaN_eq_decide_eq_nan.trans (decide_eq_false left),
    Float32.isNaN_eq_decide_eq_nan.trans (decide_eq_false right)⟩

theorem Sample.narrow_of_isNaN {mark : Float} (nan : Sample.isNaN mark = true) :
    Sample.narrow mark = Float32.nan := by
  obtain rfl : mark = Float.nan :=
    of_decide_eq_true (Float.isNaN_eq_decide_eq_nan.symm.trans nan)
  exact Sample.narrow_nan

theorem marks_narrow_iff {noData : Option Float} {v : Float32} :
    Marks (noData.map Sample.narrow) v ↔
      ∃ mark, noData = some mark ∧ (v == Sample.narrow mark) = true := by
  constructor
  · rintro ⟨_, narrowed, _, same⟩
    obtain ⟨mark, rfl, rfl⟩ := Option.map_eq_some_iff.mp narrowed
    exact ⟨mark, rfl, same⟩
  · rintro ⟨mark, rfl, same⟩
    exact ⟨_, rfl, (isNaN_eq_false_of_beq same).2, same⟩

/-- The narrow format has the number. -/
def Sample.Exact (mark : Float) : Prop :=
  (Sample.widen (Sample.narrow mark) == mark) = true

theorem widen_beq_of_exact {v : Float32} {mark : Float}
    (same : (v == Sample.narrow mark) = true) :
    (Sample.widen v == mark) = true ↔ Sample.Exact mark := by
  have wide := Sample.widen_beq same
  exact ⟨fun equal => BEq.trans (BEq.symm wide) equal, fun held => BEq.trans wide held⟩

section Exclusion
variable {noData : Option Float} {v : Float32}

/-- What is left out of the means is transparent. -/
theorem lacksData_of_excluded (excluded : countsInMean noData v = false) :
    lacksData v (noData.map Sample.narrow) = true := by
  rw [← Bool.not_eq_true, countsInMean_eq_true_iff] at excluded
  rw [← Bool.not_eq_false, lacksData_eq_false_iff, marks_narrow_iff]
  rintro ⟨number, unmarked⟩
  refine excluded ⟨number, fun mark given => ?_⟩
  rw [← Bool.not_eq_true]
  exact fun same => unmarked ⟨mark, given, Sample.beq_narrow same⟩

theorem transparent_and_counted_iff :
    lacksData v (noData.map Sample.narrow) = true ∧ countsInMean noData v = true ↔
      ∃ mark, noData = some mark ∧ (v == Sample.narrow mark) = true ∧ ¬ Sample.Exact mark := by
  rw [← Bool.not_eq_false (lacksData _ _), lacksData_eq_false_iff, marks_narrow_iff,
    countsInMean_eq_true_iff]
  constructor
  · rintro ⟨hidden, number, other⟩
    apply Classical.byContradiction
    intro none
    refine hidden ⟨number, fun ⟨mark, given, same⟩ => none ⟨mark, given, same, fun held => ?_⟩⟩
    have equal := (widen_beq_of_exact same).mpr held
    rw [other mark given] at equal
    cases equal
  · rintro ⟨mark, rfl, same, inexact⟩
    refine ⟨fun shown => shown.2 ⟨mark, rfl, same⟩, (isNaN_eq_false_of_beq same).1, ?_⟩
    intro other given
    obtain rfl := Option.some.inj given
    rw [← Bool.not_eq_true, widen_beq_of_exact same]
    exact inexact

end Exclusion

/-- No sample that shows is left out of the means. One that is transparent counts in them just
when it equals the narrowed no-data value and that is not the no-data value itself; so the two
agree on all samples just when the no-data value is absent, NaN or one the narrow format has. -/
theorem excluded_versus_transparent (noData : Option Float) :
    (∀ v, countsInMean noData v = false → lacksData v (noData.map Sample.narrow) = true) ∧
    (∀ v, lacksData v (noData.map Sample.narrow) = true ∧ countsInMean noData v = true ↔
      ∃ mark, noData = some mark ∧ (v == Sample.narrow mark) = true ∧ ¬ Sample.Exact mark) ∧
    ((∀ v, countsInMean noData v = false ↔ lacksData v (noData.map Sample.narrow) = true) ↔
      ∀ mark, noData = some mark → Sample.isNaN mark = true ∨ Sample.Exact mark) := by
  refine ⟨fun v => lacksData_of_excluded, fun v => transparent_and_counted_iff, ?_, ?_⟩
  · rintro agree mark rfl
    apply Classical.byContradiction
    intro neither
    obtain ⟨number, inexact⟩ := not_or.mp neither
    have narrowed : Sample.narrow mark ≠ Float32.nan := by
      refine Sample.narrow_ne_nan fun nan => number ?_
      exact Float.isNaN_eq_decide_eq_nan.trans (decide_eq_true nan)
    obtain ⟨hidden, counted⟩ := transparent_and_counted_iff.mpr
      ⟨mark, rfl, Float32.beq_self_iff.mpr narrowed, inexact⟩
    rw [(agree _).mpr hidden] at counted
    cases counted
  · intro held v
    refine ⟨lacksData_of_excluded, fun hidden => ?_⟩
    rw [← Bool.not_eq_true]
    intro counted
    obtain ⟨mark, given, same, inexact⟩ := transparent_and_counted_iff.mp ⟨hidden, counted⟩
    refine (held mark given).elim (fun nan => ?_) inexact
    obtain rfl : mark = Float.nan :=
      of_decide_eq_true (Float.isNaN_eq_decide_eq_nan.symm.trans nan)
    rw [Sample.narrow_nan, Float32.beq_nan_eq_false] at same
    cases same

/-- With 0.1 as no-data value, the sample nearest to it is transparent, and the mean of its window
with a 3 is not 3. -/
theorem transparent_tenth_counted :
    let tenth := Sample.narrow 0.1
    let base : Raster Float32 := .ofFn 1 2 fun _ c => if c.val = 0 then tenth else 3
    base.get? 0 0 = some tenth ∧ base.get? 0 1 = some 3 ∧
    lacksData tenth ((some 0.1).map Sample.narrow) = true ∧
    countsInMean (some 0.1) tenth = true ∧
    (base.decimate (some 0.1) 1).get? 0 0 ≠ some 3 := by decide +kernel

end RasterMosaic
