import RasterMosaic.Proofs.Raster.Exclusion
import RasterMosaic.Proofs.Scalar.Rounding

/-!
What the mean of a window is. The valid samples are added up in the wide format one after the
other, and their sum is divided by their number; where there is none, the mean is no data. Where
there is one, the mean of finite samples is a number, though it can be the no-data value.
-/

namespace RasterMosaic

/-- A number that, widened, is not the no-data value. -/
def Valid (noData : Option Float) (v : Float32) : Prop :=
  Sample.isNaN v = false ∧ ∀ mark, noData = some mark → (Sample.widen v == mark) = false

/-- The sum and the number of the valid samples in a list, from its first to its last. -/
inductive Totals (noData : Option Float) : List Float32 → Float → Nat → Prop
  | none : Totals noData [] 0 0
  | valid {samples : List Float32} {sum : Float} {count : Nat} {v : Float32} :
      Totals noData samples sum count → Valid noData v →
        Totals noData (samples ++ [v]) (sum + Sample.widen v) (count + 1)
  | skipped {samples : List Float32} {sum : Float} {count : Nat} {v : Float32} :
      Totals noData samples sum count → ¬ Valid noData v →
        Totals noData (samples ++ [v]) sum count

/-- The no-data value as a sample. -/
def emptySample (noData : Option Float) : Float32 :=
  (noData.map Sample.narrow).getD Sample.notANumber

/-- The mean of samples: their sum over their number in the narrow format, or no data. -/
inductive IsMean (noData : Option Float) (samples : List Float32) : Float32 → Prop
  | empty {sum : Float} : Totals noData samples sum 0 → IsMean noData samples (emptySample noData)
  | held {sum : Float} {count : Nat} : Totals noData samples sum count → 0 < count →
      IsMean noData samples (Sample.narrow (sum / Float.ofNat count))

section Totals
variable {noData : Option Float} {samples : List Float32} {sum : Float} {count : Nat}

theorem totals_filter (noData : Option Float) (samples : List Float32) :
    let valid := samples.filter (countsInMean noData)
    Totals noData samples (valid.foldl (fun acc v => acc + Sample.widen v) 0) valid.length := by
  intro valid
  -- The last sample is the last to be added.
  induction samples using List.reverseRecOn with
  | nil => exact .none
  | append_singleton earlier v ih =>
      simp only [valid, List.filter_append, List.filter_singleton]
      cases counts : countsInMean noData v with
      | true =>
          rw [cond_true, List.foldl_append, List.length_append]
          exact .valid ih (countsInMean_eq_true_iff.mp counts)
      | false =>
          rw [cond_false, List.append_nil]
          refine .skipped ih fun valid => ?_
          rw [countsInMean_eq_true_iff.mpr valid] at counts
          cases counts

theorem isMean_meanOfValid (noData : Option Float) (samples : List Float32) :
    IsMean noData samples (Raster.meanOfValid noData samples) := by
  have totals := totals_filter noData samples
  simp only [Raster.meanOfValid]
  split
  · rename_i empty
    rw [List.isEmpty_iff.mp empty] at totals
    cases noData <;> exact .empty totals
  · rename_i held
    exact .held totals (List.length_pos_iff.mpr (mt List.isEmpty_iff.mpr held))

namespace Totals

/-- Nothing is counted only where nothing is valid. -/
theorem pos_iff (h : Totals noData samples sum count) :
    0 < count ↔ ∃ v ∈ samples, Valid noData v := by
  induction h with
  | none => simp
  | valid _ valid _ => simp [valid]
  | skipped _ invalid ih =>
      rw [ih]
      constructor
      · rintro ⟨v, mem, valid⟩
        exact ⟨v, List.mem_append_left _ mem, valid⟩
      · rintro ⟨v, mem, valid⟩
        obtain earlier | last := List.mem_append.mp mem
        · exact ⟨v, earlier, valid⟩
        · exact absurd (List.mem_singleton.mp last ▸ valid) invalid

theorem count_le (h : Totals noData samples sum count) : count ≤ samples.length := by
  induction h with
  | none => exact Nat.le_refl 0
  | valid _ _ ih =>
      rw [List.length_append]
      exact Nat.succ_le_succ ih
  | skipped _ _ ih =>
      rw [List.length_append]
      exact Nat.le_succ_of_le ih

/-- Samples that are finite or no number add up to a number. -/
theorem sum_ne_nan (h : Totals noData samples sum count)
    (usual : ∀ v ∈ samples, Sample.isNaN v = true ∨ v.isFinite = true) : sum ≠ Float.nan := by
  induction h with
  | none => decide +kernel
  | valid _ valid ih =>
      obtain nan | finite := usual _ (List.mem_append_right _ (List.mem_singleton_self _))
      · rw [valid.1] at nan
        cases nan
      · exact add_ne_nan (ih fun v mem => usual v (List.mem_append_left _ mem))
          (isFinite_widen finite)
  | skipped _ _ ih => exact ih fun v mem => usual v (List.mem_append_left _ mem)

end Totals

/-- A no-data value that is no number marks nothing. -/
theorem not_marks_of_isNaN {noData : Option Float}
    (nan : ∀ mark, noData = some mark → Sample.isNaN mark = true) (v : Float32) :
    ¬ Marks (noData.map Sample.narrow) v := by
  rw [marks_narrow_iff]
  rintro ⟨mark, given, same⟩
  rw [Sample.narrow_of_isNaN (nan mark given), Float32.beq_nan_eq_false] at same
  cases same

theorem lacksData_emptySample (noData : Option Float) :
    lacksData (emptySample noData) (noData.map Sample.narrow) = true := by
  rw [← Bool.not_eq_false, lacksData_eq_false_iff, marks_narrow_iff]
  rintro ⟨number, unmarked⟩
  cases noData with
  | none => exact absurd number (by decide +kernel)
  | some mark =>
      refine unmarked ⟨mark, rfl, Float32.beq_self_iff.mpr fun nan => ?_⟩
      rw [nan] at number
      exact absurd number (by decide +kernel)

namespace IsMean
variable {mean : Float32} (h : IsMean noData samples mean)

include h

theorem lacksData_of_empty (empty : ¬ ∃ v ∈ samples, Valid noData v) :
    lacksData mean (noData.map Sample.narrow) = true := by
  cases h with
  | empty totals => exact lacksData_emptySample noData
  | held totals positive => exact absurd (totals.pos_iff.mp positive) empty

/-- The mean of so many finite samples does not overflow into what is no number. -/
theorem isNaN_eq_false (held : ∃ v ∈ samples, Valid noData v)
    (few : samples.length.log2 ≤ 1022)
    (usual : ∀ v ∈ samples, Sample.isNaN v = true ∨ v.isFinite = true) :
    Sample.isNaN mean = false := by
  cases h with
  | empty totals => exact absurd (totals.pos_iff.mpr held) (Nat.lt_irrefl 0)
  | @held sum count totals positive =>
      have bits : count.log2 ≤ 1022 := Nat.le_trans (log2_mono totals.count_le) few
      have number : Sample.narrow (sum / Float.ofNat count) ≠ Float32.nan :=
        Sample.narrow_ne_nan (div_ne_nan (totals.sum_ne_nan usual) (isFull_ofNat positive bits))
      exact Float32.isNaN_eq_decide_eq_nan.trans (decide_eq_false number)

/-- What hides a mean that is a number where there is data. -/
theorem lacksData_iff (number : (∃ v ∈ samples, Valid noData v) → Sample.isNaN mean = false) :
    lacksData mean (noData.map Sample.narrow) = true ↔
      (¬ ∃ v ∈ samples, Valid noData v) ∨ Marks (noData.map Sample.narrow) mean := by
  constructor
  · intro hidden
    refine or_iff_not_imp_left.mpr fun held => ?_
    obtain nan | marks := lacksData_eq_true_iff.mp hidden
    · rw [number (not_not.mp held)] at nan
      cases nan
    · exact marks
  · rintro (empty | marks)
    · exact h.lacksData_of_empty empty
    · exact lacksData_eq_true_iff.mpr (.inr marks)

end IsMean
end Totals

end RasterMosaic
