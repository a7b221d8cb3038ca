import RasterMosaic.Proofs.Raster.Means
import RasterMosaic.Proofs.Raster.Windows
import RasterMosaic.Proofs.Source.Decimated

/-!
What the coarser levels of a pyramid show, however it was used before. Each of their samples is
the mean of its window, and the windows share out the base. Where a window has data its sample is
a number; it hides again only if that number is the no-data value.
-/

namespace RasterMosaic
namespace DecimatedPyramid

variable {base : Raster Float32} {tileSize : Size} {levelCount : Nat} {noData : Option Float}
  {s : DecimatedPyramid}

/-- A coarser level, fetched at any time. -/
theorem fst_fetch_of_later (created : create base tileSize levelCount noData = .ok s)
    {level : Nat} (coarser : 1 ≤ level) (word : level < wordBits) (inside : level < levelCount)
    {t : DecimatedPyramid} (later : LevelSource.Later s t) :
    (LevelSource.fetch t level).1 = .ok (base.decimate noData level) := by
  have start := redecoded_of_create created
  obtain ⟨_, rfl⟩ := eq_of_create created
  refine ((start.of_later later).fst_fetch level).trans ?_
  rw [answer, if_neg (Nat.not_le.mpr inside), if_neg (Nat.pos_iff_ne_zero.mp coarser),
    if_neg (Nat.not_le.mpr word)]

theorem isMean_get_decimate {level r c : Nat} (hr : r < (base.decimate noData level).rows)
    (hc : c < (base.decimate noData level).cols) :
    IsMean noData (base.windowSamples level r c) ((base.decimate noData level).get r c hr hc) := by
  have sample : (base.decimate noData level).get r c hr hc =
      Raster.meanOfValid noData (base.windowSamples level r c) := Raster.get_ofFn _ _ _ r c hr hc
  rw [sample]
  exact isMean_meanOfValid noData _

/-- A window of a raster whose sides are machine words is far from too long to be counted. -/
theorem log2_length_windowSamples (rows : base.rows < 2 ^ wordBits)
    (cols : base.cols < 2 ^ wordBits) {level r c : Nat} :
    (base.windowSamples level r c).length.log2 ≤ 1022 := by
  have area : (base.windowSamples level r c).length ≤ 2 ^ (wordBits + wordBits) := by
    rw [Nat.pow_add]
    exact Nat.le_trans Raster.length_windowSamples_le (Nat.mul_le_mul rows.le cols.le)
  have bits := log2_mono area
  rw [Nat.log2_two_pow] at bits
  exact Nat.le_trans bits (by decide)

/-- The window of a level pixel has a valid sample. -/
def HoldsData (base : Raster Float32) (noData : Option Float) (level r c : Nat) : Prop :=
  ∃ i j hi hj, i >>> level = r ∧ j >>> level = c ∧ Valid noData (base.get i j hi hj)

theorem holdsData_iff {level r c : Nat} :
    HoldsData base noData level r c ↔
      ∃ v ∈ base.windowSamples level r c, Valid noData v := by
  constructor
  · rintro ⟨i, j, hi, hj, row, col, valid⟩
    exact ⟨_, Raster.mem_windowSamples.mpr ⟨i, j, hi, hj, row, col, rfl⟩, valid⟩
  · rintro ⟨v, mem, valid⟩
    obtain ⟨i, j, hi, hj, row, col, rfl⟩ := Raster.mem_windowSamples.mp mem
    exact ⟨i, j, hi, hj, row, col, valid⟩

/-- Whatever was fetched or released before, a coarser level has the size of its level, its
windows share out the base, and each sample is the mean of what its window has, row by row. -/
theorem level_shares_out_base (created : create base tileSize levelCount noData = .ok s)
    (rows : base.rows < 2 ^ (wordBits - 1)) (cols : base.cols < 2 ^ (wordBits - 1))
    {level : Nat} (coarser : 1 ≤ level) (word : level < wordBits) (inside : level < levelCount)
    {t : DecimatedPyramid} (later : LevelSource.Later s t) :
    ∃ image, (LevelSource.fetch t level).1 = .ok image ∧
      image.rows = lengthAtLevel base.rows level ∧ image.cols = lengthAtLevel base.cols level ∧
      base.SharedOut level image.rows image.cols ∧
      ∀ r c hr hc, ∃ samples, IsMean noData samples (image.get r c hr hc) ∧
        samples.map some = (base.windowPixels level r c).map fun p => base.get? p.1 p.2 := by
  refine ⟨_, fst_fetch_of_later created coarser word inside later, rfl, rfl, ?_, ?_⟩
  · exact base.sharedOut_lengthAtLevel word rows cols
  · intro r c hr hc
    exact ⟨_, isMean_get_decimate hr hc, Raster.map_some_windowSamples⟩

/-- A pyramid with a window of which one sample is no number, and one that has only no-data. -/
def spottedBase : Raster Float32 :=
  ⟨2, 3, #[1, 3, 7, 5, Sample.notANumber, 7], rfl⟩

def spotted : DecimatedPyramid :=
  ⟨spottedBase, ⟨2, 2⟩, 3, some 7, (LevelStore.empty 3).hold 0 spottedBase, 0⟩

/-- Level 1 after level 2 was decoded: the first window is whole, the second cut off at the edge. -/
theorem level_shares_out_base_spotted :
    ∃ image, (LevelSource.fetch (LevelSource.fetch spotted 2).2 1).1 = .ok image ∧
      image.rows = 1 ∧ image.cols = 2 ∧ (spottedBase.windowPixels 1 0 1).count (1, 2) = 1 ∧
      (∃ hr hc, IsMean (some 7) [1, 3, 5, Sample.notANumber] (image.get 0 0 hr hc)) ∧
      ∃ hr hc, IsMean (some 7) [7, 7] (image.get 0 1 hr hc) := by
  have created : create spottedBase ⟨2, 2⟩ 3 (some 7) = .ok spotted := rfl
  obtain ⟨image, fetched, rows, cols, shared, means⟩ :=
    level_shares_out_base created (by decide) (by decide) (by decide) (by decide : 1 < wordBits)
      (by decide) (.fetch 2 .refl)
  have hr : 0 < image.rows := by rw [rows]; decide
  have hc : 1 < image.cols := by rw [cols]; decide
  refine ⟨image, fetched, rows, cols, ?_, ⟨hr, Nat.zero_lt_of_lt hc, ?_⟩, hr, hc, ?_⟩
  · exact shared.once 1 2 0 1 (by decide) (by decide)
  · obtain ⟨samples, mean, visited⟩ := means 0 0 hr (Nat.zero_lt_of_lt hc)
    obtain rfl : samples = [1, 3, 5, Sample.notANumber] :=
      List.map_injective_iff.mpr (Option.some_injective _) visited
    exact mean
  · obtain ⟨samples, mean, visited⟩ := means 0 1 hr hc
    obtain rfl : samples = [7, 7] := List.map_injective_iff.mpr (Option.some_injective _) visited
    exact mean

/-- A coarser level hides a pixel just when the pixel's window has no data or the mean of what it
has, which is always a number, is the no-data value. If that is absent or no number itself, the
level hides just what has no data. -/
theorem level_hides_iff (created : create base tileSize levelCount noData = .ok s)
    (rows : base.rows < 2 ^ wordBits) (cols : base.cols < 2 ^ wordBits)
    (usual : ∀ r c hr hc,
      Sample.isNaN (base.get r c hr hc) = true ∨ (base.get r c hr hc).isFinite = true)
    {level : Nat} (coarser : 1 ≤ level) (word : level < wordBits) (inside : level < levelCount)
    {t : DecimatedPyramid} (later : LevelSource.Later s t) :
    ∃ image, (LevelSource.fetch t level).1 = .ok image ∧ ∀ r c hr hc,
      let sample := image.get r c hr hc
      IsMean noData (base.windowSamples level r c) sample ∧
      (HoldsData base noData level r c → Sample.isNaN sample = false) ∧
      (lacksData sample (noData.map Sample.narrow) = true ↔
        ¬ HoldsData base noData level r c ∨ Marks (noData.map Sample.narrow) sample) ∧
      ((∀ mark, noData = some mark → Sample.isNaN mark = true) →
        (lacksData sample (noData.map Sample.narrow) = true ↔
          ¬ HoldsData base noData level r c)) := by
  refine ⟨_, fst_fetch_of_later created coarser word inside later, fun r c hr hc => ?_⟩
  intro sample
  have mean : IsMean noData (base.windowSamples level r c) sample := isMean_get_decimate hr hc
  have number : HoldsData base noData level r c → Sample.isNaN sample = false := by
    intro held
    refine mean.isNaN_eq_false (holdsData_iff.mp held) (log2_length_windowSamples rows cols) ?_
    intro v mem
    obtain ⟨i, j, hi, hj, _, _, rfl⟩ := Raster.mem_windowSamples.mp mem
    exact usual i j hi hj
  have hides : lacksData sample (noData.map Sample.narrow) = true ↔
      ¬ HoldsData base noData level r c ∨ Marks (noData.map Sample.narrow) sample := by
    rw [holdsData_iff]
    exact mean.lacksData_iff fun held => number (holdsData_iff.mpr held)
  refine ⟨mean, number, hides, fun nan => hides.trans (or_iff_left ?_)⟩
  exact not_marks_of_isNaN nan sample

theorem level_hides_iff_spotted :
    (∀ r c hr hc, Sample.isNaN (spottedBase.get r c hr hc) = true ∨
      (spottedBase.get r c hr hc).isFinite = true) ∧
    ∃ image, (LevelSource.fetch (LevelSource.release spotted) 1).1 = .ok image ∧
      (∃ hr hc, Sample.isNaN (image.get 0 0 hr hc) = false) ∧
      ∃ hr hc, lacksData (image.get 0 1 hr hc) (some (Sample.narrow 7)) = true := by
  have created : create spottedBase ⟨2, 2⟩ 3 (some 7) = .ok spotted := rfl
  have all : ∀ (r : Fin 2) (c : Fin 3),
      Sample.isNaN (spottedBase.get r c r.isLt c.isLt) = true ∨
        (spottedBase.get r c r.isLt c.isLt).isFinite = true := by decide +kernel
  have usual : ∀ r c hr hc, Sample.isNaN (spottedBase.get r c hr hc) = true ∨
      (spottedBase.get r c hr hc).isFinite = true := fun r c hr hc => all ⟨r, hr⟩ ⟨c, hc⟩
  obtain ⟨image, fetched, shows⟩ :=
    level_hides_iff created (by decide) (by decide) usual (by decide) (by decide : 1 < wordBits)
      (by decide) (.release .refl)
  have same : image = spottedBase.decimate (some 7) 1 :=
    Except.ok.inj (fetched.symm.trans rfl)
  have hr : 0 < image.rows := by rw [same]; decide
  have hc : 1 < image.cols := by rw [same]; decide
  have data : HoldsData spottedBase (some 7) 1 0 0 :=
    ⟨0, 0, by decide, by decide, rfl, rfl, countsInMean_eq_true_iff.mp (by decide +kernel)⟩
  have spots : ¬ HoldsData spottedBase (some 7) 1 0 1 := by
    intro held
    obtain ⟨v, mem, _, unmarked⟩ := holdsData_iff.mp held
    have window : spottedBase.windowSamples 1 0 1 = List.replicate 2 7 := rfl
    obtain rfl := List.eq_of_mem_replicate (window ▸ mem)
    exact absurd (unmarked 7 rfl) (by decide +kernel)
  refine ⟨usual, image, fetched, ⟨hr, Nat.zero_lt_of_lt hc, ?_⟩, hr, hc, ?_⟩
  · exact (shows 0 0 hr (Nat.zero_lt_of_lt hc)).2.1 data
  · exact (shows 0 1 hr hc).2.2.1.mpr (.inl spots)

/-- Samples with data, whose mean is the no-data value. -/
def evenedBase : Raster Float32 := ⟨1, 2, #[1, 3], rfl⟩

def evened : DecimatedPyramid :=
  ⟨evenedBase, ⟨2, 2⟩, 2, some 2, (LevelStore.empty 2).hold 0 evenedBase, 0⟩

/-- A window of valid samples can come out as no data: 1 and 3 where 2 is the no-data value. -/
theorem mean_of_valid_hidden :
    create evenedBase ⟨2, 2⟩ 2 (some 2) = .ok evened ∧
    (∀ r c hr hc, (evenedBase.get r c hr hc).isFinite = true) ∧
    HoldsData evenedBase (some 2) 1 0 0 ∧
    ∃ image, (LevelSource.fetch evened 1).1 = .ok image ∧
      ∃ hr hc, lacksData (image.get 0 0 hr hc) (some (Sample.narrow 2)) = true := by
  have all : ∀ (r : Fin 1) (c : Fin 2),
      (evenedBase.get r c r.isLt c.isLt).isFinite = true := by decide +kernel
  refine ⟨rfl, fun r c hr hc => all ⟨r, hr⟩ ⟨c, hc⟩, ?_, ?_⟩
  · exact ⟨0, 0, by decide, by decide, rfl, rfl, countsInMean_eq_true_iff.mp (by decide +kernel)⟩
  · exact ⟨evenedBase.decimate (some 2) 1, rfl, by decide, by decide, by decide +kernel⟩

end DecimatedPyramid
end RasterMosaic
