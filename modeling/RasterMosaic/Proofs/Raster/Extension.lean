import RasterMosaic.Proofs.Raster.Compositing

/-!
Border extension at every size. An image reaches the sizes it fits in, unless it is empty and of
another size, and then shows beyond its own samples those nearest to them. Extending in steps is
extending at once, since the nearest of the nearest is the nearest.
-/

namespace RasterMosaic.Raster

variable {α : Type} {image between extended : Raster α} {target : Size}

/-- A raster shows an image up to its last row and column, and these beyond. -/
def Extends (image extended : Raster α) : Prop :=
  ∀ r c, r < extended.rows → c < extended.cols →
    extended.get? r c = image.get? (min r (image.rows - 1)) (min c (image.cols - 1))

theorem Extends.refl (image : Raster α) : image.Extends image := by
  intro r c hr hc
  rw [Nat.min_eq_left (Nat.le_sub_one_of_lt hr), Nat.min_eq_left (Nat.le_sub_one_of_lt hc)]

theorem Extends.trans (inner : image.Extends between) (outer : between.Extends extended)
    (fits : image.size.FitsIn between.size) (nonempty : between.isEmpty = false) :
    image.Extends extended := by
  obtain ⟨hrows, hcols⟩ := isEmpty_eq_false_iff.mp nonempty
  obtain ⟨wide, high⟩ : image.cols ≤ between.cols ∧ image.rows ≤ between.rows := fits
  intro r c hr hc
  have row : min (min r (between.rows - 1)) (image.rows - 1) = min r (image.rows - 1) := by omega
  have col : min (min c (between.cols - 1)) (image.cols - 1) = min c (image.cols - 1) := by omega
  rw [outer r c hr hc, inner _ _ (by omega) (by omega), row, col]

/-- An image is shown in one way at each size. -/
theorem Extends.eq {other : Raster α} (first : image.Extends extended)
    (second : image.Extends other) (size : extended.size = other.size) : extended = other := by
  have hrows : extended.rows = other.rows := congrArg Size.height size
  have hcols : extended.cols = other.cols := congrArg Size.width size
  apply ext_get hrows hcols
  intro r c hr hc
  have same := (first r c hr hc).trans (second r c (hrows ▸ hr) (hcols ▸ hc)).symm
  rw [get?_eq_some_get _ hr hc, get?_eq_some_get _ (hrows ▸ hr) (hcols ▸ hc)] at same
  exact Option.some.inj same

theorem Extends.keeps (shown : image.Extends extended) (fits : image.size.FitsIn extended.size)
    {r c : Nat} (hr : r < image.rows) (hc : c < image.cols) :
    extended.get? r c = image.get? r c := by
  rw [shown r c (Nat.lt_of_lt_of_le hr fits.2) (Nat.lt_of_lt_of_le hc fits.1),
    Nat.min_eq_left (Nat.le_sub_one_of_lt hr), Nat.min_eq_left (Nat.le_sub_one_of_lt hc)]

theorem extendBorder_of_overhang (hangs : ¬ image.size.FitsIn target) :
    image.extendBorder target = .error (.exceedsPadding image.size target) := by
  have larger : target.width < image.cols ∨ target.height < image.rows := by
    rw [Size.FitsIn, Decidable.not_and_iff_not_or_not, Nat.not_le, Nat.not_le] at hangs
    exact hangs
  rw [extendBorder, if_pos larger]

theorem extendBorder_of_size (same : image.size = target) :
    image.extendBorder target = .ok image := by
  subst same
  rw [extendBorder, if_neg (by simp [size]), if_pos ⟨rfl, rfl⟩]

/-- Nothing is made of an empty image but itself. -/
theorem extendBorder_of_empty (fits : image.size.FitsIn target) (other : image.size ≠ target)
    (empty : image.isEmpty = true) : image.extendBorder target = .error .nothingToExtend := by
  have smaller : ¬ (target.width < image.cols ∨ target.height < image.rows) :=
    not_or.mpr ⟨Nat.not_lt.mpr fits.1, Nat.not_lt.mpr fits.2⟩
  have resized : ¬ (image.cols = target.width ∧ image.rows = target.height) := fun same =>
    other (by rw [size, same.1, same.2])
  have bare : ¬ (0 < image.rows ∧ 0 < image.cols) := fun full =>
    Bool.false_ne_true ((isEmpty_eq_false_iff.mpr full).symm.trans empty)
  rw [extendBorder, if_neg smaller, if_neg resized, dif_neg bare]

theorem extendBorder_of_nonempty (fits : image.size.FitsIn target)
    (nonempty : image.isEmpty = false) :
    ∃ extended, image.extendBorder target = .ok extended ∧ extended.size = target ∧
      image.Extends extended := by
  obtain ⟨hrows, hcols⟩ := isEmpty_eq_false_iff.mp nonempty
  refine ⟨_, extendBorder_eq_ok hrows hcols fits.2 fits.1, rfl, ?_⟩
  intro r c hr hc
  rw [get?_eq_some_get _ hr hc, get?_eq_some_get image (by omega) (by omega)]
  exact congrArg some (get_ofFn ..)

theorem extendBorder_eq_ok_iff :
    image.extendBorder target = .ok extended ↔
      (image.size.FitsIn target ∧ (image.size = target ∨ image.isEmpty = false)) ∧
        extended.size = target ∧ image.Extends extended := by
  by_cases fits : image.size.FitsIn target
  · by_cases same : image.size = target
    · rw [extendBorder_of_size same, Except.ok.injEq]
      constructor
      · intro shown
        subst shown
        exact ⟨⟨fits, .inl same⟩, same, Extends.refl image⟩
      · intro shown
        exact (Extends.refl image).eq shown.2.2 (same.trans shown.2.1.symm)
    · cases empty : image.isEmpty with
      | true =>
          rw [extendBorder_of_empty fits same empty]
          exact iff_of_false nofun fun shown => shown.1.2.elim same nofun
      | false =>
          obtain ⟨found, answer, size, shows⟩ := extendBorder_of_nonempty fits empty
          rw [answer, Except.ok.injEq]
          constructor
          · intro shown
            subst shown
            exact ⟨⟨fits, .inr rfl⟩, size, shows⟩
          · intro shown
            exact shows.eq shown.2.2 (size.trans shown.2.1.symm)
  · rw [extendBorder_of_overhang fits]
    exact iff_of_false nofun fun shown => fits shown.1.1

/-- An image that is not empty reaches a size in two steps as at once. -/
theorem extendBorder_in_steps (nonempty : image.isEmpty = false) {first second : Size}
    (inner : image.size.FitsIn first) (outer : first.FitsIn second) :
    ∃ between extended, image.extendBorder first = .ok between ∧
      between.extendBorder second = .ok extended ∧ image.extendBorder second = .ok extended := by
  obtain ⟨between, toFirst, size, shown⟩ := extendBorder_of_nonempty inner nonempty
  subst size
  have full : between.isEmpty = false := by
    obtain ⟨hrows, hcols⟩ := isEmpty_eq_false_iff.mp nonempty
    exact isEmpty_eq_false_iff.mpr
      ⟨Nat.lt_of_lt_of_le hrows inner.2, Nat.lt_of_lt_of_le hcols inner.1⟩
  obtain ⟨extended, toSecond, reached, shows⟩ := extendBorder_of_nonempty outer full
  refine ⟨between, extended, toFirst, toSecond, ?_⟩
  apply extendBorder_eq_ok_iff.mpr
  have fits : image.size.FitsIn second :=
    ⟨Nat.le_trans inner.1 outer.1, Nat.le_trans inner.2 outer.2⟩
  exact ⟨⟨fits, .inr nonempty⟩, reached, shown.trans shows inner full⟩

/-- Border extension succeeds for the sizes an image fits in, if it has samples or the size
already, and shows the nearest sample everywhere. So it does not matter whether a size is reached
at once or in steps, nor whether columns or rows are added first. -/
theorem extendBorder_exact_and_composes (image : Raster α) :
    (∀ target, (∃ extended, image.extendBorder target = .ok extended) ↔
      image.cols ≤ target.width ∧ image.rows ≤ target.height ∧
        (image.size = target ∨ 0 < image.rows ∧ 0 < image.cols)) ∧
    (∀ target extended, image.extendBorder target = .ok extended →
      (extended.rows = target.height ∧ extended.cols = target.width) ∧
      (∀ r c, r < target.height → c < target.width →
        extended.get? r c = image.get? (min r (image.rows - 1)) (min c (image.cols - 1))) ∧
      ∀ r c, r < image.rows → c < image.cols → extended.get? r c = image.get? r c) ∧
    (0 < image.rows → 0 < image.cols →
      (∀ first second : Size, image.size.FitsIn first → first.FitsIn second →
        ∃ between extended, image.extendBorder first = .ok between ∧
          between.extendBorder second = .ok extended ∧
          image.extendBorder second = .ok extended) ∧
      ∀ target, image.size.FitsIn target →
        ∃ wide tall extended, image.extendBorder ⟨target.width, image.rows⟩ = .ok wide ∧
          wide.extendBorder target = .ok extended ∧
          image.extendBorder ⟨image.cols, target.height⟩ = .ok tall ∧
          tall.extendBorder target = .ok extended) := by
  refine ⟨fun target => ?_, fun target extended answer => ?_, fun hrows hcols => ?_⟩
  · rw [← isEmpty_eq_false_iff, ← and_assoc]
    constructor
    · intro ⟨extended, answer⟩
      exact (extendBorder_eq_ok_iff.mp answer).1
    · intro ⟨fits, reached⟩
      cases reached with
      | inl same => exact ⟨image, extendBorder_of_size same⟩
      | inr nonempty =>
          obtain ⟨extended, answer, _⟩ := extendBorder_of_nonempty fits nonempty
          exact ⟨extended, answer⟩
  · obtain ⟨⟨fits, _⟩, size, shown⟩ := extendBorder_eq_ok_iff.mp answer
    subst size
    exact ⟨⟨rfl, rfl⟩, shown, fun r c hr hc => shown.keeps fits hr hc⟩
  · have nonempty := isEmpty_eq_false_iff.mpr ⟨hrows, hcols⟩
    refine ⟨fun first second inner outer => extendBorder_in_steps nonempty inner outer, ?_⟩
    intro target fits
    have columns : image.size.FitsIn ⟨target.width, image.rows⟩ := ⟨fits.1, Nat.le_refl _⟩
    have rows : image.size.FitsIn ⟨image.cols, target.height⟩ := ⟨Nat.le_refl _, fits.2⟩
    have thenRows : Size.FitsIn ⟨target.width, image.rows⟩ target := ⟨Nat.le_refl _, fits.2⟩
    have thenColumns : Size.FitsIn ⟨image.cols, target.height⟩ target := ⟨fits.1, Nat.le_refl _⟩
    obtain ⟨wide, extended, widened, acrossFirst, atOnce⟩ :=
      extendBorder_in_steps nonempty columns thenRows
    obtain ⟨tall, same, grown, downFirst, again⟩ :=
      extendBorder_in_steps nonempty rows thenColumns
    obtain rfl : extended = same := Except.ok.inj (atOnce.symm.trans again)
    exact ⟨wide, tall, extended, widened, acrossFirst, grown, downFirst⟩

end RasterMosaic.Raster
