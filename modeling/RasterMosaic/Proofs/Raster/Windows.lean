import Mathlib.Data.List.ProdSigma
import Mathlib.Data.List.Sort
import RasterMosaic.Proofs.Pyramid.Rounding
import RasterMosaic.Raster.Decimation

/-!
The windows of a decimation. A level pixel stands for the base pixels whose places, shifted by the
level, are its own. So the windows of all level pixels share out the base: each of its pixels is in
one window, once, and each window has at least one.
-/

namespace RasterMosaic

theorem filter_product {α β : Type} (p : α → Bool) (q : β → Bool) (xs : List α)
    (ys : List β) :
    (xs ×ˢ ys).filter (fun pair => p pair.1 && q pair.2) = xs.filter p ×ˢ ys.filter q := by
  induction xs with
  | nil => rfl
  | cons x rest ih =>
      rw [List.product_cons, List.filter_append, ih, List.filter_map]
      cases h : p x <;> simp [h, List.product_cons, Function.comp_def]

namespace Raster

/-- The pixels of a raster, row by row. -/
def pixels {α : Type} (a : Raster α) : List (Nat × Nat) := List.range a.rows ×ˢ List.range a.cols

section Span
variable {length level k i : Nat}

theorem shiftRight_eq_iff :
    i >>> level = k ↔ k <<< level ≤ i ∧ i < (k + 1) <<< level := by
  rw [Nat.shiftRight_eq_div_pow, Nat.shiftLeft_eq, Nat.shiftLeft_eq,
    Nat.div_eq_iff (Nat.two_pow_pos level), Nat.add_mul, Nat.one_mul]
  have := Nat.two_pow_pos level
  omega

theorem mem_windowSpan : i ∈ windowSpan length level k ↔ i < length ∧ i >>> level = k := by
  rw [shiftRight_eq_iff, windowSpan, List.mem_range'_1]
  omega

/-- A span is the part of the base that the level puts at one place, in order. -/
theorem windowSpan_eq_filter (length level k : Nat) :
    windowSpan length level k = (List.range length).filter fun i => i >>> level = k := by
  have span := List.sortedLT_range' (k <<< level)
    (min ((k + 1) <<< level) length - k <<< level) Nat.one_ne_zero
  have part := (List.pairwise_lt_range (n := length)).filter fun i => i >>> level = k
  exact span.eq_of_mem_iff part.sortedLT fun i => by
    rw [List.mem_filter, List.mem_range, decide_eq_true_eq]
    exact mem_windowSpan

theorem shiftRight_lt_lengthAtLevel (hl : level < wordBits) (inside : i < length) :
    i >>> level < lengthAtLevel length level := by
  rw [lt_lengthAtLevel_iff hl, Nat.shiftRight_eq_div_pow]
  exact Nat.lt_of_le_of_lt (Nat.div_mul_le_self i _) inside

theorem first_mem_windowSpan (hl : level < wordBits) (inside : k < lengthAtLevel length level) :
    k <<< level ∈ windowSpan length level k := by
  rw [mem_windowSpan, Nat.shiftLeft_shiftRight, Nat.shiftLeft_eq]
  exact ⟨(lt_lengthAtLevel_iff hl).mp inside, rfl⟩

/-- The end of a window is a machine word, for lengths with a bit to spare. -/
theorem window_end_lt (hl : level < wordBits) (short : length < 2 ^ (wordBits - 1))
    (inside : k < lengthAtLevel length level) : (k + 1) * 2 ^ level < 2 ^ wordBits := by
  have start := (lt_lengthAtLevel_iff hl).mp inside
  have step : 2 ^ level ≤ 2 ^ (wordBits - 1) :=
    Nat.pow_le_pow_right (by decide) (Nat.le_sub_one_of_lt hl)
  have double : 2 ^ wordBits = 2 * 2 ^ (wordBits - 1) := rfl
  rw [Nat.add_mul, Nat.one_mul]
  omega

end Span

section Window
variable (base : Raster Float32) (level r c : Nat)

theorem windowPixels_eq_product :
    base.windowPixels level r c =
      windowSpan base.rows level r ×ˢ windowSpan base.cols level c := rfl

/-- A window has, row by row, the pixels of the base that the level puts at its place. -/
theorem windowPixels_eq_filter :
    base.windowPixels level r c =
      base.pixels.filter fun p => p.1 >>> level = r && p.2 >>> level = c := by
  rw [windowPixels_eq_product, windowSpan_eq_filter, windowSpan_eq_filter, pixels,
    filter_product (fun i => i >>> level = r) fun j => j >>> level = c]

variable {base level r c}

theorem mem_windowPixels {i j : Nat} :
    (i, j) ∈ base.windowPixels level r c ↔
      (i < base.rows ∧ i >>> level = r) ∧ j < base.cols ∧ j >>> level = c := by
  rw [windowPixels_eq_product, List.mem_product, mem_windowSpan, mem_windowSpan]

theorem nodup_windowPixels : (base.windowPixels level r c).Nodup :=
  .product List.nodup_range' List.nodup_range'

theorem count_windowPixels {i j : Nat} (hi : i < base.rows) (hj : j < base.cols) :
    (base.windowPixels level r c).count (i, j) =
      if r = i >>> level ∧ c = j >>> level then 1 else 0 := by
  rw [nodup_windowPixels.count]
  refine if_congr ?_ rfl rfl
  rw [mem_windowPixels]
  exact ⟨fun h => ⟨h.1.2.symm, h.2.2.symm⟩, fun h => ⟨⟨hi, h.1.symm⟩, hj, h.2.symm⟩⟩

theorem windowPixels_ne_nil (hl : level < wordBits) (hr : r < lengthAtLevel base.rows level)
    (hc : c < lengthAtLevel base.cols level) : base.windowPixels level r c ≠ [] := by
  have first : (r <<< level, c <<< level) ∈ base.windowPixels level r c := by
    rw [windowPixels_eq_product, List.mem_product]
    exact ⟨first_mem_windowSpan hl hr, first_mem_windowSpan hl hc⟩
  exact List.ne_nil_of_mem first

theorem inside_of_mem_windowPixels {p : Nat × Nat} (mem : p ∈ base.windowPixels level r c) :
    p.1 < base.rows ∧ p.2 < base.cols := by
  obtain ⟨⟨hi, _⟩, hj, _⟩ := mem_windowPixels.mp mem
  exact ⟨hi, hj⟩

/-- Every pixel of a window gives its sample. -/
theorem map_some_windowSamples :
    (base.windowSamples level r c).map some =
      (base.windowPixels level r c).map fun p => base.get? p.1 p.2 := by
  rw [windowSamples, List.map_filterMap_some_eq_filter_map_isSome, List.filter_eq_self]
  intro sample mem
  obtain ⟨p, inWindow, rfl⟩ := List.mem_map.mp mem
  obtain ⟨hi, hj⟩ := inside_of_mem_windowPixels inWindow
  exact (congrArg Option.isSome (get?_eq_some_get base hi hj)).trans rfl

theorem length_windowSamples_le :
    (base.windowSamples level r c).length ≤ base.rows * base.cols := by
  have sampled := congrArg List.length (@map_some_windowSamples base level r c)
  rw [List.length_map, List.length_map, windowPixels_eq_filter] at sampled
  rw [sampled]
  refine Nat.le_trans (List.length_filter_le _ _) (Nat.le_of_eq ?_)
  rw [pixels, List.length_product, List.length_range, List.length_range]

theorem mem_windowSamples {v : Float32} :
    v ∈ base.windowSamples level r c ↔
      ∃ i j hi hj, i >>> level = r ∧ j >>> level = c ∧ base.get i j hi hj = v := by
  rw [windowSamples, List.mem_filterMap]
  constructor
  · rintro ⟨⟨i, j⟩, mem, sample⟩
    obtain ⟨⟨hi, row⟩, hj, col⟩ := mem_windowPixels.mp mem
    have same : some (base.get i j hi hj) = some v :=
      (get?_eq_some_get base hi hj).symm.trans sample
    exact ⟨i, j, hi, hj, row, col, Option.some.inj same⟩
  · rintro ⟨i, j, hi, hj, row, col, rfl⟩
    exact ⟨(i, j), mem_windowPixels.mpr ⟨⟨hi, row⟩, hj, col⟩, get?_eq_some_get base hi hj⟩

end Window

/-- The windows of a level with so many rows and columns share out the base. -/
structure SharedOut (base : Raster Float32) (level rows cols : Nat) : Prop where
  place : ∀ i j, i < base.rows → j < base.cols → i >>> level < rows ∧ j >>> level < cols
  once : ∀ i j r c, i < base.rows → j < base.cols →
    (base.windowPixels level r c).count (i, j) = if r = i >>> level ∧ c = j >>> level then 1 else 0
  inOrder : ∀ r c, base.windowPixels level r c =
    base.pixels.filter fun p => p.1 >>> level = r && p.2 >>> level = c
  nonempty : ∀ r c, r < rows → c < cols → base.windowPixels level r c ≠ []
  inside : ∀ r c, ∀ p ∈ base.windowPixels level r c, p.1 < base.rows ∧ p.2 < base.cols
  rowEnd : ∀ r, r < rows → (r + 1) * 2 ^ level < 2 ^ wordBits
  colEnd : ∀ c, c < cols → (c + 1) * 2 ^ level < 2 ^ wordBits

theorem sharedOut_lengthAtLevel (base : Raster Float32) {level : Nat} (hl : level < wordBits)
    (rows : base.rows < 2 ^ (wordBits - 1)) (cols : base.cols < 2 ^ (wordBits - 1)) :
    base.SharedOut level (lengthAtLevel base.rows level) (lengthAtLevel base.cols level) where
  place _ _ hi hj := ⟨shiftRight_lt_lengthAtLevel hl hi, shiftRight_lt_lengthAtLevel hl hj⟩
  once _ _ _ _ hi hj := count_windowPixels hi hj
  inOrder := windowPixels_eq_filter base level
  nonempty _ _ hr hc := windowPixels_ne_nil hl hr hc
  inside _ _ _ mem := inside_of_mem_windowPixels mem
  rowEnd _ hr := window_end_lt hl rows hr
  colEnd _ hc := window_end_lt hl cols hc

end Raster
end RasterMosaic
