import Mathlib.Data.Nat.PSub
import RasterMosaic.Proofs.Geocoding.Cell
import RasterMosaic.Proofs.Geocoding.Longitude

/-!
Tie-point grids between and beyond their samples. Every position, whatever number it is, has a cell
whose four samples are stored. In exact numbers it does not matter which of the cells that meet at a
position is taken: they agree along the edges they share, so a grid passes through its samples and
has no steps.
-/

namespace RasterMosaic

/-- Along an axis of `n` tie points, the stretch from point `i` to the next serves the position `t`:
it holds the position, or is the outermost one on that side. -/
structure Serves (n i : Nat) (t : Rat) : Prop where
  next_lt : i + 1 < n
  start_le : (i : Rat) ≤ t ∨ i = 0
  le_stop : t ≤ i + 1 ∨ i + 2 = n

namespace Serves
variable {n i k : Nat} {t : Rat}

/-- The stretch that is looked up serves the position. -/
theorem of_lookup (two_le : 2 ≤ n) (t : Rat) : Serves n (min (Scalar.trunc t) (n - 2)) t := by
  rw [scalar_trunc]
  refine ⟨by omega, ?_, ?_⟩
  · by_cases positive : 0 ≤ t
    · have lower : ((min ⌊t⌋₊ (n - 2) : Nat) : Rat) ≤ ⌊t⌋₊ := Nat.cast_le.mpr (Nat.min_le_left _ _)
      exact .inl (lower.trans (Nat.floor_le positive))
    · have first : ⌊t⌋₊ = 0 := Nat.floor_of_nonpos (le_of_not_ge positive)
      rw [first, Nat.zero_min]
      exact .inr rfl
  · by_cases inner : ⌊t⌋₊ < n - 2
    · rw [min_eq_left inner.le]
      exact .inl (Nat.lt_floor_add_one t).le
    · exact .inr (by omega)

/-- Two stretches serve one position only where they meet. -/
theorem meet (hi : Serves n i t) (hk : Serves n k t) (before : i < k) : k = i + 1 ∧ t = k := by
  have later := hk.next_lt
  have start : (k : Rat) ≤ t := hk.start_le.resolve_right (by omega)
  have stop : t ≤ (i + 1 : Nat) := by
    rw [Nat.cast_succ]
    exact hi.le_stop.resolve_right (by omega)
  have next : k ≤ i + 1 := Nat.cast_le.mp (start.trans stop)
  obtain rfl : k = i + 1 := by omega
  exact ⟨rfl, le_antisymm stop start⟩

/-- Of two stretches that meet at a position the later one is looked up. -/
theorem lookup (h : Serves n i t) : min (Scalar.trunc t) (n - 2) = i ∨
    min (Scalar.trunc t) (n - 2) = i + 1 ∧ t = (i + 1 : Nat) := by
  have inside := h.next_lt
  have found := of_lookup (Nat.le_trans (Nat.le_add_left 2 i) inside) t
  have later : i ≤ min (Scalar.trunc t) (n - 2) := by
    obtain start | first := h.start_le
    · exact le_min (Nat.le_floor start) (by omega)
    · exact first ▸ Nat.zero_le _
  obtain same | before := later.eq_or_lt
  · exact .inl same.symm
  · obtain ⟨next, meeting⟩ := h.meet found before
    rw [next] at meeting
    exact .inr ⟨next, meeting⟩

/-- A tie point is served by the stretches that start or stop there. -/
theorem of_tiePoint (h : Serves n k i) (hi : i < n) : i = k ∨ i = k + 1 := by
  have later := h.next_lt
  have start : k ≤ i := by
    obtain start | first := h.start_le
    · exact Nat.cast_le.mp start
    · omega
  have stop : i ≤ k + 1 := by
    obtain stop | last := h.le_stop
    · exact Nat.cast_le.mp (stop.trans (Nat.cast_succ k).ge)
    · omega
  omega

/-- Inside the grid the stretch holds the position. -/
theorem fraction (h : Serves n i t) (inside : 0 ≤ t) (short : t ≤ n - 1) :
    0 ≤ t - i ∧ t - i ≤ 1 := by
  constructor
  · obtain start | rfl := h.start_le
    · exact sub_nonneg.mpr start
    · rwa [Nat.cast_zero, sub_zero]
  · obtain stop | rfl := h.le_stop
    · linarith
    · push_cast at short
      linarith

section Pieces
variable (piece : ∀ i, i + 1 < n → Rat → Rat) (knot : ∀ i, i < n → Rat)
  (start : ∀ i h, piece i h 0 = knot i (Nat.lt_of_succ_lt h))
  (stop : ∀ i h, piece i h 1 = knot (i + 1) h)
include start stop

/-- Pieces between given values take these at the tie points. -/
theorem piece_eq_knot (h : Serves n k i) (hi : i < n) : piece k h.next_lt (i - k) = knot i hi := by
  obtain rfl | rfl := h.of_tiePoint hi
  · rw [sub_self, start]
  · have whole : ((k + 1 : Nat) : Rat) - k = 1 := by rw [Nat.cast_succ, add_sub_cancel_left]
    rw [whole, stop]

/-- Pieces that serve one position agree there. -/
theorem piece_eq_piece (hi : Serves n i t) (hk : Serves n k t) :
    piece i hi.next_lt (t - i) = piece k hk.next_lt (t - k) := by
  have joined {i k : Nat} (hi : Serves n i t) (hk : Serves n k t) (before : i < k) :
      piece i hi.next_lt (t - i) = piece k hk.next_lt (t - k) := by
    obtain ⟨-, rfl⟩ := hi.meet hk before
    rw [piece_eq_knot piece knot start stop hi (Nat.lt_of_succ_lt hk.next_lt),
      piece_eq_knot piece knot start stop hk (Nat.lt_of_succ_lt hk.next_lt)]
  obtain before | rfl | after := Nat.lt_trichotomy i k
  · exact joined hi hk before
  · rfl
  · exact (joined hk hi after).symm

end Pieces

end Serves

namespace TieGrid

section Lookup
variable {K : Type} [Scalar K]

/-- How far a position lies beyond the first tie point, in units of the spacing. -/
def across (g : TieGrid K) (x : K) : K := (x - g.offsetX) / g.spacingX

def down (g : TieGrid K) (y : K) : K := (y - g.offsetY) / g.spacingY

/-- The samples around a position, looked up step by step: no count goes below zero, and only
samples that the grid has are read. -/
def samplesAround? (g : TieGrid K) (x y : K) : Option (Cell K) := do
  let i := min (Scalar.trunc (g.across x)) (← Nat.psub g.points.cols 2)
  let j := min (Scalar.trunc (g.down y)) (← Nat.psub g.points.rows 2)
  return {
    p00 := ← g.points.get? j i
    p10 := ← g.points.get? j (i + 1)
    p01 := ← g.points.get? (j + 1) i
    p11 := ← g.points.get? (j + 1) (i + 1) }

/-- The stored samples of the cell that is looked up for a position. -/
def samplesAround (g : TieGrid K) (x y : K) : Cell K :=
  g.storedCell (g.cellColumn (g.across x)) (g.cellRow (g.down y)) (g.cellColumn_lt _)
    (g.cellRow_lt _)

/-- A look-up misses no sample, wherever the position is. -/
theorem samplesAround?_eq_some (g : TieGrid K) (x y : K) :
    g.samplesAround? x y = some (g.samplesAround x y) := by
  have column := g.cellColumn_lt (g.across x)
  have row := g.cellRow_lt (g.down y)
  have cols : Nat.psub g.points.cols 2 = some (g.points.cols - 2) := Nat.psub_eq_sub g.two_le_cols
  have rows : Nat.psub g.points.rows 2 = some (g.points.rows - 2) := Nat.psub_eq_sub g.two_le_rows
  have i : min (Scalar.trunc (g.across x)) (g.points.cols - 2) = g.cellColumn (g.across x) := rfl
  have j : min (Scalar.trunc (g.down y)) (g.points.rows - 2) = g.cellRow (g.down y) := rfl
  have p00 := g.points.get?_eq_some_get (Nat.lt_of_succ_lt row) (Nat.lt_of_succ_lt column)
  have p10 := g.points.get?_eq_some_get (Nat.lt_of_succ_lt row) column
  have p01 := g.points.get?_eq_some_get row (Nat.lt_of_succ_lt column)
  have p11 := g.points.get?_eq_some_get row column
  simp only [samplesAround?, cols, rows, Option.bind_eq_bind, Option.bind_some, i, j, p00, p10, p01,
    p11]
  rfl

variable [DecidableLT K]

/-- The grids there are: of given tie points or spanning a raster, and either of longitudes. -/
inductive Made : TieGrid K → Prop
  | created {name : String} {offsetX offsetY spacingX spacingY : K} {points : Raster K}
      {g : TieGrid K} (h : create name offsetX offsetY spacingX spacingY points = .ok g) : Made g
  | spanned {name : String} {gridSize raster : Size} {offsetX offsetY : K} {samples : List K}
      {g : TieGrid K} (h : spanning name gridSize offsetX offsetY raster samples = .ok g) : Made g
  | wrapping {g : TieGrid K} (h : Made g) : Made g.withWrapping

theorem create_eq_ok_iff {name : String} {offsetX offsetY spacingX spacingY : K}
    {points : Raster K} {g : TieGrid K} :
    create name offsetX offsetY spacingX spacingY points = .ok g ↔
      (((0 : Nat) : K) < spacingX ∧ ((0 : Nat) : K) < spacingY) ∧
        ∃ (rows : 2 ≤ points.rows) (cols : 2 ≤ points.cols),
          g = ⟨name, offsetX, offsetY, spacingX, spacingY, points, rows, cols, false⟩ := by
  simp only [create]
  constructor
  · intro h
    split at h
    · rename_i large
      split at h
      · rename_i positive
        rw [Bool.and_eq_true, decide_eq_true_eq, decide_eq_true_eq] at positive
        cases h
        exact ⟨positive, large.1, large.2, rfl⟩
      · cases h
    · cases h
  · rintro ⟨positive, rows, cols, rfl⟩
    rw [dif_pos ⟨rows, cols⟩, if_pos]
    rwa [Bool.and_eq_true, decide_eq_true_eq, decide_eq_true_eq]

/-- A spanning grid is made of tie points of its own. -/
theorem create_of_spanning {name : String} {gridSize raster : Size} {offsetX offsetY : K}
    {samples : List K} {g : TieGrid K}
    (h : spanning name gridSize offsetX offsetY raster samples = .ok g) :
    ∃ points : Raster K, points.size = gridSize ∧
      create name offsetX offsetY ((raster.width : K) / ((gridSize.width - 1 : Nat) : K))
        ((raster.height : K) / ((gridSize.height - 1 : Nat) : K)) points = .ok g := by
  simp only [spanning] at h
  split at h
  · cases h
  · split at h
    · cases h
    · split at h
      · cases h
      · rename_i points held
        simp only [Raster.ofList?] at held
        split at held
        · cases held
          exact ⟨_, rfl, h⟩
        · cases held

theorem Made.spacing_pos {g : TieGrid K} (made : g.Made) :
    ((0 : Nat) : K) < g.spacingX ∧ ((0 : Nat) : K) < g.spacingY := by
  induction made with
  | created h =>
      obtain ⟨positive, rows, cols, rfl⟩ := create_eq_ok_iff.mp h
      exact positive
  | spanned h =>
      obtain ⟨points, _, h⟩ := create_of_spanning h
      obtain ⟨positive, rows, cols, rfl⟩ := create_eq_ok_iff.mp h
      exact positive
  | wrapping h ih => exact ih

end Lookup

section Exact
variable (g : TieGrid Rat)

theorem serves_cellColumn (position : Rat) :
    Serves g.points.cols (g.cellColumn position) position :=
  .of_lookup g.two_le_cols position

theorem serves_cellRow (position : Rat) : Serves g.points.rows (g.cellRow position) position :=
  .of_lookup g.two_le_rows position

variable {g} {i j k l : Nat} {s t : Rat}

/-- The value on a column of samples, at the fraction `v` of the way from row `j` to the next. -/
def onColumn (g : TieGrid Rat) (j : Nat) (hj : j + 1 < g.points.rows) (v : Rat) (i : Nat)
    (hi : i < g.points.cols) : Rat :=
  linear (g.points.get j i (Nat.lt_of_succ_lt hj) hi) (g.points.get (j + 1) i hj hi) v

/-- The value on a row of samples, at the fraction `u` of the way from column `i` to the next. -/
def onRow (g : TieGrid Rat) (i : Nat) (hi : i + 1 < g.points.cols) (u : Rat) (j : Nat)
    (hj : j < g.points.rows) : Rat :=
  linear (g.points.get j i hj (Nat.lt_of_succ_lt hi)) (g.points.get j (i + 1) hj hi) u

section Column
variable (hj : j + 1 < g.points.rows) (v : Rat)

theorem bilinear_onColumn (hk : Serves g.points.cols k i) (hi : i < g.points.cols) :
    (g.storedCell k j hk.next_lt hj).bilinear (i - k) v = g.onColumn j hj v i hi :=
  hk.piece_eq_knot (fun i h u => (g.storedCell i j h hj).bilinear u v) (g.onColumn j hj v)
    (fun i h => (g.storedCell i j h hj).bilinear_left v)
    (fun i h => (g.storedCell i j h hj).bilinear_right v) hi

/-- Cells side by side agree along the column between them. -/
theorem bilinear_eq_of_columns (hi : Serves g.points.cols i s) (hk : Serves g.points.cols k s) :
    (g.storedCell i j hi.next_lt hj).bilinear (s - i) v =
      (g.storedCell k j hk.next_lt hj).bilinear (s - k) v :=
  hi.piece_eq_piece (fun i h u => (g.storedCell i j h hj).bilinear u v) (g.onColumn j hj v)
    (fun i h => (g.storedCell i j h hj).bilinear_left v)
    (fun i h => (g.storedCell i j h hj).bilinear_right v) hk

end Column

section Row
variable (hi : i + 1 < g.points.cols) (u : Rat)

theorem bilinear_onRow (hl : Serves g.points.rows l j) (hj : j < g.points.rows) :
    (g.storedCell i l hi hl.next_lt).bilinear u (j - l) = g.onRow i hi u j hj :=
  hl.piece_eq_knot (fun j h v => (g.storedCell i j hi h).bilinear u v) (g.onRow i hi u)
    (fun j h => (g.storedCell i j hi h).bilinear_top u)
    (fun j h => (g.storedCell i j hi h).bilinear_bottom u) hj

/-- Cells one below the other agree along the row between them. -/
theorem bilinear_eq_of_rows (hj : Serves g.points.rows j t) (hl : Serves g.points.rows l t) :
    (g.storedCell i j hi hj.next_lt).bilinear u (t - j) =
      (g.storedCell i l hi hl.next_lt).bilinear u (t - l) :=
  hj.piece_eq_piece (fun j h v => (g.storedCell i j hi h).bilinear u v) (g.onRow i hi u)
    (fun j h => (g.storedCell i j hi h).bilinear_top u)
    (fun j h => (g.storedCell i j hi h).bilinear_bottom u) hl

end Row

/-- The value on a column of samples passes through them. -/
theorem onColumn_tiePoint (hl : Serves g.points.rows l j) (hi : i < g.points.cols)
    (hj : j < g.points.rows) :
    g.onColumn l hl.next_lt (j - l) i hi = g.points.get j i hj hi :=
  hl.piece_eq_knot (fun j h v => g.onColumn j h v i hi) (fun j h => g.points.get j i h hi)
    (fun _ _ => linear_zero _ _) (fun _ _ => linear_one _ _) hj

/-- Every cell that serves a position gives the value there. -/
theorem valueAt_eq_bilinear (plain : g.wraps = false) {x y : Rat}
    (hi : Serves g.points.cols i (g.across x)) (hj : Serves g.points.rows j (g.down y)) :
    g.valueAt x y = (g.storedCell i j hi.next_lt hj.next_lt).bilinear (g.across x - i)
      (g.down y - j) := by
  have column := g.serves_cellColumn (g.across x)
  have row := g.serves_cellRow (g.down y)
  have value : g.valueAt x y = (g.samplesAround x y).bilinear
      (g.across x - g.cellColumn (g.across x)) (g.down y - g.cellRow (g.down y)) := by
    simp only [valueAt, plain, Bool.false_eq_true, if_false, interpolate, cell]
    rfl
  rw [value, bilinear_eq_of_columns hj.next_lt _ hi column,
    bilinear_eq_of_rows column.next_lt _ hj row]
  rfl

theorem across_mono (positive : 0 < g.spacingX) : Monotone g.across := fun _ _ le =>
  div_le_div_of_nonneg_right (sub_le_sub_right le _) positive.le

theorem down_mono (positive : 0 < g.spacingY) : Monotone g.down := fun _ _ le =>
  div_le_div_of_nonneg_right (sub_le_sub_right le _) positive.le

/-- The pixel column of a tie point. -/
def tieX (g : TieGrid Rat) (i : Nat) : Rat := g.offsetX + i * g.spacingX

def tieY (g : TieGrid Rat) (j : Nat) : Rat := g.offsetY + j * g.spacingY

theorem across_tieX (positive : 0 < g.spacingX) (i : Nat) : g.across (g.tieX i) = i := by
  change (g.offsetX + i * g.spacingX - g.offsetX) / g.spacingX = i
  rw [add_sub_cancel_left, mul_div_cancel_right₀ _ positive.ne']

theorem down_tieY (positive : 0 < g.spacingY) (j : Nat) : g.down (g.tieY j) = j := by
  change (g.offsetY + j * g.spacingY - g.offsetY) / g.spacingY = j
  rw [add_sub_cancel_left, mul_div_cancel_right₀ _ positive.ne']

/-- The position lies between the outermost tie points. -/
structure Holds (g : TieGrid Rat) (x y : Rat) : Prop where
  left : g.tieX 0 ≤ x
  right : x ≤ g.tieX (g.points.cols - 1)
  top : g.tieY 0 ≤ y
  bottom : y ≤ g.tieY (g.points.rows - 1)

theorem Holds.across {x y : Rat} (h : g.Holds x y) (positive : 0 < g.spacingX) :
    0 ≤ g.across x ∧ g.across x ≤ g.points.cols - 1 := by
  have left := across_mono positive h.left
  have right := across_mono positive h.right
  rw [across_tieX positive] at left right
  rw [Nat.cast_pred (Nat.lt_of_lt_of_le Nat.two_pos g.two_le_cols)] at right
  exact ⟨left, right⟩

theorem Holds.down {x y : Rat} (h : g.Holds x y) (positive : 0 < g.spacingY) :
    0 ≤ g.down y ∧ g.down y ≤ g.points.rows - 1 := by
  have top := down_mono positive h.top
  have bottom := down_mono positive h.bottom
  rw [down_tieY positive] at top bottom
  rw [Nat.cast_pred (Nat.lt_of_lt_of_le Nat.two_pos g.two_le_rows)] at bottom
  exact ⟨top, bottom⟩

section Plain
variable (plain : g.wraps = false)
include plain

theorem valueAt_tieX (positive : 0 < g.spacingX) (hi : i < g.points.cols) {y : Rat}
    (hj : Serves g.points.rows j (g.down y)) :
    g.valueAt (g.tieX i) y = g.onColumn j hj.next_lt (g.down y - j) i hi := by
  obtain ⟨k, column⟩ : ∃ k, Serves g.points.cols k (g.across (g.tieX i)) :=
    ⟨_, g.serves_cellColumn _⟩
  have hk : Serves g.points.cols k i := across_tieX positive i ▸ column
  calc g.valueAt (g.tieX i) y
      = (g.storedCell k j hk.next_lt hj.next_lt).bilinear (g.across (g.tieX i) - k)
          (g.down y - j) := valueAt_eq_bilinear plain column hj
    _ = (g.storedCell k j hk.next_lt hj.next_lt).bilinear (i - k) (g.down y - j) := by
        rw [across_tieX positive]
    _ = g.onColumn j hj.next_lt (g.down y - j) i hi := bilinear_onColumn hj.next_lt _ hk hi

theorem valueAt_tieY (positive : 0 < g.spacingY) (hj : j < g.points.rows) {x : Rat}
    (hi : Serves g.points.cols i (g.across x)) :
    g.valueAt x (g.tieY j) = g.onRow i hi.next_lt (g.across x - i) j hj := by
  obtain ⟨l, row⟩ : ∃ l, Serves g.points.rows l (g.down (g.tieY j)) :=
    ⟨_, g.serves_cellRow _⟩
  have hl : Serves g.points.rows l j := down_tieY positive j ▸ row
  calc g.valueAt x (g.tieY j)
      = (g.storedCell i l hi.next_lt hl.next_lt).bilinear (g.across x - i)
          (g.down (g.tieY j) - l) := valueAt_eq_bilinear plain hi row
    _ = (g.storedCell i l hi.next_lt hl.next_lt).bilinear (g.across x - i) (j - l) := by
        rw [down_tieY positive]
    _ = g.onRow i hi.next_lt (g.across x - i) j hj := bilinear_onRow hi.next_lt _ hl hj

theorem valueAt_tiePoint (spacingX : 0 < g.spacingX) (spacingY : 0 < g.spacingY)
    (hi : i < g.points.cols) (hj : j < g.points.rows) :
    g.valueAt (g.tieX i) (g.tieY j) = g.points.get j i hj hi := by
  obtain ⟨l, row⟩ : ∃ l, Serves g.points.rows l (g.down (g.tieY j)) :=
    ⟨_, g.serves_cellRow _⟩
  have hl : Serves g.points.rows l j := down_tieY spacingY j ▸ row
  calc g.valueAt (g.tieX i) (g.tieY j)
      = g.onColumn l hl.next_lt (g.down (g.tieY j) - l) i hi := valueAt_tieX plain spacingX hi row
    _ = g.onColumn l hl.next_lt (j - l) i hi := by rw [down_tieY spacingY]
    _ = g.points.get j i hj hi := onColumn_tiePoint hl hi hj

theorem valueAt_between (spacingX : 0 < g.spacingX) (spacingY : 0 < g.spacingY) {x y : Rat}
    (inside : g.Holds x y) (hi : Serves g.points.cols i (g.across x))
    (hj : Serves g.points.rows j (g.down y)) :
    (g.storedCell i j hi.next_lt hj.next_lt).least ≤ g.valueAt x y ∧
      g.valueAt x y ≤ (g.storedCell i j hi.next_lt hj.next_lt).greatest := by
  obtain ⟨left, right⟩ := inside.across spacingX
  obtain ⟨top, bottom⟩ := inside.down spacingY
  obtain ⟨left, right⟩ := hi.fraction left right
  obtain ⟨top, bottom⟩ := hj.fraction top bottom
  rw [valueAt_eq_bilinear plain hi hj]
  exact Cell.bilinear_between _ left right top bottom

end Plain

end Exact

/-- Every position has a cell whose samples are stored. In exact numbers each cell that serves a
position gives the value there: the sample at a tie point, what lies between two neighbouring
samples on a row or a column of them, and inside the grid nothing beyond the samples of the
cell. -/
theorem valueAt_joins_samples :
    (∀ {K : Type} [Scalar K] [DecidableLT K] (g : TieGrid K), g.Made → ∀ x y : K,
      ∃ c, g.samplesAround? x y = some c ∧
        g.cell (g.across x) (g.down y) = if g.wraps then c.unwrapped else c) ∧
    ∀ g : TieGrid Rat, g.Made → g.wraps = false →
      (∀ x y, Serves g.points.cols (g.cellColumn (g.across x)) (g.across x) ∧
        Serves g.points.rows (g.cellRow (g.down y)) (g.down y)) ∧
      (∀ x y i j (hi : Serves g.points.cols i (g.across x))
        (hj : Serves g.points.rows j (g.down y)),
        g.valueAt x y = (g.storedCell i j hi.next_lt hj.next_lt).bilinear (g.across x - i)
          (g.down y - j)) ∧
      (∀ i j hi hj, g.valueAt (g.tieX i) (g.tieY j) = g.points.get j i hj hi) ∧
      (∀ i hi y j (hj : Serves g.points.rows j (g.down y)),
        g.valueAt (g.tieX i) y = g.onColumn j hj.next_lt (g.down y - j) i hi) ∧
      (∀ x j hj i (hi : Serves g.points.cols i (g.across x)),
        g.valueAt x (g.tieY j) = g.onRow i hi.next_lt (g.across x - i) j hj) ∧
      ∀ x y, g.Holds x y → ∀ i j (hi : Serves g.points.cols i (g.across x))
        (hj : Serves g.points.rows j (g.down y)),
        (g.storedCell i j hi.next_lt hj.next_lt).least ≤ g.valueAt x y ∧
          g.valueAt x y ≤ (g.storedCell i j hi.next_lt hj.next_lt).greatest := by
  refine ⟨fun g _ x y => ⟨_, g.samplesAround?_eq_some x y, rfl⟩, fun g made plain => ?_⟩
  obtain ⟨spacingX, spacingY⟩ := made.spacing_pos
  refine ⟨fun x y => ⟨g.serves_cellColumn _, g.serves_cellRow _⟩,
    fun x y i j => valueAt_eq_bilinear plain,
    fun i j => valueAt_tiePoint plain spacingX spacingY, fun i hi y j => ?_, fun x j hj i => ?_,
    fun x y inside i j => ?_⟩
  · exact valueAt_tieX plain spacingX hi
  · exact valueAt_tieY plain spacingY hj
  · exact valueAt_between plain spacingX spacingY inside

/-- Nine samples two columns and one row apart. -/
def nineSamples : TieGrid Rat :=
  ⟨"nine", 1 / 2, 0, 2, 1, ⟨3, 3, #[0, 1, 4, 2, 3, 5, 7, 8, 6], rfl⟩, by decide, by decide, false⟩

theorem nineSamples_made : nineSamples.Made :=
  .created (create_eq_ok_iff.mpr ⟨by decide +kernel, by decide, by decide, rfl⟩)

/-- The corners of a pixel in machine numbers. -/
def fourSamples : TieGrid Float :=
  ⟨"four", 0, 0, 1, 1, ⟨2, 2, #[0, 1, 2, 3], rfl⟩, by decide, by decide, false⟩

theorem fourSamples_made : fourSamples.Made :=
  .created (create_eq_ok_iff.mpr ⟨by decide +kernel, by decide, by decide, rfl⟩)

/-- No number and infinity have a cell; then the last tie point, a place on the middle column and
one in the last cell. -/
theorem valueAt_joins_nineSamples :
    fourSamples.Made ∧ nineSamples.Made ∧ nineSamples.wraps = false ∧
      (∃ c, fourSamples.samplesAround? (0 / 0) (1 / 0) = some c ∧
        fourSamples.cell (fourSamples.across (0 / 0)) (fourSamples.down (1 / 0)) = c) ∧
      nineSamples.valueAt (nineSamples.tieX 2) (nineSamples.tieY 2) = 6 ∧
      nineSamples.valueAt (nineSamples.tieX 1) (7 / 4) = linear 3 8 (3 / 4) ∧
      3 ≤ nineSamples.valueAt 4 (5 / 4) ∧ nineSamples.valueAt 4 (5 / 4) ≤ 8 := by
  obtain ⟨stored, exact⟩ := valueAt_joins_samples
  obtain ⟨_, _, tiePoints, columns, _, inside⟩ := exact nineSamples nineSamples_made rfl
  have row : Serves 3 1 (nineSamples.down (7 / 4)) :=
    ⟨by decide, .inl (by decide +kernel), .inl (by decide +kernel)⟩
  refine ⟨fourSamples_made, nineSamples_made, rfl, stored fourSamples fourSamples_made _ _,
    tiePoints 2 2 (by decide) (by decide), ?_, ?_⟩
  · have value := columns 1 (by decide) (7 / 4) 1 row
    have fraction : nineSamples.down (7 / 4) - (1 : Nat) = 3 / 4 := by decide +kernel
    rw [fraction] at value
    exact value
  · have column : Serves 3 1 (nineSamples.across 4) :=
      ⟨by decide, .inl (by decide +kernel), .inl (by decide +kernel)⟩
    have row : Serves 3 1 (nineSamples.down (5 / 4)) :=
      ⟨by decide, .inl (by decide +kernel), .inl (by decide +kernel)⟩
    have holds : nineSamples.Holds 4 (5 / 4) :=
      ⟨by decide +kernel, by decide +kernel, by decide +kernel, by decide +kernel⟩
    exact inside 4 (5 / 4) holds 1 1 column row

end TieGrid

end RasterMosaic
