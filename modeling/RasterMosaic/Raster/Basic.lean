import RasterMosaic.Rectangle

/-!
Rasters: a grid of samples stored row by row. A sample is read with the proof that its row and
column exist, so no read can miss. `get_ofFn` is the law by which every other operation is read.
-/

namespace RasterMosaic

structure Raster (α : Type) where
  rows : Nat
  cols : Nat
  samples : Array α
  size_eq : samples.size = rows * cols

namespace Raster

variable {α β : Type}

theorem index_lt {rows cols r c : Nat} (hr : r < rows) (hc : c < cols) :
    r * cols + c < rows * cols := by
  have h : (r + 1) * cols ≤ rows * cols := Nat.mul_le_mul_right cols hr
  rw [Nat.add_mul, Nat.one_mul] at h
  omega

theorem row_lt {rows cols k : Nat} (h : k < rows * cols) : k / cols < rows :=
  Nat.div_lt_of_lt_mul (by rwa [Nat.mul_comm])

theorem col_lt {rows cols k : Nat} (h : k < rows * cols) : k % cols < cols :=
  Nat.mod_lt _ (Nat.pos_of_mul_pos_left (Nat.zero_lt_of_lt h))

theorem index_div {cols c : Nat} (r : Nat) (hc : c < cols) : (r * cols + c) / cols = r := by
  rw [Nat.mul_comm, Nat.mul_add_div (Nat.zero_lt_of_lt hc), Nat.div_eq_of_lt hc, Nat.add_zero]

theorem index_mod {cols c : Nat} (r : Nat) (hc : c < cols) : (r * cols + c) % cols = c := by
  rw [Nat.mul_comm, Nat.mul_add_mod, Nat.mod_eq_of_lt hc]

/-- The size of the raster, columns across and rows down. -/
def size (a : Raster α) : Size := ⟨a.cols, a.rows⟩

def isEmpty (a : Raster α) : Bool := a.rows == 0 || a.cols == 0

theorem isEmpty_eq_false_iff {a : Raster α} : a.isEmpty = false ↔ 0 < a.rows ∧ 0 < a.cols := by
  simp [isEmpty, Nat.pos_iff_ne_zero]

def get (a : Raster α) (r c : Nat) (hr : r < a.rows) (hc : c < a.cols) : α :=
  have : r * a.cols + c < a.samples.size := by rw [a.size_eq]; exact index_lt hr hc
  a.samples[r * a.cols + c]

/-- The sample in row `r` and column `c`, if the raster has one there. -/
def get? (a : Raster α) (r c : Nat) : Option α :=
  if h : r < a.rows ∧ c < a.cols then some (a.get r c h.1 h.2) else none

/-- The raster whose sample in row `r` and column `c` is `f r c`. -/
def ofFn (rows cols : Nat) (f : Fin rows → Fin cols → α) : Raster α where
  rows := rows
  cols := cols
  samples := Array.ofFn fun k : Fin (rows * cols) =>
    f ⟨k / cols, row_lt k.isLt⟩ ⟨k % cols, col_lt k.isLt⟩
  size_eq := by simp

/-- The samples in row order, if there are exactly as many as the shape holds. -/
def ofList? (rows cols : Nat) (samples : List α) : Option (Raster α) :=
  if h : samples.toArray.size = rows * cols then some ⟨rows, cols, samples.toArray, h⟩ else none

def filled (s : Size) (value : α) : Raster α where
  rows := s.height
  cols := s.width
  samples := Array.replicate (s.height * s.width) value
  size_eq := by simp

def map (f : α → β) (a : Raster α) : Raster β where
  rows := a.rows
  cols := a.cols
  samples := a.samples.map f
  size_eq := by simp [a.size_eq]

@[simp] theorem rows_ofFn (rows cols : Nat) (f : Fin rows → Fin cols → α) :
    (ofFn rows cols f).rows = rows := rfl

@[simp] theorem cols_ofFn (rows cols : Nat) (f : Fin rows → Fin cols → α) :
    (ofFn rows cols f).cols = cols := rfl

@[simp] theorem rows_filled (s : Size) (value : α) : (filled s value).rows = s.height := rfl

@[simp] theorem cols_filled (s : Size) (value : α) : (filled s value).cols = s.width := rfl

@[simp] theorem rows_map (f : α → β) (a : Raster α) : (a.map f).rows = a.rows := rfl

@[simp] theorem cols_map (f : α → β) (a : Raster α) : (a.map f).cols = a.cols := rfl

@[simp] theorem get_ofFn (rows cols : Nat) (f : Fin rows → Fin cols → α) (r c : Nat)
    (hr : r < rows) (hc : c < cols) :
    (ofFn rows cols f).get r c hr hc = f ⟨r, hr⟩ ⟨c, hc⟩ := by
  simp [get, ofFn, index_div r hc, index_mod r hc]

@[simp] theorem get_filled (s : Size) (value : α) (r c : Nat) (hr : r < s.height)
    (hc : c < s.width) : (filled s value).get r c hr hc = value := by
  simp [get, filled]

@[simp] theorem get_map (f : α → β) (a : Raster α) (r c : Nat) (hr : r < a.rows)
    (hc : c < a.cols) : (a.map f).get r c hr hc = f (a.get r c hr hc) := by
  simp [get, map]

theorem get?_eq_some_get (a : Raster α) {r c : Nat} (hr : r < a.rows) (hc : c < a.cols) :
    a.get? r c = some (a.get r c hr hc) := by
  simp [get?, hr, hc]

theorem lt_of_get?_eq_some {a : Raster α} {r c : Nat} {value : α}
    (h : a.get? r c = some value) : r < a.rows ∧ c < a.cols := by
  simp only [get?] at h
  split at h
  · assumption
  · cases h

theorem eq_of_get?_filled {s : Size} {value other : α} {r c : Nat}
    (h : (filled s value).get? r c = some other) : other = value := by
  obtain ⟨hr, hc⟩ := lt_of_get?_eq_some h
  rw [get?_eq_some_get _ hr hc, get_filled s value r c hr hc] at h
  exact (Option.some.inj h).symm

/-- Rasters of one shape with the same sample at every place are equal. -/
theorem ext_get {a b : Raster α} (hrows : a.rows = b.rows) (hcols : a.cols = b.cols)
    (h : ∀ r c (hr : r < a.rows) (hc : c < a.cols),
      a.get r c hr hc = b.get r c (hrows ▸ hr) (hcols ▸ hc)) : a = b := by
  obtain ⟨rows, cols, xs, hx⟩ := a
  obtain ⟨rows', cols', ys, hy⟩ := b
  obtain rfl : rows = rows' := hrows
  obtain rfl : cols = cols' := hcols
  congr
  refine Array.ext (hx.trans hy.symm) fun k hk _ => ?_
  have hlt : k < rows * cols := hx ▸ hk
  have hsplit : k / cols * cols + k % cols = k := by
    rw [Nat.mul_comm]; exact Nat.div_add_mod k cols
  have := h (k / cols) (k % cols) (row_lt hlt) (col_lt hlt)
  simpa [get, hsplit] using this

end Raster

end RasterMosaic
