import RasterMosaic.Raster.Border
import RasterMosaic.Raster.Overlay

/-!
What compositing leaves on a pixel, said without painting. The canvas is the smallest one around
the tiles that are not empty, each pixel shows the last tile that has data there, and border
extension repeats the outermost pixels. Tiles of any kind of sample are covered.
-/

namespace RasterMosaic

variable {T : Type}

namespace Size

/-- No wider and no higher. -/
def FitsIn (a b : Size) : Prop := a.width ≤ b.width ∧ a.height ≤ b.height

/-- Every tile that is not empty ends within the size. -/
def Encloses (size : Size) (tiles : List (PlacedRaster T)) : Prop :=
  ∀ tile ∈ tiles, tile.image.isEmpty = false →
    tile.x + tile.image.cols ≤ size.width ∧ tile.y + tile.image.rows ≤ size.height

/-- The smallest size from the origin that encloses the tiles. -/
def IsExtent (extent : Size) (tiles : List (PlacedRaster T)) : Prop :=
  extent.Encloses tiles ∧ ∀ size : Size, size.Encloses tiles → extent.FitsIn size

theorem IsExtent.eq {a b : Size} {tiles : List (PlacedRaster T)} (ha : a.IsExtent tiles)
    (hb : b.IsExtent tiles) : a = b := by
  obtain ⟨haw, hah⟩ := ha.2 b hb.1
  obtain ⟨hbw, hbh⟩ := hb.2 a ha.1
  cases a
  cases b
  simp only [Size.mk.injEq]
  exact ⟨Nat.le_antisymm haw hbw, Nat.le_antisymm hah hbh⟩

end Size

@[simp] theorem PlacedRaster.isEmpty_bounds (tile : PlacedRaster T) :
    tile.bounds.isEmpty = tile.image.isEmpty :=
  Bool.or_comm _ _

/-- The rectangle at the origin that also reaches the far edges of `b`. -/
def Rectangle.stretch (a b : Rectangle) : Rectangle :=
  .sized ⟨max a.width b.maxX, max a.height b.maxY⟩

private theorem foldl_stretch_le_iff (edges : List Rectangle) (acc : Rectangle) (size : Size) :
    ((edges.foldl .stretch acc).width ≤ size.width ∧
        (edges.foldl .stretch acc).height ≤ size.height) ↔
      (acc.width ≤ size.width ∧ acc.height ≤ size.height) ∧
        ∀ b ∈ edges, b.maxX ≤ size.width ∧ b.maxY ≤ size.height := by
  induction edges generalizing acc with
  | nil => simp
  | cons b rest ih =>
      simp only [List.foldl_cons, ih, Rectangle.stretch, Rectangle.sized, Nat.max_le,
        List.forall_mem_cons]
      constructor
      · rintro ⟨⟨⟨hw, hx⟩, hh, hy⟩, hrest⟩
        exact ⟨⟨hw, hh⟩, ⟨hx, hy⟩, hrest⟩
      · rintro ⟨⟨hw, hh⟩, ⟨hx, hy⟩, hrest⟩
        exact ⟨⟨⟨hw, hx⟩, hh, hy⟩, hrest⟩

private theorem overlayExtent_eq_foldl (tiles : List (PlacedRaster T)) :
    overlayExtent tiles =
      ((tiles.map PlacedRaster.bounds).filter fun b => !b.isEmpty).foldl .stretch
        (.sized ⟨0, 0⟩) :=
  rfl

theorem encloses_iff (size : Size) (tiles : List (PlacedRaster T)) :
    size.Encloses tiles ↔ (overlayExtent tiles).size.FitsIn size := by
  rw [overlayExtent_eq_foldl]
  refine Iff.trans ?_ (foldl_stretch_le_iff _ _ size).symm
  constructor
  · intro h
    refine ⟨⟨Nat.zero_le _, Nat.zero_le _⟩, fun b hb => ?_⟩
    obtain ⟨hb, hfull⟩ := List.mem_filter.mp hb
    obtain ⟨tile, hmem, rfl⟩ := List.mem_map.mp hb
    exact h tile hmem (by simpa using hfull)
  · rintro ⟨_, h⟩ tile hmem hfull
    exact h tile.bounds
      (List.mem_filter.mpr ⟨List.mem_map.mpr ⟨tile, hmem, rfl⟩, by simpa using hfull⟩)

private theorem foldl_stretch_eq_sized (edges : List Rectangle) (acc : Rectangle)
    (h : acc = .sized acc.size) :
    edges.foldl .stretch acc = .sized (edges.foldl .stretch acc).size := by
  induction edges generalizing acc with
  | nil => exact h
  | cons b rest ih => exact ih _ rfl

theorem overlayExtent_eq_sized (tiles : List (PlacedRaster T)) :
    overlayExtent tiles = .sized (overlayExtent tiles).size :=
  foldl_stretch_eq_sized _ _ rfl

theorem isExtent_overlayExtent (tiles : List (PlacedRaster T)) :
    (overlayExtent tiles).size.IsExtent tiles :=
  ⟨(encloses_iff _ tiles).mpr ⟨Nat.le_refl _, Nat.le_refl _⟩,
    fun size h => (encloses_iff size tiles).mp h⟩

section Samples
variable [Sample T]

/-- A no-data value marks the samples equal to it. One that is NaN marks none. -/
def Marks (noData : Option T) (value : T) : Prop :=
  ∃ mark, noData = some mark ∧ Sample.isNaN mark = false ∧ (value == mark) = true

theorem lacksData_eq_false_iff {value : T} {noData : Option T} :
    lacksData value noData = false ↔ Sample.isNaN value = false ∧ ¬ Marks noData value := by
  cases noData with
  | none => simp [lacksData, Marks]
  | some mark => simp [lacksData, Marks]

theorem lacksData_eq_true_iff {value : T} {noData : Option T} :
    lacksData value noData = true ↔ Sample.isNaN value = true ∨ Marks noData value := by
  cases noData with
  | none => simp [lacksData, Marks]
  | some mark => simp [lacksData, Marks]

/-- A tile shows a sample on a canvas pixel: it covers the pixel with it, and the sample is
neither NaN nor marked by the no-data value of the tile or of the whole. -/
structure PlacedRaster.Shows (tile : PlacedRaster T) (noData : Option T) (r c : Nat)
    (value : T) : Prop where
  covers : tile.bounds.Covers c r
  sample : tile.image.get? (r - tile.y) (c - tile.x) = some value
  number : Sample.isNaN value = false
  own : ¬ Marks tile.noData value
  whole : ¬ Marks noData value

/-- The sample of the last tile that shows one on a pixel, or the background where none does. -/
inductive LastShown (tiles : List (PlacedRaster T)) (background : T) (noData : Option T)
    (r c : Nat) : T → Prop
  | tile {before : List (PlacedRaster T)} {tile : PlacedRaster T}
      {after : List (PlacedRaster T)} {value : T} (split : tiles = before ++ tile :: after)
      (shows : tile.Shows noData r c value)
      (last : ∀ later ∈ after, ∀ other, ¬ later.Shows noData r c other) :
      LastShown tiles background noData r c value
  | background (none : ∀ tile ∈ tiles, ∀ value, ¬ tile.Shows noData r c value) :
      LastShown tiles background noData r c background

theorem PlacedRaster.visible?_eq_some_iff {tile : PlacedRaster T} {noData : Option T}
    {r c : Nat} {value : T} :
    tile.visible? noData r c = some value ↔ tile.Shows noData r c value := by
  simp only [visible?, at?, Option.filter_eq_some_iff, Bool.and_eq_true, Bool.not_eq_true',
    lacksData_eq_false_iff]
  constructor
  · rintro ⟨hat, ⟨hnumber, hown⟩, _, hwhole⟩
    split at hat
    · rename_i hle
      have hget := hat
      simp only [Raster.get?] at hget
      split at hget
      · rename_i hlt
        refine ⟨⟨hle.2, ?_, hle.1, ?_⟩, hat, hnumber, hown, hwhole⟩
        · simp only [Rectangle.maxX, bounds]
          omega
        · simp only [Rectangle.maxY, bounds]
          omega
      · contradiction
    · contradiction
  · rintro ⟨⟨hx, _, hy, _⟩, hget, hnumber, hown, hwhole⟩
    refine ⟨?_, ⟨hnumber, hown⟩, hnumber, hwhole⟩
    rw [if_pos ⟨hy, hx⟩, hget]

theorem PlacedRaster.visible?_eq_none_iff {tile : PlacedRaster T} {noData : Option T}
    {r c : Nat} :
    tile.visible? noData r c = none ↔ ∀ value, ¬ tile.Shows noData r c value := by
  simp only [Option.eq_none_iff_forall_ne_some, ne_eq, visible?_eq_some_iff]

theorem lastShown_overlaidSample (tiles : List (PlacedRaster T)) (background : T)
    (noData : Option T) (r c : Nat) :
    LastShown tiles background noData r c (overlaidSample tiles background noData r c) := by
  simp only [overlaidSample]
  cases h : tiles.reverse.findSome? fun tile => tile.visible? noData r c with
  | none =>
      refine .background fun tile hmem => PlacedRaster.visible?_eq_none_iff.mp ?_
      exact List.findSome?_eq_none_iff.mp h tile (List.mem_reverse.mpr hmem)
  | some value =>
      obtain ⟨front, tile, back, hsplit, hshown, hfront⟩ := List.findSome?_eq_some_iff.mp h
      have hpaint : tiles = back.reverse ++ tile :: front.reverse := by
        rw [← List.reverse_reverse tiles, hsplit]
        simp
      refine .tile hpaint (PlacedRaster.visible?_eq_some_iff.mp hshown) fun later hmem => ?_
      exact PlacedRaster.visible?_eq_none_iff.mp (hfront later (List.mem_reverse.mp hmem))

@[simp] theorem rows_foldl_paint (noData : Option T) (tiles : List (PlacedRaster T))
    (canvas : Raster T) : (tiles.foldl (paint noData) canvas).rows = canvas.rows := by
  induction tiles generalizing canvas with
  | nil => rfl
  | cons tile rest ih => exact ih (paint noData canvas tile)

@[simp] theorem cols_foldl_paint (noData : Option T) (tiles : List (PlacedRaster T))
    (canvas : Raster T) : (tiles.foldl (paint noData) canvas).cols = canvas.cols := by
  induction tiles generalizing canvas with
  | nil => rfl
  | cons tile rest ih => exact ih (paint noData canvas tile)

theorem get_foldl_paint (noData : Option T) (tiles : List (PlacedRaster T)) (canvas : Raster T)
    (r c : Nat) (hr : r < canvas.rows) (hc : c < canvas.cols) :
    (tiles.foldl (paint noData) canvas).get r c (by simpa using hr) (by simpa using hc) =
      (tiles.reverse.findSome? fun tile => tile.visible? noData r c).getD
        (canvas.get r c hr hc) := by
  induction tiles generalizing canvas with
  | nil => rfl
  | cons tile rest ih =>
      -- The first tile is painted onto the canvas the others then cover.
      have hpainted : (paint noData canvas tile).get r c hr hc =
          (tile.visible? noData r c).getD (canvas.get r c hr hc) :=
        Raster.get_ofFn _ _ _ r c hr hc
      simp only [List.foldl_cons, ih (paint noData canvas tile) hr hc, hpainted,
        List.reverse_cons, List.findSome?_append, List.findSome?_singleton, Option.getD_or]

@[simp] theorem rows_overlay (tiles : List (PlacedRaster T)) (background : T)
    (noData : Option T) :
    (overlay tiles background noData).rows = (overlayExtent tiles).size.height := by
  simp [overlay, Rectangle.size]

@[simp] theorem cols_overlay (tiles : List (PlacedRaster T)) (background : T)
    (noData : Option T) :
    (overlay tiles background noData).cols = (overlayExtent tiles).size.width := by
  simp [overlay, Rectangle.size]

theorem get_overlay (tiles : List (PlacedRaster T)) (background : T) (noData : Option T)
    (r c : Nat) (hr : r < (overlay tiles background noData).rows)
    (hc : c < (overlay tiles background noData).cols) :
    (overlay tiles background noData).get r c hr hc =
      overlaidSample tiles background noData r c := by
  have hcanvas := get_foldl_paint noData tiles
    (.filled ⟨(overlayExtent tiles).width, (overlayExtent tiles).height⟩ background) r c
    (by simpa [Rectangle.size] using hr) (by simpa [Rectangle.size] using hc)
  exact hcanvas.trans (congrArg (Option.getD _) (Raster.get_filled _ background r c _ _))

end Samples

/-- An image that is not empty and fits in a size is extended to it by its outermost pixels. -/
theorem Raster.extendBorder_eq_ok {image : Raster T} {target : Size}
    (hrows : 0 < image.rows) (hcols : 0 < image.cols)
    (hheight : image.rows ≤ target.height) (hwidth : image.cols ≤ target.width) :
    image.extendBorder target =
      .ok (.ofFn target.height target.width fun r c =>
        image.get (min r (image.rows - 1)) (min c (image.cols - 1)) (by omega) (by omega)) := by
  rw [extendBorder, if_neg (by omega)]
  by_cases hsame : image.cols = target.width ∧ image.rows = target.height
  · rw [if_pos hsame]
    refine congrArg Except.ok (ext_get hsame.2 hsame.1 fun r c hr hc => ?_)
    have hrow : min r (image.rows - 1) = r := by omega
    have hcol : min c (image.cols - 1) = c := by omega
    refine Eq.trans ?_
      (get_ofFn target.height target.width _ r c (hsame.2 ▸ hr) (hsame.1 ▸ hc)).symm
    simp only [hrow, hcol]
  · rw [if_neg hsame, dif_pos ⟨hrows, hcols⟩]

end RasterMosaic
