import RasterMosaic.Proofs.Raster.Compositing

/-!
Painting part by part. Each tile that is not empty is painted into the part of the canvas it covers,
and that part always lies within the canvas. What is left in the end is what the last tiles show,
and how far the canvas reaches does not depend on the order of the tiles, nor on empty ones.
-/

namespace RasterMosaic

namespace Raster
variable {α : Type}

/-- The raster with each sample replaced, by its row and column. -/
def mapIdx (f : Nat → Nat → α → α) (a : Raster α) : Raster α where
  rows := a.rows
  cols := a.cols
  samples := a.samples.mapIdx fun k sample => f (k / a.cols) (k % a.cols) sample
  size_eq := by rw [Array.size_mapIdx, a.size_eq]

theorem get_mapIdx (f : Nat → Nat → α → α) (a : Raster α) (r c : Nat) (hr : r < a.rows)
    (hc : c < a.cols) : (a.mapIdx f).get r c hr hc = f r c (a.get r c hr hc) := by
  simp [get, mapIdx, index_div r hc, index_mod r hc]

/-- The raster with the samples of a part replaced, by their row and column in the part. A part
that reaches beyond the raster cannot be taken from it. -/
def modifyPart? (canvas : Raster α) (part : Rectangle)
    (f : Fin part.height → Fin part.width → α → α) : Option (Raster α) :=
  if part.maxX ≤ canvas.cols ∧ part.maxY ≤ canvas.rows then
    some <| canvas.mapIdx fun r c sample =>
      if inside : part.Covers c r then
        f ⟨r - part.y, Nat.sub_lt_left_of_lt_add inside.2.2.1 inside.2.2.2⟩
          ⟨c - part.x, Nat.sub_lt_left_of_lt_add inside.1 inside.2.1⟩ sample
      else sample
  else none

end Raster

/-- A tile painted into its part of the canvas. -/
def paintPart? {T : Type} [Sample T] (noData : Option T) (canvas : Raster T)
    (tile : PlacedRaster T) : Option (Raster T) :=
  if tile.bounds.isEmpty then some canvas
  else
    canvas.modifyPart? tile.bounds fun r c below =>
      let value := tile.image.get r c r.isLt c.isLt
      if !lacksData value tile.noData && !lacksData value noData then value else below

/-- All tiles painted in order, each into its part of the canvas. -/
def overlayByParts? {T : Type} [Sample T] (tiles : List (PlacedRaster T)) (background : T)
    (noData : Option T) : Option (Raster T) :=
  tiles.foldlM (paintPart? noData) (.filled (overlayExtent tiles).size background)

variable {T : Type}

section Extent
variable {tiles others : List (PlacedRaster T)}

/-- The extent is that of the tiles that are not empty, in whatever order they come. -/
theorem overlayExtent_eq_of_mem_iff
    (same : ∀ tile, tile.image.isEmpty = false → (tile ∈ others ↔ tile ∈ tiles)) :
    overlayExtent others = overlayExtent tiles := by
  have enclosed : ∀ size : Size, size.Encloses others ↔ size.Encloses tiles := fun size =>
    ⟨fun h tile mem full => h tile ((same tile full).mpr mem) full,
      fun h tile mem full => h tile ((same tile full).mp mem) full⟩
  have extent : (overlayExtent others).size.IsExtent tiles := by
    obtain ⟨encloses, least⟩ := isExtent_overlayExtent others
    exact ⟨(enclosed _).mp encloses, fun size h => least size ((enclosed size).mpr h)⟩
  rw [overlayExtent_eq_sized others, overlayExtent_eq_sized tiles,
    extent.eq (isExtent_overlayExtent tiles)]

theorem overlayExtent_of_empty (empty : ∀ tile ∈ tiles, tile.image.isEmpty = true) :
    overlayExtent tiles = .sized ⟨0, 0⟩ := by
  have none : overlayExtent tiles = overlayExtent ([] : List (PlacedRaster T)) := by
    apply overlayExtent_eq_of_mem_iff
    intro tile full
    refine iff_of_false (fun mem => ?_) List.not_mem_nil
    exact Bool.false_ne_true (full.symm.trans (empty tile mem))
  exact none

end Extent

section Paint
variable [Sample T] {noData : Option T} {canvas : Raster T} {tile : PlacedRaster T}

theorem PlacedRaster.visible?_of_not_covers {r c : Nat} (outside : ¬ tile.bounds.Covers c r) :
    tile.visible? noData r c = none :=
  visible?_eq_none_iff.mpr fun _ shows => outside shows.covers

/-- What a tile leaves on a pixel it covers. -/
theorem PlacedRaster.getD_visible?_of_covers {r c : Nat} (covers : tile.bounds.Covers c r)
    {value : T} (sample : tile.image.get? (r - tile.y) (c - tile.x) = some value) (below : T) :
    (tile.visible? noData r c).getD below =
      if !lacksData value tile.noData && !lacksData value noData then value else below := by
  rw [visible?, at?, if_pos ⟨covers.2.2.1, covers.1⟩, sample, Option.filter_some]
  by_cases shown : (!lacksData value tile.noData && !lacksData value noData) = true
  · rw [if_pos shown, if_pos shown, Option.getD_some]
  · rw [if_neg shown, if_neg shown, Option.getD_none]

theorem paint_of_isEmpty (empty : tile.bounds.isEmpty = true) :
    paint noData canvas tile = canvas := by
  have rows : (paint noData canvas tile).rows = canvas.rows := rfl
  apply Raster.ext_get rows rfl
  intro r c hr hc
  refine (Raster.get_ofFn _ _ _ r c hr hc).trans ?_
  have outside : ¬ tile.bounds.Covers c r := fun covers =>
    Bool.false_ne_true ((Rectangle.isEmpty_eq_false_of_covers covers).symm.trans empty)
  rw [PlacedRaster.visible?_of_not_covers outside, Option.getD_none]

/-- A tile that the canvas encloses is painted into a part of it. -/
theorem paintPart?_eq_some (enclosed : tile.image.isEmpty = false →
    tile.x + tile.image.cols ≤ canvas.cols ∧ tile.y + tile.image.rows ≤ canvas.rows) :
    paintPart? noData canvas tile = some (paint noData canvas tile) := by
  cases empty : tile.bounds.isEmpty with
  | true => rw [paintPart?, if_pos empty, paint_of_isEmpty empty]
  | false =>
      have within : tile.bounds.maxX ≤ canvas.cols ∧ tile.bounds.maxY ≤ canvas.rows :=
        enclosed (tile.isEmpty_bounds ▸ empty)
      simp only [paintPart?, empty, Bool.false_eq_true, if_false, Raster.modifyPart?, if_pos within]
      refine congrArg some (Raster.ext_get rfl rfl fun r c hr hc => ?_)
      refine Eq.trans (Raster.get_mapIdx _ canvas r c hr hc) ?_
      refine Eq.trans ?_ (Raster.get_ofFn _ _ _ r c hr hc).symm
      by_cases covers : tile.bounds.Covers c r
      · rw [dif_pos covers]
        have sample := Raster.get?_eq_some_get tile.image
          (Nat.sub_lt_left_of_lt_add covers.2.2.1 covers.2.2.2)
          (Nat.sub_lt_left_of_lt_add covers.1 covers.2.1)
        exact (PlacedRaster.getD_visible?_of_covers covers sample _).symm
      · rw [dif_neg covers, PlacedRaster.visible?_of_not_covers covers, Option.getD_none]

theorem foldlM_paintPart?_eq_some {tiles : List (PlacedRaster T)}
    (enclosed : canvas.size.Encloses tiles) :
    tiles.foldlM (paintPart? noData) canvas = some (tiles.foldl (paint noData) canvas) := by
  induction tiles generalizing canvas with
  | nil => rfl
  | cons tile rest ih =>
      have first : paintPart? noData canvas tile = some (paint noData canvas tile) :=
        paintPart?_eq_some (enclosed tile List.mem_cons_self)
      rw [List.foldlM_cons, first, Option.bind_eq_bind, Option.bind_some]
      exact ih fun later mem => enclosed later (List.mem_cons_of_mem _ mem)

theorem overlayByParts?_eq_some (tiles : List (PlacedRaster T)) (background : T)
    (noData : Option T) :
    overlayByParts? tiles background noData = some (overlay tiles background noData) :=
  foldlM_paintPart?_eq_some (isExtent_overlayExtent tiles).1

end Paint

section Shown
variable [Sample T] {tiles : List (PlacedRaster T)} {background : T} {noData : Option T}

/-- What a pixel shows is one sample. -/
theorem lastShown_iff {r c : Nat} {value : T} :
    LastShown tiles background noData r c value ↔
      overlaidSample tiles background noData r c = value := by
  constructor
  · intro shown
    cases shown with
    | tile split shows last =>
        have found : tiles.reverse.findSome? (fun tile => tile.visible? noData r c) =
            some value := by
          rw [List.findSome?_eq_some_iff]
          refine ⟨_, _, _, by rw [split, List.reverse_append, List.reverse_cons,
            List.append_assoc, List.singleton_append], ?_, fun later mem => ?_⟩
          · exact PlacedRaster.visible?_eq_some_iff.mpr shows
          · exact PlacedRaster.visible?_eq_none_iff.mpr (last later (List.mem_reverse.mp mem))
        rw [overlaidSample, found, Option.getD_some]
    | background none =>
        have found : tiles.reverse.findSome? (fun tile => tile.visible? noData r c) = Option.none :=
          List.findSome?_eq_none_iff.mpr fun tile mem =>
            PlacedRaster.visible?_eq_none_iff.mpr (none tile (List.mem_reverse.mp mem))
        rw [overlaidSample, found, Option.getD_none]
  · intro same
    rw [← same]
    exact lastShown_overlaidSample tiles background noData r c

theorem size_overlay (tiles : List (PlacedRaster T)) (background : T) (noData : Option T) :
    (overlay tiles background noData).size = (overlayExtent tiles).size := by
  rw [Raster.size, cols_overlay, rows_overlay]

theorem get?_overlay_eq_some_iff {r c : Nat} {value : T} :
    (overlay tiles background noData).get? r c = some value ↔
      (r < (overlayExtent tiles).height ∧ c < (overlayExtent tiles).width) ∧
        LastShown tiles background noData r c value := by
  have rows : (overlay tiles background noData).rows = (overlayExtent tiles).height :=
    rows_overlay ..
  have cols : (overlay tiles background noData).cols = (overlayExtent tiles).width :=
    cols_overlay ..
  rw [← rows, ← cols, lastShown_iff]
  by_cases inside : r < (overlay tiles background noData).rows ∧
      c < (overlay tiles background noData).cols
  · rw [Raster.get?_eq_some_get _ inside.1 inside.2, get_overlay, Option.some.injEq,
      and_iff_right inside]
  · rw [Raster.get?, dif_neg inside]
    exact iff_of_false (Option.some_ne_none value).symm fun shown => inside shown.1

end Shown

/-- The canvas of an overlay is the smallest one from the origin around the tiles that are not
empty, whatever their order. Each tile is painted into a part of it, and in the end each pixel
shows the last tile that has data there, or the background. -/
theorem overlay_shows_last [Sample T] (tiles : List (PlacedRaster T)) (background : T)
    (noData : Option T) :
    let extent := overlayExtent tiles
    let canvas := overlay tiles background noData
    (extent = .sized extent.size ∧ extent.size.IsExtent tiles) ∧
    ((∀ tile ∈ tiles, tile.image.isEmpty = true) → extent = .sized ⟨0, 0⟩) ∧
    (∀ others, (∀ tile, tile.image.isEmpty = false → (tile ∈ others ↔ tile ∈ tiles)) →
      overlayExtent others = extent) ∧
    overlayByParts? tiles background noData = some canvas ∧
    canvas.size = extent.size ∧
    ∀ r c value, canvas.get? r c = some value ↔
      (r < extent.height ∧ c < extent.width) ∧
        LastShown tiles background noData r c value := by
  intro extent canvas
  refine ⟨⟨overlayExtent_eq_sized tiles, isExtent_overlayExtent tiles⟩, overlayExtent_of_empty,
    fun others same => overlayExtent_eq_of_mem_iff same, overlayByParts?_eq_some ..,
    size_overlay .., ?_⟩
  intro r c value
  exact get?_overlay_eq_some_iff

end RasterMosaic
