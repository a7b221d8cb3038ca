import RasterMosaic.Proofs.Except
import RasterMosaic.Product.Basic

/-!
Tile edges under usable settings. The search always ends with an edge that has pixels, so no
raster is too large or too small for tiles.
-/

namespace RasterMosaic

theorem Config.check_eq_ok_iff {c : Config} :
    c.check = .ok () ↔ 0 < c.minTileSize ∧ c.minTileSize ≤ c.maxTileSize ∧
      0 < c.tileGranularity ∧ c.fillValue.isFinite = true := by
  simp only [check, Nat.pos_iff_ne_zero, ← Nat.not_lt, Bool.not_eq_true']
  repeat' split
  all_goals simp_all

theorem searchTileEdge_pos (size lowest step : Nat) {best : Nat} (edge : Nat) (h : 0 < best) :
    0 < searchTileEdge size lowest step best edge := by
  fun_induction searchTileEdge size lowest step best edge with
  | case1 => exact h
  | case2 best edge inside better =>
      simp only [better]
      split
      · omega
      · exact h
  | case3 best edge inside better _ ih =>
      apply ih
      simp only [better]
      split
      · omega
      · exact h

theorem bestTileEdge_eq_ok {config : Config} (usable : config.check = .ok ()) (size : Nat) :
    ∃ edge, bestTileEdge size config = .ok edge ∧ 0 < edge := by
  obtain ⟨smallest, range, _⟩ := Config.check_eq_ok_iff.mp usable
  have largest : 0 < config.maxTileSize := Nat.lt_of_lt_of_le smallest range
  simp only [bestTileEdge, if_neg (Nat.pos_iff_ne_zero.mp largest)]
  split
  · exact ⟨_, rfl, by omega⟩
  · split
    · exact ⟨size, rfl, by omega⟩
    · exact ⟨_, rfl, searchTileEdge_pos _ _ _ _ largest⟩

/-- Under usable settings every raster has its tile size, and it is not empty. -/
theorem bestTileSize_eq_ok {config : Config} (usable : config.check = .ok ()) (raster : Size) :
    ∃ tileSize, bestTileSize raster config = .ok tileSize ∧ tileSize.isEmpty = false := by
  obtain ⟨width, hwidth, across⟩ := bestTileEdge_eq_ok usable raster.width
  obtain ⟨height, hheight, down⟩ := bestTileEdge_eq_ok usable raster.height
  refine ⟨⟨width, height⟩, ?_, ?_⟩
  · simp only [bestTileSize, hwidth, hheight]
    rfl
  · exact (Size.isEmpty_eq_false_iff _).mpr ⟨across, down⟩

end RasterMosaic
