import Mathlib.Algebra.Order.Floor.Div
import RasterMosaic.Proofs.Except
import RasterMosaic.Proofs.Mosaic.Image

/-!
Tiles of a level image. They are cut from the image that the level is answered with, and laid side
by side they are that image again: each of its pixels is in one tile, and none of a tile's pixels
is from elsewhere. As long as the mosaic is not reset or disposed of, tiles come from one image.
-/

namespace RasterMosaic

theorem lt_ceilDiv_iff {total size k : Nat} (positive : 0 < size) :
    k < total ⌈/⌉ size ↔ k * size < total := by
  rw [← Nat.not_le, ceilDiv_le_iff_le_mul positive, Nat.not_le, Nat.mul_comm]

/-- A place on a strip of pieces is in one of them. -/
theorem mul_add_eq_iff {size piece inner place : Nat} (within : inner < size) :
    piece * size + inner = place ↔ piece = place / size ∧ inner = place % size := by
  have unique : place / size = piece ∧ place % size = inner ↔
      inner + size * piece = place ∧ inner < size := Nat.div_mod_unique (Nat.zero_lt_of_lt within)
  rw [and_iff_left within] at unique
  rw [Nat.mul_comm, Nat.add_comm, ← unique, eq_comm, @eq_comm _ inner]

namespace Raster
variable {α : Type}

section Crop
variable (image : Raster α) (top left bottom right : Nat)

@[simp] theorem rows_crop :
    (image.crop top left bottom right).rows = min bottom image.rows - top := rfl

@[simp] theorem cols_crop :
    (image.crop top left bottom right).cols = min right image.cols - left := rfl

theorem get_crop (a b : Nat) (ha : a < (image.crop top left bottom right).rows)
    (hb : b < (image.crop top left bottom right).cols) :
    (image.crop top left bottom right).get a b ha hb =
      image.get (top + a) (left + b) (by simp at ha; omega) (by simp at hb; omega) :=
  get_ofFn _ _ _ a b ha hb

/-- A part has the samples of the whole within its bounds. -/
theorem get?_crop (a b : Nat) :
    (image.crop top left bottom right).get? a b =
      if top + a < bottom ∧ left + b < right then image.get? (top + a) (left + b) else none := by
  by_cases inside : a < (image.crop top left bottom right).rows ∧
      b < (image.crop top left bottom right).cols
  · rw [get?_eq_some_get _ inside.1 inside.2, get_crop]
    simp only [rows_crop, cols_crop] at inside
    rw [if_pos (by omega), get?_eq_some_get]
  · rw [get?, dif_neg inside]
    simp only [rows_crop, cols_crop] at inside
    split
    · rw [get?, dif_neg (by omega)]
    · rfl

end Crop

/-- Tiles by column and row that, laid side by side, are the image. -/
structure Tiled (tileSize : Size) (image : Raster α) (tile? : Nat → Nat → Option (Raster α)) :
    Prop where
  present : ∀ x y, (tile? x y).isSome = true ↔
    x < image.cols ⌈/⌉ tileSize.width ∧ y < image.rows ⌈/⌉ tileSize.height
  size : ∀ x y tile, tile? x y = some tile → tile.isEmpty = false ∧
    tile.cols = min tileSize.width (image.cols - x * tileSize.width) ∧
    tile.rows = min tileSize.height (image.rows - y * tileSize.height)
  shows : ∀ x y tile, tile? x y = some tile → ∀ a b ha hb, ∃ hr hc,
    tile.get a b ha hb = image.get (y * tileSize.height + a) (x * tileSize.width + b) hr hc
  once : ∀ r c, r < image.rows → c < image.cols → ∀ x y a b,
    (∃ tile, tile? x y = some tile ∧ a < tile.rows ∧ b < tile.cols ∧
      y * tileSize.height + a = r ∧ x * tileSize.width + b = c) ↔
    (x = c / tileSize.width ∧ y = r / tileSize.height) ∧
      a = r % tileSize.height ∧ b = c % tileSize.width
  laidOut : ∀ r c,
    ((tile? (c / tileSize.width) (r / tileSize.height)).bind fun tile =>
      tile.get? (r % tileSize.height) (c % tileSize.width)) = image.get? r c

end Raster

namespace Mosaic

section Cut
variable {tileSize : Size} {level : Nat} {image : Raster Float32} {x y : Nat}

theorem cutTile_of_outside
    (outside : ¬ (x * tileSize.width < image.cols ∧ y * tileSize.height < image.rows)) :
    cutTile tileSize level x y image = .error (.tileOutside x y level image.size) :=
  if_pos (by omega)

theorem cutTile_of_inside
    (inside : x * tileSize.width < image.cols ∧ y * tileSize.height < image.rows) :
    cutTile tileSize level x y image =
      .ok (image.crop (y * tileSize.height) (x * tileSize.width)
        (y * tileSize.height + tileSize.height) (x * tileSize.width + tileSize.width)) :=
  if_neg (by omega)

theorem cutTile_eq_ok_iff {tile : Raster Float32} :
    cutTile tileSize level x y image = .ok tile ↔
      (x * tileSize.width < image.cols ∧ y * tileSize.height < image.rows) ∧
        image.crop (y * tileSize.height) (x * tileSize.width)
          (y * tileSize.height + tileSize.height) (x * tileSize.width + tileSize.width) = tile := by
  by_cases inside : x * tileSize.width < image.cols ∧ y * tileSize.height < image.rows
  · rw [cutTile_of_inside inside, Except.ok.injEq, and_iff_right inside]
  · rw [cutTile_of_outside inside]
    exact iff_of_false nofun fun both => inside both.1

/-- A tile and a place on it, for each place of the image. -/
theorem cutTile_place_iff {r c a b : Nat} (hr : r < image.rows) (hc : c < image.cols)
    (tiled : tileSize.isEmpty = false) :
    (∃ tile, cutTile tileSize level x y image = .ok tile ∧ a < tile.rows ∧ b < tile.cols ∧
      y * tileSize.height + a = r ∧ x * tileSize.width + b = c) ↔
    (x = c / tileSize.width ∧ y = r / tileSize.height) ∧
      a = r % tileSize.height ∧ b = c % tileSize.width := by
  obtain ⟨hwidth, hheight⟩ := (Size.isEmpty_eq_false_iff _).mp tiled
  constructor
  · rintro ⟨tile, cut, ha, hb, row, col⟩
    obtain ⟨_, rfl⟩ := cutTile_eq_ok_iff.mp cut
    rw [Raster.rows_crop] at ha
    rw [Raster.cols_crop] at hb
    obtain ⟨hy, ha⟩ := (mul_add_eq_iff (by omega)).mp row
    obtain ⟨hx, hb⟩ := (mul_add_eq_iff (by omega)).mp col
    exact ⟨⟨hx, hy⟩, ha, hb⟩
  · rintro ⟨⟨hx, hy⟩, ha, hb⟩
    have rowWithin : a < tileSize.height := ha ▸ Nat.mod_lt r hheight
    have colWithin : b < tileSize.width := hb ▸ Nat.mod_lt c hwidth
    have row := (mul_add_eq_iff rowWithin).mpr ⟨hy, ha⟩
    have col := (mul_add_eq_iff colWithin).mpr ⟨hx, hb⟩
    refine ⟨_, cutTile_of_inside (by omega), ?_, ?_, row, col⟩
    · rw [Raster.rows_crop]
      omega
    · rw [Raster.cols_crop]
      omega

/-- Each place of the image is shown by the tile that has it, and no other place is. -/
theorem laidOut_cutTile (tiled : tileSize.isEmpty = false) (r c : Nat) :
    ((cutTile tileSize level (c / tileSize.width) (r / tileSize.height) image).toOption.bind
      fun tile => tile.get? (r % tileSize.height) (c % tileSize.width)) = image.get? r c := by
  obtain ⟨hwidth, hheight⟩ := (Size.isEmpty_eq_false_iff _).mp tiled
  have row := Nat.div_add_mod' r tileSize.height
  have col := Nat.div_add_mod' c tileSize.width
  have hr := Nat.mod_lt r hheight
  have hc := Nat.mod_lt c hwidth
  by_cases inside : c / tileSize.width * tileSize.width < image.cols ∧
      r / tileSize.height * tileSize.height < image.rows
  · rw [cutTile_of_inside inside]
    refine (Raster.get?_crop ..).trans ?_
    rw [if_pos (by omega), row, col]
  · rw [cutTile_of_outside inside, Raster.get?, dif_neg (by omega)]
    rfl

theorem tiled_cutTile (tiled : tileSize.isEmpty = false) (level : Nat) (image : Raster Float32) :
    image.Tiled tileSize fun x y => (cutTile tileSize level x y image).toOption := by
  obtain ⟨hwidth, hheight⟩ := (Size.isEmpty_eq_false_iff _).mp tiled
  refine ⟨fun x y => ?_, fun x y tile cut => ?_, fun x y tile cut a b ha hb => ?_, ?_,
    laidOut_cutTile tiled⟩
  · rw [lt_ceilDiv_iff hwidth, lt_ceilDiv_iff hheight]
    by_cases inside : x * tileSize.width < image.cols ∧ y * tileSize.height < image.rows
    · rw [cutTile_of_inside inside]
      exact iff_of_true rfl inside
    · rw [cutTile_of_outside inside]
      exact iff_of_false nofun inside
  · obtain ⟨inside, rfl⟩ := cutTile_eq_ok_iff.mp (toOption_eq_some_iff.mp cut)
    rw [Raster.isEmpty_eq_false_iff, Raster.cols_crop, Raster.rows_crop]
    omega
  · obtain ⟨_, rfl⟩ := cutTile_eq_ok_iff.mp (toOption_eq_some_iff.mp cut)
    exact ⟨_, _, Raster.get_crop ..⟩
  · intro r c hr hc x y a b
    simp only [toOption_eq_some_iff]
    exact cutTile_place_iff hr hc tiled

end Cut

variable {K S : Type} {n : Nat} [LevelSource S]

theorem fst_tile (m : Mosaic K n) (level x y : Nat) (sources : Vector S n) :
    (m.tile level x y sources).1 = (m.image level sources).1.bind fun image =>
      (cutTile m.plan.tileSize level x y image).mapError (.error ∘ .badArgument) := by
  simp only [tile, plan_image]

/-- The mosaic holds the image of a level and answers with it. -/
structure Holds (plan : MosaicPlan K n) (level : Nat) (image : Raster Float32) (m : Mosaic K n) :
    Prop where
  unchanged : m.plan = plan
  active : m.disposed = false
  inRange : level < plan.geometry.levelCount
  held : m.store.get? level = some image

namespace Holds
variable {plan : MosaicPlan K n} {level : Nat} {shown : Raster Float32} {m : Mosaic K n}

theorem image (h : Holds plan level shown m) (sources : Vector S n) (other : Nat) :
    Holds plan level shown (m.image other sources).2.1 := by
  refine ⟨plan_image.trans h.unchanged, disposed_image.trans h.active, h.inRange, ?_⟩
  by_cases inRange : other < m.plan.geometry.levelCount
  · rw [image_of_inRange h.active inRange]
    exact LevelStore.get?_ensure_of_held h.held
  · rw [image_of_outside h.active (Nat.not_lt.mp inRange)]
    exact h.held

theorem serve (h : Holds plan level shown m) (sources : Vector S n) {request : Request}
    (noReset : request ≠ .reset) (noDisposal : request ≠ .dispose) :
    Holds plan level shown (m.serve sources request).2.1 := by
  cases request with
  | image other | tile other _ _ => exact h.image sources other
  | prefetch =>
      exact images_keep (P := fun m _ => Holds plan level shown m)
        (fun _ sources other h => h.image sources other) _ m sources h
  | reset => exact absurd rfl noReset
  | dispose => exact absurd rfl noDisposal

theorem serveAll (h : Holds plan level shown m) (sources : Vector S n)
    {requests : List Request} (noReset : .reset ∉ requests) (noDisposal : .dispose ∉ requests) :
    Holds plan level shown (m.serveAll sources requests).2.1 := by
  induction requests generalizing m sources with
  | nil => exact h
  | cons request rest ih =>
      obtain ⟨other, noReset⟩ := not_or.mp (mt List.mem_cons.mpr noReset)
      obtain ⟨other', noDisposal⟩ := not_or.mp (mt List.mem_cons.mpr noDisposal)
      exact ih (h.serve sources (Ne.symm other) (Ne.symm other')) _ noReset noDisposal

theorem fst_image (h : Holds plan level shown m) (sources : Vector S n) :
    (m.image level sources).1 = .ok shown :=
  fst_image_of_held h.active (h.unchanged ▸ h.inRange) h.held

/-- An image that is answered with is held. -/
theorem of_image {sources : Vector S n}
    (answered : (m.image level sources).1 = .ok shown) :
    Holds m.plan level shown (m.image level sources).2.1 := by
  cases active : m.disposed with
  | true =>
      rw [image_of_disposed active] at answered
      cases answered
  | false =>
      by_cases inRange : level < m.plan.geometry.levelCount
      · rw [image_of_inRange active inRange] at answered ⊢
        exact ⟨rfl, active, inRange, LevelStore.get?_ensure_of_answered answered⟩
      · rw [image_of_outside active (Nat.not_lt.mp inRange)] at answered
        cases answered

end Holds

/-- Tiles laid side by side are the level image: they are those whose corner is on it, they share
out its pixels, and other tiles are refused. They are the same until a reset or disposal. -/
theorem tiles_partition_image [Scalar K] [DecidableLT K] {m : Mosaic K n}
    (reachable : Reachable S m) {level : Nat} {sources : Vector S n} {image : Raster Float32}
    (answered : (m.image level sources).1 = .ok image) :
    let tileSize := m.plan.tileSize
    let tile x y := (m.tile level x y sources).1
    image.Tiled tileSize (fun x y => (tile x y).toOption) ∧
    (∀ x y, ¬ (x < image.cols ⌈/⌉ tileSize.width ∧ y < image.rows ⌈/⌉ tileSize.height) →
      tile x y = .error (.error (.badArgument (.tileOutside x y level image.size)))) ∧
    ∀ others : List Request, .reset ∉ others → .dispose ∉ others →
      ∀ (later : Vector S n) (x y : Nat),
        ((m.serveAll sources (.image level :: others)).2.1.tile level x y later).1 = tile x y := by
  intro tileSize tile
  obtain ⟨hwidth, hheight⟩ := (Size.isEmpty_eq_false_iff _).mp reachable.sound.tiled
  have cut : ∀ x y, tile x y =
      (cutTile tileSize level x y image).mapError (.error ∘ .badArgument) := fun x y => by
    rw [show tile x y = _ from fst_tile m level x y sources, answered]
    rfl
  refine ⟨?_, fun x y outside => ?_, fun others noReset noDisposal later x y => ?_⟩
  · have found : (fun x y => (tile x y).toOption) =
        fun x y => (cutTile tileSize level x y image).toOption := by
      funext x y
      rw [cut]
      cases cutTile tileSize level x y image <;> rfl
    rw [found]
    exact tiled_cutTile reachable.sound.tiled level image
  · rw [lt_ceilDiv_iff hwidth, lt_ceilDiv_iff hheight] at outside
    rw [cut, cutTile_of_outside outside]
    rfl
  · have after : Holds m.plan level image (m.serveAll sources (.image level :: others)).2.1 :=
      (Holds.of_image answered).serveAll (m.image level sources).2.2 noReset noDisposal
    rw [cut, fst_tile, after.fst_image later, after.unchanged]
    rfl

/-- Three columns in tiles of two: the second tile is cut off, and there is no third. -/
theorem tiles_partition_image_uneven :
    ∃ image, (unevenScene.image 1 unevenSources).1 = .ok image ∧ image.size = ⟨3, 2⟩ ∧
      image.Tiled ⟨2, 2⟩ (fun x y => (unevenScene.tile 1 x y unevenSources).1.toOption) ∧
      (∃ last, (unevenScene.tile 1 1 0 unevenSources).1 = .ok last ∧ last.size = ⟨1, 2⟩) ∧
      (unevenScene.tile 1 2 0 unevenSources).1 =
        .error (.error (.badArgument (.tileOutside 2 0 1 ⟨3, 2⟩))) ∧
      ((unevenScene.serveAll unevenSources [.image 1, .prefetch, .tile 2 0 0]).2.1.tile 1 1 0
        unevenSources).1 = (unevenScene.tile 1 1 0 unevenSources).1 := by
  obtain ⟨image, answered, size⟩ :
      ∃ image, (unevenScene.image 1 unevenSources).1 = .ok image ∧ image.size = ⟨3, 2⟩ :=
    ⟨_, rfl, rfl⟩
  have cols : image.cols = 3 := congrArg Size.width size
  have rows : image.rows = 2 := congrArg Size.height size
  obtain ⟨tiled, refused, again⟩ := tiles_partition_image reachable_unevenScene answered
  refine ⟨image, answered, size, tiled, ?_, ?_, again _ (by decide) (by decide) _ 1 0⟩
  · have present := (tiled.present 1 0).mpr (by rw [cols, rows]; decide)
    obtain ⟨last, shown⟩ := Option.isSome_iff_exists.mp present
    obtain ⟨_, width, height⟩ := tiled.size 1 0 last shown
    rw [cols] at width
    rw [rows] at height
    refine ⟨last, toOption_eq_some_iff.mp shown, ?_⟩
    rw [Raster.size, width, height]
    rfl
  · rw [← size]
    exact refused 2 0 (by rw [cols, rows]; decide)

end Mosaic
end RasterMosaic
