import RasterMosaic.Proofs.Geocoding.TieGrid

/-!
Longitudes between tie points. Four longitudes that lie on an arc of less than half a turn can be
measured along it, in one way up to whole turns, and counting western ones on past 180 is that way
whenever two of them are more than half a turn apart as numbers. So a cell follows the short arc,
across the antimeridian or not, and neighbouring cells that do so agree on the edge they share.
-/

namespace RasterMosaic

open AddCommGroup

/-- Longitudes that are not half a turn apart differ by as much on all measures of them. -/
theorem sub_eq_sub_of_modEq {p q p' q' : Rat} (hp : p ≡ p' [PMOD (360 : Rat)])
    (hq : q ≡ q' [PMOD (360 : Rat)]) (near : |p - q| < 180) (near' : |p' - q'| ≤ 180) :
    p - q = p' - q' := by
  apply eq_of_modEq_of_abs_lt (hp.sub hq)
  have apart := abs_sub (p' - q') (p - q)
  linarith

theorem linear_modEq {a b a' b' : Rat} (ha : a ≡ a' [PMOD (360 : Rat)])
    (hb : b ≡ b' [PMOD (360 : Rat)]) (near : |b - a| < 180) (near' : |b' - a'| < 180) (t : Rat) :
    linear a b t ≡ linear a' b' t [PMOD (360 : Rat)] := by
  have same := sub_eq_sub_of_modEq hb ha near near'.le
  have moved : linear a b t = linear a' b' t + (a - a') := by
    obtain rfl : b = b' - a' + a := by linarith
    simp only [linear]
    ring
  rw [moved]
  exact add_modEq_left.mpr (sub_modEq_zero.mpr ha)

/-- A western longitude counted on past 180. -/
def pastAntimeridian (p : Rat) : Rat := if p < 0 then p + 360 else p

theorem pastAntimeridian_modEq (p : Rat) : pastAntimeridian p ≡ p [PMOD (360 : Rat)] := by
  rw [pastAntimeridian]
  split
  · exact add_modEq_left.mpr self_modEq_zero
  · exact modEq_refl p

theorem pastAntimeridian_range {p : Rat} (range : |p| ≤ 180) :
    0 ≤ pastAntimeridian p ∧ pastAntimeridian p < 360 := by
  obtain ⟨lower, upper⟩ := abs_le.mp range
  rw [pastAntimeridian]
  split <;> constructor <;> linarith

/-- Where an eastern and a western longitude lie across the antimeridian from each other, any other
one of the arc is as far from the eastern one as it is when western ones count on. -/
theorem pastAntimeridian_sub_eq {p east west q qe qw : Rat} (hp : q ≡ p [PMOD (360 : Rat)])
    (he : qe ≡ east [PMOD (360 : Rat)]) (hw : qw ≡ west [PMOD (360 : Rat)])
    (near_east : |q - qe| < 180) (near_west : |q - qw| < 180) (near : |qw - qe| < 180)
    (range : |p| ≤ 180) (range_east : |east| ≤ 180) (range_west : |west| ≤ 180)
    (apart : 180 < east - west) : pastAntimeridian p - east = q - qe := by
  obtain ⟨least, most⟩ := pastAntimeridian_range range
  obtain ⟨east_least, east_most⟩ := abs_le.mp range_east
  obtain ⟨west_least, west_most⟩ := abs_le.mp range_west
  have across : qw - qe = west + 360 - east := by
    apply sub_eq_sub_of_modEq _ he near (abs_le.mpr ⟨by linarith, by linarith⟩)
    exact hw.trans (add_modEq_left.mpr self_modEq_zero).symm
  obtain ⟨after_east, before_east⟩ := abs_lt.mp near_east
  obtain ⟨after_west, before_west⟩ := abs_lt.mp near_west
  apply eq_of_modEq_of_abs_lt
  · exact ((pastAntimeridian_modEq p).trans hp.symm).sub he.symm
  · exact abs_lt.mpr ⟨by linarith, by linarith⟩

namespace Cell

/-- The four longitudes of a cell measured along an arc of less than half a turn: each is on its
meridian, and no two are half a turn apart. -/
structure Measures (arc c : Cell Rat) : Prop where
  meridian : ∀ right below, arc.corner right below ≡ c.corner right below [PMOD (360 : Rat)]
  short : ∀ right below right' below',
    |arc.corner right below - arc.corner right' below'| < 180

/-- The longitudes of the cell lie on an arc of less than half a turn. -/
def OnShortArc (c : Cell Rat) : Prop := ∃ arc : Cell Rat, arc.Measures c

theorem bilinear_add_turns {a b : Cell Rat} {turns : Rat}
    (moved : ∀ right below, a.corner right below = b.corner right below + turns) (u v : Rat) :
    a.bilinear u v = b.bilinear u v + turns := by
  have p00 : a.p00 = b.p00 + turns := moved false false
  have p10 : a.p10 = b.p10 + turns := moved true false
  have p01 : a.p01 = b.p01 + turns := moved false true
  have p11 : a.p11 = b.p11 + turns := moved true true
  simp only [bilinear_eq_rows, linear, p00, p10, p01, p11]
  ring

/-- Measures of one cell give the same longitudes. -/
theorem Measures.bilinear_modEq {a b c : Cell Rat} (ha : a.Measures c) (hb : b.Measures c)
    (u v : Rat) : a.bilinear u v ≡ b.bilinear u v [PMOD (360 : Rat)] := by
  have same (right below : Bool) :
      a.corner right below ≡ b.corner right below [PMOD (360 : Rat)] :=
    (ha.meridian right below).trans (hb.meridian right below).symm
  have moved (right below : Bool) :
      a.corner right below = b.corner right below + (a.p00 - b.p00) := by
    have apart := sub_eq_sub_of_modEq (same right below) (same false false)
      (ha.short right below false false) (hb.short right below false false).le
    simp only [corner] at apart ⊢
    linarith
  rw [bilinear_add_turns moved]
  exact add_modEq_left.mpr (sub_modEq_zero.mpr (same false false))

theorem crossesAntimeridian_iff {c : Cell Rat} :
    c.crossesAntimeridian = true ↔ ∃ right below right' below',
      180 < c.corner right below - c.corner right' below' := by
  simp only [crossesAntimeridian, List.any_eq_true, decide_eq_true_eq, mem_toList_iff]
  constructor
  · rintro ⟨_, ⟨right, below, rfl⟩, _, ⟨right', below', rfl⟩, apart⟩
    exact ⟨right, below, right', below', apart⟩
  · rintro ⟨right, below, right', below', apart⟩
    exact ⟨_, ⟨right, below, rfl⟩, _, ⟨right', below', rfl⟩, apart⟩

theorem corner_unwrapped (c : Cell Rat) (right below : Bool) :
    c.unwrapped.corner right below =
      if c.crossesAntimeridian then pastAntimeridian (c.corner right below)
      else c.corner right below := by
  rw [unwrapped]
  split <;> cases right <;> cases below <;> rfl

theorem unwrapped_modEq (c : Cell Rat) (right below : Bool) :
    c.unwrapped.corner right below ≡ c.corner right below [PMOD (360 : Rat)] := by
  rw [corner_unwrapped]
  split
  · exact pastAntimeridian_modEq _
  · exact modEq_refl _

/-- The unwrapped longitudes are measured along the short arc, if there is one. -/
theorem OnShortArc.unwrapped {c : Cell Rat} (h : c.OnShortArc)
    (range : ∀ right below, |c.corner right below| ≤ 180) : c.unwrapped.Measures c := by
  obtain ⟨arc, measured⟩ := h
  refine ⟨c.unwrapped_modEq, fun right below right' below' => ?_⟩
  rw [corner_unwrapped, corner_unwrapped]
  by_cases crossing : c.crossesAntimeridian = true
  · obtain ⟨east, east', west, west', apart⟩ := crossesAntimeridian_iff.mp crossing
    have from_east (right below : Bool) :
        pastAntimeridian (c.corner right below) - c.corner east east' =
          arc.corner right below - arc.corner east east' :=
      pastAntimeridian_sub_eq (measured.meridian right below) (measured.meridian east east')
        (measured.meridian west west') (measured.short right below east east')
        (measured.short right below west west') (measured.short west west' east east')
        (range right below) (range east east') (range west west') apart
    have same : pastAntimeridian (c.corner right below) -
        pastAntimeridian (c.corner right' below') =
          arc.corner right below - arc.corner right' below' := by
      linarith [from_east right below, from_east right' below']
    rw [if_pos crossing, if_pos crossing, same]
    exact measured.short right below right' below'
  · have close (right below right' below' : Bool) :
        c.corner right below - c.corner right' below' ≤ 180 :=
      not_lt.mp fun apart => crossing
        (crossesAntimeridian_iff.mpr ⟨right, below, right', below', apart⟩)
    have close : |c.corner right below - c.corner right' below'| ≤ 180 :=
      abs_sub_le_iff.mpr ⟨close right below right' below', close right' below' right below⟩
    have short := measured.short right below right' below'
    rw [if_neg crossing, if_neg crossing, ← sub_eq_sub_of_modEq (measured.meridian right below)
      (measured.meridian right' below') short close]
    exact short

/-- Cells side by side whose longitudes are measured agree on the edge between them. -/
theorem Measures.beside {a b left right : Cell Rat} (ha : a.Measures left) (hb : b.Measures right)
    (shared : ∀ below, left.corner true below = right.corner false below) (v : Rat) :
    a.bilinear 1 v ≡ b.bilinear 0 v [PMOD (360 : Rat)] := by
  have same (below : Bool) : a.corner true below ≡ b.corner false below [PMOD (360 : Rat)] := by
    refine (ha.meridian true below).trans ?_
    rw [shared]
    exact (hb.meridian false below).symm
  rw [bilinear_right, bilinear_left]
  exact linear_modEq (same false) (same true) (ha.short true true true false)
    (hb.short false true false false) v

theorem Measures.below {a b upper lower : Cell Rat} (ha : a.Measures upper) (hb : b.Measures lower)
    (shared : ∀ right, upper.corner right true = lower.corner right false) (u : Rat) :
    a.bilinear u 1 ≡ b.bilinear u 0 [PMOD (360 : Rat)] := by
  have same (right : Bool) : a.corner right true ≡ b.corner right false [PMOD (360 : Rat)] := by
    refine (ha.meridian right true).trans ?_
    rw [shared]
    exact (hb.meridian right false).symm
  rw [bilinear_bottom, bilinear_top]
  exact linear_modEq (same false) (same true) (ha.short true true false true)
    (hb.short true false false false) u

end Cell

namespace TieGrid

/-- The samples are longitudes from -180 to 180. -/
def HoldsLongitudes (g : TieGrid Rat) : Prop := ∀ r c hr hc, |g.points.get r c hr hc| ≤ 180

variable {g : TieGrid Rat} {i j k l : Nat} {x y : Rat}

theorem HoldsLongitudes.corner (range : g.HoldsLongitudes) (hi : i + 1 < g.points.cols)
    (hj : j + 1 < g.points.rows) (right below : Bool) :
    |(g.storedCell i j hi hj).corner right below| ≤ 180 := by
  cases right <;> cases below <;> exact range _ _ (by omega) (by omega)

section Wraps
variable (wraps : g.wraps = true)
include wraps

theorem valueAt_modEq (column : g.cellColumn (g.across x) = k) (row : g.cellRow (g.down y) = l)
    (hk : k + 1 < g.points.cols) (hl : l + 1 < g.points.rows) :
    g.valueAt x y ≡ (g.storedCell k l hk hl).unwrapped.bilinear (g.across x - k) (g.down y - l)
      [PMOD (360 : Rat)] := by
  subst column row
  simp only [valueAt, wraps, if_true, interpolate, cell]
  exact normalizeLongitude_modEq _

theorem abs_valueAt_le : |g.valueAt x y| ≤ 180 := by
  simp only [valueAt, wraps, if_true]
  exact abs_normalizeLongitude_le _

/-- At a tie point the value is its sample, whatever lies around it. -/
theorem valueAt_sample_modEq (across : g.across x = i) (down : g.down y = j)
    (hi : i < g.points.cols) (hj : j < g.points.rows) :
    g.valueAt x y ≡ g.points.get j i hj hi [PMOD (360 : Rat)] := by
  have column := g.serves_cellColumn (g.across x)
  have row := g.serves_cellRow (g.down y)
  generalize hk : g.cellColumn (g.across x) = k at column
  generalize hl : g.cellRow (g.down y) = l at row
  have hk' : k + 1 < g.points.cols := column.next_lt
  have hl' : l + 1 < g.points.rows := row.next_lt
  have value := valueAt_modEq wraps hk hl hk' hl'
  rw [across] at column value
  rw [down] at row value
  obtain ⟨right, rfl⟩ : ∃ right : Bool, i = k + right.toNat := by
    obtain rfl | rfl := column.of_tiePoint hi
    exacts [⟨false, rfl⟩, ⟨true, rfl⟩]
  obtain ⟨below, rfl⟩ : ∃ below : Bool, j = l + below.toNat := by
    obtain rfl | rfl := row.of_tiePoint hj
    exacts [⟨false, rfl⟩, ⟨true, rfl⟩]
  rw [Nat.cast_add, Nat.cast_add, add_sub_cancel_left, add_sub_cancel_left,
    Cell.bilinear_corner] at value
  refine value.trans ((Cell.unwrapped_modEq _ right below).trans ?_)
  cases right <;> cases below <;> exact modEq_refl _

/-- At its corners a measured cell has the longitudes of the grid. -/
theorem valueAt_modEq_at_corner {arc : Cell Rat} {hk : k + 1 < g.points.cols}
    {hl : l + 1 < g.points.rows} (measured : arc.Measures (g.storedCell k l hk hl))
    (right below : Bool) (across : g.across x = (k + right.toNat : Nat))
    (down : g.down y = (l + below.toNat : Nat)) :
    g.valueAt x y ≡ arc.bilinear (g.across x - k) (g.down y - l) [PMOD (360 : Rat)] := by
  have hi : k + right.toNat < g.points.cols := by have := right.toNat_le; omega
  have hj : l + below.toNat < g.points.rows := by have := below.toNat_le; omega
  refine (valueAt_sample_modEq wraps across down hi hj).trans ?_
  rw [across, down, Nat.cast_add, Nat.cast_add, add_sub_cancel_left, add_sub_cancel_left,
    Cell.bilinear_corner]
  refine ModEq.trans ?_ (measured.meridian right below).symm
  cases right <;> cases below <;> exact modEq_refl _

section Measured
variable (range : g.HoldsLongitudes) {arc : Cell Rat}
include range

/-- A cell whose longitudes are measured gives those along the arc. -/
theorem valueAt_modEq_of_measures {hk : k + 1 < g.points.cols} {hl : l + 1 < g.points.rows}
    (measured : arc.Measures (g.storedCell k l hk hl)) (column : g.cellColumn (g.across x) = k)
    (row : g.cellRow (g.down y) = l) :
    g.valueAt x y ≡ arc.bilinear (g.across x - k) (g.down y - l) [PMOD (360 : Rat)] := by
  have short : (g.storedCell k l hk hl).OnShortArc := ⟨arc, measured⟩
  have unwrapped := short.unwrapped (range.corner hk hl)
  exact (valueAt_modEq wraps column row hk hl).trans (unwrapped.bilinear_modEq measured _ _)

/-- On its left and its upper edge a cell is looked up, or the position is a corner of it. -/
theorem valueAt_modEq_on_edge (hk : Serves g.points.cols k (g.across x))
    (hl : Serves g.points.rows l (g.down y))
    (measured : arc.Measures (g.storedCell k l hk.next_lt hl.next_lt))
    (edge : g.across x = k ∨ g.down y = l) :
    g.valueAt x y ≡ arc.bilinear (g.across x - k) (g.down y - l) [PMOD (360 : Rat)] := by
  have next (n : Nat) : ((n + 1 : Nat) : Rat) ≠ n := Nat.cast_injective.ne (Nat.succ_ne_self n)
  obtain column | ⟨_, across⟩ := hk.lookup <;> obtain row | ⟨_, down⟩ := hl.lookup
  · exact valueAt_modEq_of_measures wraps range measured column row
  · have left := edge.resolve_right (down ▸ next l)
    exact valueAt_modEq_at_corner wraps measured false true left down
  · have top := edge.resolve_left (across ▸ next k)
    exact valueAt_modEq_at_corner wraps measured true false across top
  · have left := edge.resolve_right (down ▸ next l)
    exact absurd left (across ▸ next k)

end Measured
end Wraps

/-- Inside a cell whose longitudes lie on an arc of less than half a turn a grid has those measured
along the arc, on the edge between two such cells those of both, and all are from -180 to 180. -/
theorem valueAt_follows_short_arcs {g : TieGrid Rat} (made : g.Made) (wraps : g.wraps = true)
    (range : g.HoldsLongitudes) :
    (∀ i j hi hj (arc : Cell Rat), arc.Measures (g.storedCell i j hi hj) →
      ∀ x y, g.Holds x y → g.cellColumn (g.across x) = i → g.cellRow (g.down y) = j →
        g.valueAt x y ≡ arc.bilinear (g.across x - i) (g.down y - j) [PMOD (360 : Rat)] ∧
          arc.least ≤ arc.bilinear (g.across x - i) (g.down y - j) ∧
          arc.bilinear (g.across x - i) (g.down y - j) ≤ arc.greatest) ∧
    (∀ x y, -180 ≤ g.valueAt x y ∧ g.valueAt x y ≤ 180) ∧
    (∀ i j hi hi' hj (left right : Cell Rat), left.Measures (g.storedCell i j hi hj) →
      right.Measures (g.storedCell (i + 1) j hi' hj) →
      ∀ y, j ≤ g.down y → g.down y ≤ j + 1 →
        g.valueAt (g.tieX (i + 1)) y ≡ left.bilinear 1 (g.down y - j) [PMOD (360 : Rat)] ∧
          g.valueAt (g.tieX (i + 1)) y ≡ right.bilinear 0 (g.down y - j) [PMOD (360 : Rat)]) ∧
    ∀ i j hi hj hj' (upper lower : Cell Rat), upper.Measures (g.storedCell i j hi hj) →
      lower.Measures (g.storedCell i (j + 1) hi hj') →
      ∀ x, i ≤ g.across x → g.across x ≤ i + 1 →
        g.valueAt x (g.tieY (j + 1)) ≡ upper.bilinear (g.across x - i) 1 [PMOD (360 : Rat)] ∧
          g.valueAt x (g.tieY (j + 1)) ≡ lower.bilinear (g.across x - i) 0 [PMOD (360 : Rat)] := by
  obtain ⟨spacingX, spacingY⟩ := made.spacing_pos
  refine ⟨fun i j hi hj arc measured x y inside column row => ⟨?_, ?_⟩, fun x y => ?_,
    fun i j hi hi' hj left right hleft hright y top bottom => ?_,
    fun i j hi hj hj' upper lower hupper hlower x left right => ?_⟩
  · exact valueAt_modEq_of_measures wraps range measured column row
  · have across := (column ▸ g.serves_cellColumn (g.across x)).fraction (inside.across spacingX).1
      (inside.across spacingX).2
    have down := (row ▸ g.serves_cellRow (g.down y)).fraction (inside.down spacingY).1
      (inside.down spacingY).2
    exact arc.bilinear_between across.1 across.2 down.1 down.2
  · exact abs_le.mp (abs_valueAt_le wraps)
  · have across : g.across (g.tieX (i + 1)) = (i + 1 : Nat) := across_tieX spacingX (i + 1)
    have column : Serves g.points.cols (i + 1) (g.across (g.tieX (i + 1))) :=
      ⟨hi', .inl across.ge, .inl (by rw [across]; linarith)⟩
    have value := valueAt_modEq_on_edge wraps range column ⟨hj, .inl top, .inl bottom⟩ hright
      (.inl across)
    rw [across, sub_self] at value
    refine ⟨value.trans ?_, value⟩
    exact (hleft.beside hright (fun below => by cases below <;> rfl) _).symm
  · have down : g.down (g.tieY (j + 1)) = (j + 1 : Nat) := down_tieY spacingY (j + 1)
    have row : Serves g.points.rows (j + 1) (g.down (g.tieY (j + 1))) :=
      ⟨hj', .inl down.ge, .inl (by rw [down]; linarith)⟩
    have value := valueAt_modEq_on_edge wraps range ⟨hi, .inl left, .inl right⟩ row hlower
      (.inr down)
    rw [down, sub_self] at value
    refine ⟨value.trans ?_, value⟩
    exact (hupper.below hlower (fun right => by cases right <;> rfl) _).symm

/-- Two cells with the antimeridian in the left one. -/
def pacificSamples : TieGrid Rat :=
  ⟨"pacific", 0, 0, 4, 2, ⟨2, 3, #[170, -170, -160, 172, -172, -158], rfl⟩, by decide, by decide,
    true⟩

theorem pacificSamples_made : pacificSamples.Made :=
  .wrapping (.created (create_eq_ok_iff.mpr ⟨by decide +kernel, by decide, by decide, rfl⟩))

theorem pacificSamples_left :
    (⟨170, 190, 172, 188⟩ : Cell Rat).Measures
      (pacificSamples.storedCell 0 0 (by decide) (by decide)) where
  meridian right below := modEq_iff_zsmul.mpr
    ⟨if right then -1 else 0, by cases right <;> cases below <;> decide +kernel⟩
  short := by decide +kernel

theorem pacificSamples_right :
    (⟨-170, -160, -172, -158⟩ : Cell Rat).Measures
      (pacificSamples.storedCell 1 0 (by decide) (by decide)) where
  meridian right below := by cases right <;> cases below <;> exact modEq_refl _
  short := by decide +kernel

/-- In the left cell longitudes count on past 180 and in the right one they do not, and both give
the same ones between them. -/
theorem valueAt_follows_short_arcs_pacific :
    pacificSamples.Made ∧ pacificSamples.wraps = true ∧ pacificSamples.HoldsLongitudes ∧
      pacificSamples.valueAt 3 1 ≡ 369 / 2 [PMOD (360 : Rat)] ∧
      pacificSamples.valueAt 4 1 ≡ 189 [PMOD (360 : Rat)] ∧
      pacificSamples.valueAt 4 1 ≡ -171 [PMOD (360 : Rat)] := by
  have range : pacificSamples.HoldsLongitudes := fun r c hr hc => by
    have all : ∀ (r : Fin 2) (c : Fin 3), |pacificSamples.points.get r c r.isLt c.isLt| ≤ 180 := by
      decide +kernel
    exact all ⟨r, hr⟩ ⟨c, hc⟩
  obtain ⟨inside, _, columns, _⟩ := valueAt_follows_short_arcs pacificSamples_made rfl range
  have holds : pacificSamples.Holds 3 1 :=
    ⟨by decide +kernel, by decide +kernel, by decide +kernel, by decide +kernel⟩
  refine ⟨pacificSamples_made, rfl, range, ?_, ?_⟩
  · have value := (inside 0 0 _ _ _ pacificSamples_left 3 1 holds (by decide +kernel)
      (by decide +kernel)).1
    have along : (⟨170, 190, 172, 188⟩ : Cell Rat).bilinear
        (pacificSamples.across 3 - (0 : Nat)) (pacificSamples.down 1 - (0 : Nat)) = 369 / 2 := by
      decide +kernel
    exact along ▸ value
  · have values := columns 0 0 _ _ _ _ _ pacificSamples_left pacificSamples_right 1
      (by decide +kernel) (by decide +kernel)
    have edge : pacificSamples.tieX (0 + 1) = 4 := by decide +kernel
    have left : (⟨170, 190, 172, 188⟩ : Cell Rat).bilinear 1
        (pacificSamples.down 1 - (0 : Nat)) = 189 := by decide +kernel
    have right : (⟨-170, -160, -172, -158⟩ : Cell Rat).bilinear 0
        (pacificSamples.down 1 - (0 : Nat)) = -171 := by decide +kernel
    rw [edge, left, right] at values
    exact values

end TieGrid

end RasterMosaic
