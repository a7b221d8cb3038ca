import Mathlib.Algebra.Order.ToIntervalMod
import RasterMosaic.Proofs.Geocoding.Longitude

/-!
Whole turns taken one at a time. A longitude beyond the range from -180 to 180 may be brought back
by taking off a turn as long as it lies above, and then adding one as long as it lies below. That
ends after as many turns as the distance to the range asks for, and where turns taken in powers of
two end. A longitude within the range stays, both ends of it included.
-/

namespace RasterMosaic

open AddCommGroup

/-- What is repeated as long as a condition holds ends in a value, after so many turns. -/
inductive Repeats {α : Type} (goesOn : α → Prop) (turn : α → α) : Nat → α → α → Prop
  | stop {x : α} (done : ¬ goesOn x) : Repeats goesOn turn 0 x x
  | next {n : Nat} {x last : α} (more : goesOn x) (rest : Repeats goesOn turn n (turn x) last) :
      Repeats goesOn turn (n + 1) x last

theorem Repeats.unique {α : Type} {goesOn : α → Prop} {turn : α → α} {n m : Nat} {x y z : α}
    (h : Repeats goesOn turn n x y) (h' : Repeats goesOn turn m x z) : n = m ∧ y = z := by
  induction h generalizing m with
  | stop done =>
      cases h' with
      | stop => exact ⟨rfl, rfl⟩
      | next more => exact absurd more done
  | next more _ ih =>
      cases h' with
      | stop done => exact absurd more done
      | next _ rest =>
          obtain ⟨rfl, rfl⟩ := ih rest
          exact ⟨rfl, rfl⟩

/-- Turns are taken off while a longitude lies above the range. -/
def TurnsDown : Nat → Rat → Rat → Prop := Repeats (180 < ·) (· - 360)

/-- Turns are added while a longitude lies below the range. -/
def TurnsUp : Nat → Rat → Rat → Prop := Repeats (· < -180) (· + 360)

/-- So many turns taken off, and then so many added, lead from a longitude into the range. -/
def TurnsBack (down up : Nat) (x last : Rat) : Prop :=
  ∃ between, TurnsDown down x between ∧ TurnsUp up between last

/-- Below the range is above it, seen from the other side. -/
theorem TurnsDown.neg {n : Nat} {x last : Rat} (down : TurnsDown n x last) :
    TurnsUp n (-x) (-last) := by
  induction down with
  | stop done => exact .stop fun below => done (by linarith)
  | next more _ ih =>
      refine .next (by linarith) ?_
      rwa [neg_sub', sub_neg_eq_add] at ih

section Turns
variable {x : Rat}

theorem takeTurns_neg (k : Nat) (x : Rat) : takeTurns k (-x) = -takeTurns k x := by
  induction k generalizing x with
  | zero => rfl
  | succ k ih =>
      have one : (1 : Rat) ≤ 2 ^ k := one_le_pow₀ (by norm_num)
      rw [takeTurns_succ, takeTurns_succ, ← ih]
      congr 1
      -- At most one of the two ways is open, so it does not matter which is tried first.
      split_ifs <;> linarith

theorem normalizeLongitude_neg (x : Rat) : normalizeLongitude (-x) = -normalizeLongitude x := by
  rw [normalizeLongitude, normalizeLongitude, scalar_abs, scalar_abs, abs_neg, takeTurns_neg]

theorem lt_takeTurns (k : Nat) (h : -180 < x) : -180 < takeTurns k x := by
  induction k generalizing x with
  | zero => exact h
  | succ k ih =>
      have one : (1 : Rat) ≤ 2 ^ k := one_le_pow₀ (by norm_num)
      rw [takeTurns_succ]
      apply ih
      split_ifs <;> linarith

theorem turn_pos : (0 : Rat) < 360 := by norm_num

/-- What lies beyond the left end of the range is brought to where its meridian meets the range
without that end. -/
theorem normalizeLongitude_eq_toIocMod (h : -180 < x) :
    normalizeLongitude x = toIocMod turn_pos (-180) x := by
  have right : normalizeLongitude x ≤ 180 := (abs_le.mp (abs_normalizeLongitude_le x)).2
  have left : -180 < normalizeLongitude x := lt_takeTurns _ h
  obtain ⟨turns, apart⟩ := modEq_iff_zsmul.mp (normalizeLongitude_modEq x)
  refine ((toIocMod_eq_iff turn_pos).mpr ⟨⟨left, ?_⟩, turns, ?_⟩).symm
  · linarith
  · rw [apart, add_sub_cancel]

/-- A turn less makes no difference where it does not lead out of the range on the left. -/
theorem normalizeLongitude_sub_turn (h : 180 < x) :
    normalizeLongitude (x - 360) = normalizeLongitude x := by
  rw [normalizeLongitude_eq_toIocMod (by linarith), normalizeLongitude_eq_toIocMod (by linarith),
    toIocMod_sub]

theorem normalizeLongitude_of_abs_le (h : |x| ≤ 180) : normalizeLongitude x = x := by
  have inside : ∀ y : Rat, -180 < y → y ≤ 180 → normalizeLongitude y = y := fun y left right => by
    rw [normalizeLongitude_eq_toIocMod left, toIocMod_eq_self]
    exact ⟨left, by linarith⟩
  obtain ⟨left, right⟩ := abs_le.mp h
  rcases left.eq_or_lt with rfl | left
  · rw [normalizeLongitude_neg, inside 180 (by norm_num) le_rfl]
  · exact inside x left right

theorem ceil_turns_of_nonpos {distance : Rat} (h : distance ≤ 0) : ⌈distance / 360⌉₊ = 0 :=
  Nat.ceil_eq_zero.mpr (by linarith)

/-- Each turn taken off is one of those that the distance to the range asks for. -/
theorem turnsDown (h : -180 ≤ x) :
    TurnsDown ⌈(x - 180) / 360⌉₊ x (normalizeLongitude x) := by
  generalize count : ⌈(x - 180) / 360⌉₊ = n
  induction n generalizing x with
  | zero =>
      have within : x ≤ 180 := by linarith [Nat.ceil_eq_zero.mp count]
      rw [normalizeLongitude_of_abs_le (abs_le.mpr ⟨h, within⟩)]
      exact .stop (not_lt.mpr within)
  | succ n ih =>
      have above : 180 < x := by
        refine not_le.mp fun within => ?_
        rw [ceil_turns_of_nonpos (by linarith)] at count
        cases count
      have fewer : ⌈(x - 360 - 180) / 360⌉₊ = n := by
        have shifted : (x - 360 - 180) / 360 = (x - 180) / 360 - 1 := by ring
        rw [shifted, Nat.ceil_sub_one, count, Nat.add_sub_cancel]
      rw [← normalizeLongitude_sub_turn above]
      exact .next above (ih (by linarith) fewer)

theorem turnsUp (h : x ≤ 180) : TurnsUp ⌈(-180 - x) / 360⌉₊ x (normalizeLongitude x) := by
  have mirrored : -180 - x = -x - 180 := by ring
  have up := (turnsDown (neg_le_neg h)).neg
  rwa [neg_neg, normalizeLongitude_neg, neg_neg, ← mirrored] at up

/-- The second repetition does not undo the first: where one of them turns, the other does not. -/
theorem turnsBack (x : Rat) :
    TurnsBack ⌈(x - 180) / 360⌉₊ ⌈(-180 - x) / 360⌉₊ x (normalizeLongitude x) := by
  rcases le_or_gt (-180) x with right | left
  · have none : ⌈(-180 - x) / 360⌉₊ = 0 := ceil_turns_of_nonpos (by linarith)
    have within := (abs_le.mp (abs_normalizeLongitude_le x)).1
    rw [none]
    exact ⟨_, turnsDown right, .stop (not_lt.mpr within)⟩
  · have none : ⌈(x - 180) / 360⌉₊ = 0 := ceil_turns_of_nonpos (by linarith)
    have below : x ≤ 180 := by linarith
    rw [none]
    exact ⟨x, .stop (not_lt.mpr below), turnsUp below⟩

theorem turnsBack_iff {down up : Nat} {last : Rat} :
    TurnsBack down up x last ↔
      down = ⌈(x - 180) / 360⌉₊ ∧ up = ⌈(-180 - x) / 360⌉₊ ∧ last = normalizeLongitude x := by
  constructor
  · rintro ⟨between, downward, upward⟩
    obtain ⟨_, downward', upward'⟩ := turnsBack x
    obtain ⟨downs, rfl⟩ := downward.unique downward'
    obtain ⟨ups, same⟩ := upward.unique upward'
    exact ⟨downs, ups, same⟩
  · rintro ⟨rfl, rfl, rfl⟩
    exact turnsBack x

/-- On one meridian the range has one longitude, or both of its ends. -/
theorem normalizeLongitude_add_turns (x : Rat) (turns : Int) :
    normalizeLongitude (x + turns * 360) = normalizeLongitude x ∨
      |normalizeLongitude (x + turns * 360)| = 180 ∧ |normalizeLongitude x| = 180 := by
  have meridian :
      normalizeLongitude (x + turns * 360) ≡ normalizeLongitude x [PMOD (360 : Rat)] := by
    refine (normalizeLongitude_modEq _).trans (.trans ?_ (normalizeLongitude_modEq x).symm)
    refine (modEq_iff_zsmul.mpr ⟨turns, ?_⟩).symm
    rw [zsmul_eq_mul, add_sub_cancel_left]
  have range := abs_normalizeLongitude_le (x + turns * 360)
  have range' := abs_normalizeLongitude_le x
  rcases lt_or_ge |normalizeLongitude x - normalizeLongitude (x + turns * 360)| 360 with near | far
  · exact .inl (eq_of_modEq_of_abs_lt meridian near)
  · have apart := abs_sub (normalizeLongitude x) (normalizeLongitude (x + turns * 360))
    exact .inr ⟨by linarith, by linarith⟩

end Turns

/-- Taking turns off one at a time, and then adding them, ends for every longitude, after as many
turns as its distance to the range asks for, and with the normalized longitude. That lies in the
range and differs by whole turns; within the range nothing changes, so normalizing again changes
nothing; and whole turns make a difference only between the two ends of the range. -/
theorem normalizeLongitude_takes_whole_turns :
    (∀ (x last : Rat) (down up : Nat), TurnsBack down up x last ↔
      down = ⌈(x - 180) / 360⌉₊ ∧ up = ⌈(-180 - x) / 360⌉₊ ∧ last = normalizeLongitude x) ∧
    (∀ x : Rat, -180 ≤ normalizeLongitude x ∧ normalizeLongitude x ≤ 180) ∧
    (∀ x : Rat, ∃ turns : Int, normalizeLongitude x = x + turns * 360) ∧
    (∀ x : Rat, -180 ≤ x → x ≤ 180 → normalizeLongitude x = x) ∧
    (∀ x : Rat, normalizeLongitude (normalizeLongitude x) = normalizeLongitude x) ∧
    ∀ (x : Rat) (turns : Int), normalizeLongitude (x + turns * 360) = normalizeLongitude x ∨
      |normalizeLongitude (x + turns * 360)| = 180 ∧ |normalizeLongitude x| = 180 := by
  refine ⟨fun x last down up => turnsBack_iff, fun x => abs_le.mp (abs_normalizeLongitude_le x),
    fun x => ?_, fun x left right => normalizeLongitude_of_abs_le (abs_le.mpr ⟨left, right⟩),
    fun x => normalizeLongitude_of_abs_le (abs_normalizeLongitude_le x),
    normalizeLongitude_add_turns⟩
  obtain ⟨turns, apart⟩ := modEq_iff_zsmul.mp (normalizeLongitude_modEq x).symm
  rw [zsmul_eq_mul] at apart
  exact ⟨turns, by rw [apart, add_sub_cancel]⟩

/-- Two longitudes three turns apart come to the two ends of the range, after one turn each. -/
theorem normalizeLongitude_takes_whole_turns_ends :
    TurnsBack 1 0 540 180 ∧ TurnsBack 0 1 (540 + (-3 : Int) * 360) (-180) ∧
      normalizeLongitude (normalizeLongitude (540 : Rat)) = 180 ∧
      normalizeLongitude (540 + (-3 : Int) * 360 : Rat) ≠ normalizeLongitude 540 := by
  obtain ⟨ends, _, _, _, again, _⟩ := normalizeLongitude_takes_whole_turns
  have above : normalizeLongitude (540 : Rat) = 180 := by decide +kernel
  have below : normalizeLongitude (540 + (-3 : Int) * 360 : Rat) = -180 := by decide +kernel
  refine ⟨(ends 540 180 1 0).mpr ⟨?_, (ceil_turns_of_nonpos ?_).symm, above.symm⟩,
    (ends _ _ 0 1).mpr ⟨(ceil_turns_of_nonpos ?_).symm, ?_, below.symm⟩,
    (again 540).trans above, ?_⟩
  · norm_num
  · norm_num
  · norm_num
  · norm_num
  · rw [above, below]
    norm_num

end RasterMosaic
