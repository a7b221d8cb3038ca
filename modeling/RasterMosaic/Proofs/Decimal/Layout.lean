import RasterMosaic.Decimal.Layout
import RasterMosaic.Proofs.Decimal.Numeral

/-!
The numerals of a layout are well formed. Each begins with the first digits of a number, which has
no zero ahead of others, or with a single zero; that zero itself is never scaled keeps it single.
-/

namespace RasterMosaic
namespace Decimal

namespace Digits

/-- Zero has no other form than zero times one. -/
def Normal (d : Digits) : Prop := d.digits = 0 → d.exponent = 0

end Digits

theorem stripZeros_normal (digits : Nat) (exponent : Int) :
    (stripZeros digits exponent).Normal := by
  fun_induction stripZeros digits exponent with
  | case1 exponent => exact fun _ => rfl
  | case2 digits exponent _ _ ih => exact ih
  | case3 digits exponent nonzero _ => exact fun zero => absurd zero nonzero

theorem RoundingInterval.shortest_normal (i : RoundingInterval) (tie : Tie) (limit : Nat) :
    (i.shortest tie limit).Normal := by
  simp only [shortest]
  split <;> exact stripZeros_normal _ _

/-- Digits of a reading are in normal form. -/
def Reading.Normal : Reading → Prop
  | .finite _ d => d.Normal
  | _ => True

theorem Reading.ofUnpacked_normal (tie : Tie) (fractionBits : Nat) (least : Int) (limit : Nat)
    (x : Float.Model.UnpackedFloat) : (ofUnpacked tie fractionBits least limit x).Normal := by
  cases x with
  | notANumber => trivial
  | infinity sign => trivial
  | zero sign => trivial
  | finite sign m e pos => exact RoundingInterval.shortest_normal _ tie limit

theorem isDigit_of_mem_zeros {n : Nat} : ∀ c ∈ List.replicate n '0', c.isDigit = true := by
  intro c mem
  rw [List.eq_of_mem_replicate mem]
  rfl

section Numerals
variable (layout : Layout) (negative : Bool)

/-- A number's digits with the point after the first `count` of them. -/
theorem cut_wellFormed {n count : Nat} (nonempty : 0 < count) (leading : 0 < n ∨ count = 1)
    (exponent : Option Int) :
    Numeral.WellFormed ⟨negative, (digitChars n).take count, (digitChars n).drop count, exponent⟩
    where
  whole c mem := isDigit_of_mem_digitChars c (List.mem_of_mem_take mem)
  nonempty := fun none_taken =>
    (List.take_eq_nil_iff.mp none_taken).elim (Nat.ne_of_gt nonempty) (digitChars_ne_nil n)
  leading rest (taken : (digitChars n).take count = '0' :: rest) := by
    obtain positive | rfl := leading
    · obtain ⟨others, split⟩ := List.take_prefix count (digitChars n)
      rw [taken, List.cons_append] at split
      exact absurd split.symm (digitChars_ne_zero_cons positive _)
    · have short := List.length_take_le 1 (digitChars n)
      rw [taken, List.length_cons] at short
      exact List.eq_nil_of_length_eq_zero (by omega)
  fraction c mem := isDigit_of_mem_digitChars c (List.mem_of_mem_drop mem)

/-- A number's digits with zeros after them, which zero itself has not. -/
theorem whole_wellFormed {n zeros : Nat} (single : n = 0 → zeros = 0) {fraction : List Char}
    (digits : ∀ c ∈ fraction, c.isDigit = true) :
    Numeral.WellFormed ⟨negative, digitChars n ++ List.replicate zeros '0', fraction, none⟩ where
  whole := List.forall_mem_append.mpr ⟨isDigit_of_mem_digitChars, isDigit_of_mem_zeros⟩
  nonempty := List.append_ne_nil_of_left_ne_nil (digitChars_ne_nil n) _
  leading rest (written : digitChars n ++ List.replicate zeros '0' = '0' :: rest) := by
    by_cases zero : n = 0
    · rw [zero, single zero] at written
      exact (List.cons.inj written).2.symm
    · obtain ⟨first, others, split⟩ := List.exists_cons_of_ne_nil (digitChars_ne_nil n)
      rw [split, List.cons_append] at written
      obtain ⟨rfl, _⟩ := List.cons.inj written
      exact absurd split (digitChars_ne_zero_cons (Nat.pos_of_ne_zero zero) others)
  fraction := digits

theorem positionalNumeral_wellFormed {d : Digits} (h : d.Normal) :
    (positionalNumeral layout negative d).WellFormed := by
  rw [positionalNumeral]
  split
  · refine whole_wellFormed negative (fun zero => by simp [h zero]) ?_
    cases layout.keepsPoint <;> simp
  · next scaled =>
    have positive : 0 < d.digits :=
      Nat.pos_of_ne_zero fun zero => scaled (Int.le_of_eq (h zero).symm)
    split
    · next inside => exact cut_wellFormed negative (by omega) (.inl positive) none
    · exact
      { whole := by simp
        nonempty := by simp
        leading := by simp
        fraction :=
          List.forall_mem_append.mpr ⟨isDigit_of_mem_zeros, isDigit_of_mem_digitChars⟩ }

theorem exponentNumeral_wellFormed (d : Digits) : (exponentNumeral negative d).WellFormed :=
  cut_wellFormed negative Nat.one_pos (.inr rfl) (some d.lead)

theorem Layout.numeral?_wellFormed {reading : Reading} (h : reading.Normal) {n : Numeral}
    (written : layout.numeral? reading = some n) : n.WellFormed := by
  cases reading with
  | notANumber => cases written
  | infinite negative => cases written
  | zero negative =>
      cases written
      exact positionalNumeral_wellFormed layout negative fun _ => rfl
  | finite negative d =>
      cases written
      split
      · exact positionalNumeral_wellFormed layout negative h
      · exact exponentNumeral_wellFormed negative d

end Numerals

end Decimal
end RasterMosaic
