import Mathlib.Data.List.Basic
import RasterMosaic.Decimal.Numeral

/-!
Numerals that are read as they are written: digits only, at least one before the point, and no zero
ahead of others there. Where such a numeral ends no digit follows, so each of its parts is told from
the next by its first character.
-/

namespace RasterMosaic
namespace Decimal

theorem digitsValue_digitChars (n : Nat) : digitsValue (digitChars n) = n :=
  Nat.ofDigitChars_toDigits (by decide) (by decide)

theorem isDigit_of_mem_digitChars {n : Nat} : ∀ c ∈ digitChars n, c.isDigit = true := fun _ mem =>
  Nat.isDigit_of_mem_toDigits (by decide) (by decide) mem

theorem digitChars_ne_nil (n : Nat) : digitChars n ≠ [] := Nat.toDigits_ne_nil

/-- Only zero is written with a zero ahead. -/
theorem digitChars_ne_zero_cons {n : Nat} (positive : 0 < n) (rest : List Char) :
    digitChars n ≠ '0' :: rest := by
  induction n using Nat.strongRecOn generalizing rest with
  | _ n ih =>
      rw [digitChars]
      by_cases single : n < 10
      · rw [Nat.toDigits_of_lt_base single]
        have nonzero : ∀ k < 10, 0 < k → Nat.digitChar k ≠ '0' := by decide
        exact fun same => nonzero n single positive (List.cons.inj same).1
      · rw [Nat.toDigits_of_base_le (by decide) (Nat.not_lt.mp single)]
        intro same
        obtain ⟨first, others, split⟩ := List.exists_cons_of_ne_nil (digitChars_ne_nil (n / 10))
        rw [digitChars] at split
        rw [split, List.cons_append] at same
        obtain ⟨rfl, _⟩ := List.cons.inj same
        exact ih (n / 10) (by omega) (by omega) others split

/-- What follows does not go on with digits. -/
def EndsDigits (rest : List Char) : Prop := ∀ c, rest.head? = some c → c.isDigit = false

section Run
variable {digits rest : List Char} (run : ∀ c ∈ digits, c.isDigit = true) (ends : EndsDigits rest)
include run ends

theorem takeWhile_isDigit_append : (digits ++ rest).takeWhile Char.isDigit = digits := by
  rw [List.takeWhile_append_of_pos run]
  cases rest with
  | nil => simp
  | cons c rest => simp [ends c rfl]

theorem dropWhile_isDigit_append : (digits ++ rest).dropWhile Char.isDigit = rest := by
  rw [List.dropWhile_append_of_pos run]
  cases rest with
  | nil => rfl
  | cons c rest => simp [ends c rfl]

end Run

namespace Numeral

/-- The numeral is written with digits where they belong. -/
structure WellFormed (n : Numeral) : Prop where
  whole : ∀ c ∈ n.whole, c.isDigit = true
  nonempty : n.whole ≠ []
  leading : ∀ rest, n.whole = '0' :: rest → rest = []
  fraction : ∀ c ∈ n.fraction, c.isDigit = true

/-- An exponent with its mark and sign, if there is one. -/
def exponentChars : Option Int → List Char
  | none => []
  | some e => 'e' :: (if e < 0 then '-' else '+') :: digitChars e.natAbs

/-- A point with the digits after it, if there are any. -/
def fractionChars (fraction : List Char) : List Char :=
  if fraction.isEmpty then [] else '.' :: fraction

theorem chars_eq (n : Numeral) :
    n.chars = (if n.negative then ['-'] else []) ++
      (n.whole ++ (fractionChars n.fraction ++ exponentChars n.exponent)) := by
  rw [chars, List.append_assoc, List.append_assoc]
  cases n.exponent <;> rfl

theorem exponentOfChars?_digitChars (e : Int) :
    exponentOfChars? ((if e < 0 then '-' else '+') :: digitChars e.natAbs) = some e := by
  have digits : (digitChars e.natAbs).all Char.isDigit = true :=
    List.all_eq_true.mpr isDigit_of_mem_digitChars
  have some_digit : (digitChars e.natAbs).isEmpty = false :=
    List.isEmpty_eq_false_iff.mpr (digitChars_ne_nil _)
  by_cases below : e < 0
  · simp only [exponentOfChars?, if_pos below, digits, some_digit, digitsValue_digitChars]
    exact congrArg some (by omega : -(e.natAbs : Int) = e)
  · simp only [exponentOfChars?, if_neg below, digits, some_digit, digitsValue_digitChars]
    exact congrArg some (by omega : (e.natAbs : Int) = e)

theorem tailOfChars?_exponentChars (negative : Bool) (whole fraction : List Char)
    (exponent : Option Int) :
    tailOfChars? negative whole fraction (exponentChars exponent) =
      some ⟨negative, whole, fraction, exponent⟩ := by
  cases exponent with
  | none => rfl
  | some e =>
      rw [exponentChars, tailOfChars?, if_pos (.inl rfl), exponentOfChars?_digitChars]
      rfl

theorem endsDigits_exponentChars (exponent : Option Int) : EndsDigits (exponentChars exponent) := by
  cases exponent with
  | none => exact nofun
  | some e =>
      intro c head
      cases head
      rfl

theorem endsDigits_rest (fraction : List Char) (exponent : Option Int) :
    EndsDigits (fractionChars fraction ++ exponentChars exponent) := by
  cases fraction with
  | nil => exact endsDigits_exponentChars exponent
  | cons first others =>
      intro c head
      cases head
      rfl

theorem restOfChars?_chars (negative : Bool) (whole : List Char) {fraction : List Char}
    (digits : ∀ c ∈ fraction, c.isDigit = true) (exponent : Option Int) :
    restOfChars? negative whole (fractionChars fraction ++ exponentChars exponent) =
      some ⟨negative, whole, fraction, exponent⟩ := by
  cases fraction with
  | nil =>
      have tail := tailOfChars?_exponentChars negative whole [] exponent
      cases exponent with
      | none => exact tail
      | some e => exact tail
  | cons first others =>
      have ends := endsDigits_exponentChars exponent
      have point : fractionChars (first :: others) = '.' :: first :: others := rfl
      rw [point, List.cons_append, restOfChars?, takeWhile_isDigit_append digits ends,
        dropWhile_isDigit_append digits ends]
      exact tailOfChars?_exponentChars negative whole (first :: others) exponent

/-- Once the sign is off, digits before the point are told from what follows. -/
theorem unsigned_chars {n : Numeral} (h : n.WellFormed) :
    (match n.whole with
      | [] => none
      | '0' :: _ :: _ => none
      | _ => restOfChars? n.negative n.whole (fractionChars n.fraction ++ exponentChars n.exponent))
      = some n := by
  split
  · next none_whole => exact absurd none_whole h.nonempty
  · next second others whole => cases h.leading _ whole
  · exact restOfChars?_chars n.negative n.whole h.fraction n.exponent

/-- A numeral is read as it is written. -/
theorem ofChars?_chars {n : Numeral} (h : n.WellFormed) : ofChars? n.chars = some n := by
  have ends := endsDigits_rest n.fraction n.exponent
  have read := unsigned_chars h
  rw [chars_eq]
  cases sign : n.negative with
  | true =>
      rw [sign] at read
      rw [if_pos rfl, List.singleton_append, ofChars?]
      simp only [takeWhile_isDigit_append h.whole ends, dropWhile_isDigit_append h.whole ends]
      exact read
  | false =>
      -- The first character is a digit, and no sign.
      obtain ⟨first, others, split⟩ := List.exists_cons_of_ne_nil h.nonempty
      have unsigned : first ≠ '-' := by
        rintro rfl
        exact absurd (h.whole '-' (split ▸ List.mem_cons_self)) (by decide)
      rw [sign] at read
      rw [if_neg Bool.false_ne_true, List.nil_append, ofChars?]
      · simp only [takeWhile_isDigit_append h.whole ends, dropWhile_isDigit_append h.whole ends]
        exact read
      · intro rest same
        rw [split] at same
        exact unsigned (List.cons.inj same).1

end Numeral

end Decimal
end RasterMosaic
