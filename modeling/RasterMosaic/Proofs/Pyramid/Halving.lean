import RasterMosaic.Proofs.Pyramid.Rounding
import RasterMosaic.Proofs.Scalar.Words

/-!
Lengths along a pyramid as ceiling divisions. A length is found by shifts of machine words, none of
which overflows, and it is the source divided by a power of two and rounded up, past the bits of a
word as well. So it does not matter whether a level is reached at once or in steps.
-/

namespace RasterMosaic

/-- A length at a level, found in machine words. -/
def lengthInWords? (source level : Nat) : Option Nat :=
  if wordBits ≤ level then some (if 0 < source then 1 else 0)
  else do
    let size := source >>> level
    let covered ← Word.shiftLeft? size level
    if covered < source then Word.add? size 1 else some size

section Length
variable {source level : Nat} (word : source < 2 ^ wordBits)
include word

/-- A length that is a machine word reaches over the source on every level, also on those where a
shift by the level would not be defined. -/
theorem lengthAtLevel_le_iff_of_word {k : Nat} :
    lengthAtLevel source level ≤ k ↔ source ≤ k * 2 ^ level := by
  by_cases hl : level < wordBits
  · exact lengthAtLevel_le_iff hl
  · have past : wordBits ≤ level := Nat.not_lt.mp hl
    have shorter : source < 2 ^ level :=
      Nat.lt_of_lt_of_le word (Nat.pow_le_pow_right Nat.two_pos past)
    rw [lengthAtLevel, if_pos past]
    cases k with
    | zero =>
        rw [Nat.zero_mul]
        split <;> omega
    | succ k =>
        have one : 2 ^ level ≤ (k + 1) * 2 ^ level := Nat.le_mul_of_pos_left _ k.succ_pos
        split <;> omega

theorem lengthAtLevel_eq_ceilDiv : lengthAtLevel source level = source ⌈/⌉ 2 ^ level := by
  apply eq_of_forall_ge_iff
  intro k
  rw [lengthAtLevel_le_iff_of_word word, ceilDiv_le_iff_le_mul (Nat.two_pow_pos level),
    Nat.mul_comm]

theorem lengthInWords?_eq_some :
    lengthInWords? source level = some (lengthAtLevel source level) := by
  by_cases hl : level < wordBits
  · have back : source >>> level <<< level ≤ source := by
      rw [Nat.shiftRight_eq_div_pow, Nat.shiftLeft_eq]
      exact Nat.div_mul_le_self source (2 ^ level)
    have grown : source >>> level ≤ source >>> level <<< level := by
      rw [Nat.shiftLeft_eq]
      exact Nat.le_mul_of_pos_right _ (Nat.two_pow_pos level)
    simp only [lengthInWords?, lengthAtLevel, if_neg (Nat.not_le.mpr hl),
      Word.shiftLeft?_eq_some hl (Nat.lt_of_le_of_lt back word), Option.bind_eq_bind,
      Option.bind_some]
    by_cases short : source >>> level <<< level < source
    · rw [if_pos short, if_pos short, Word.add?_eq_some (by omega)]
    · rw [if_neg short, if_neg short]
  · have past : wordBits ≤ level := Nat.not_lt.mp hl
    rw [lengthInWords?, lengthAtLevel, if_pos past, if_pos past]

theorem lengthAtLevel_pos_iff : 0 < lengthAtLevel source level ↔ 0 < source := by
  rw [← Nat.not_le, lengthAtLevel_le_iff_of_word word, Nat.zero_mul, Nat.not_le]

theorem antitone_lengthAtLevel : Antitone (lengthAtLevel source) := by
  intro fine coarse finer
  rw [lengthAtLevel_le_iff_of_word word]
  calc source ≤ lengthAtLevel source fine * 2 ^ fine :=
        (lengthAtLevel_le_iff_of_word word).mp (Nat.le_refl _)
    _ ≤ lengthAtLevel source fine * 2 ^ coarse :=
        Nat.mul_le_mul_left _ (Nat.pow_le_pow_right Nat.two_pos finer)

theorem lengthAtLevel_le_source : lengthAtLevel source level ≤ source := by
  have first := antitone_lengthAtLevel word (Nat.zero_le level)
  rwa [lengthAtLevel_zero] at first

theorem lengthAtLevel_lengthAtLevel (a b : Nat) :
    lengthAtLevel (lengthAtLevel source a) b = lengthAtLevel source (a + b) := by
  have between : lengthAtLevel source a < 2 ^ wordBits :=
    Nat.lt_of_le_of_lt (lengthAtLevel_le_source word) word
  apply eq_of_forall_ge_iff
  intro k
  rw [lengthAtLevel_le_iff_of_word between, lengthAtLevel_le_iff_of_word word,
    lengthAtLevel_le_iff_of_word word, Nat.mul_assoc, ← Nat.pow_add, Nat.add_comm b a]

end Length

/-- A length at a level is the source divided by the level's power of two and rounded up, and no
step of finding it overflows. It is there just when the source is, no shorter for a longer source
and no longer on a coarser level, and a level of a level is a level of the source. -/
theorem lengthAtLevel_ceiling_composes {source : Nat} (word : source < 2 ^ wordBits) :
    (∀ level, lengthInWords? source level = some (lengthAtLevel source level) ∧
      lengthAtLevel source level = source ⌈/⌉ 2 ^ level) ∧
    (∀ level, 0 < lengthAtLevel source level ↔ 0 < source) ∧
    (∀ level shorter, shorter ≤ source →
      lengthAtLevel shorter level ≤ lengthAtLevel source level) ∧
    (∀ fine coarse, fine ≤ coarse →
      lengthAtLevel source coarse ≤ lengthAtLevel source fine) ∧
    ∀ a b, lengthAtLevel (lengthAtLevel source a) b = lengthAtLevel source (a + b) := by
  refine ⟨fun level => ?_, fun level => ?_, fun level shorter h => ?_, ?_, ?_⟩
  · exact ⟨lengthInWords?_eq_some word, lengthAtLevel_eq_ceilDiv word⟩
  · exact lengthAtLevel_pos_iff word
  · exact lengthAtLevel_mono h level
  · exact antitone_lengthAtLevel word
  · exact lengthAtLevel_lengthAtLevel word

/-- The longest word halves to two pixels on the last level that is shifted to, and to one on the
next; levels 40 and 24 together lie past the bits of a word. -/
theorem lengthAtLevel_ceiling_composes_longest :
    2 ^ 64 - 1 < 2 ^ wordBits ∧
    lengthInWords? (2 ^ 64 - 1) 63 = some 2 ∧ lengthAtLevel (2 ^ 64 - 1) 64 = 1 ∧
    (2 ^ 64 - 1) ⌈/⌉ 2 ^ 64 = 1 ∧
    lengthAtLevel (lengthAtLevel (2 ^ 64 - 1) 40) 24 = lengthAtLevel (2 ^ 64 - 1) 64 := by
  have word : 2 ^ 64 - 1 < 2 ^ wordBits := by decide
  obtain ⟨ceiling, _, _, _, composes⟩ := lengthAtLevel_ceiling_composes word
  have last : lengthAtLevel (2 ^ 64 - 1) 64 = 1 := by decide
  refine ⟨word, ?_, last, ?_, composes 40 24⟩
  · exact (ceiling 63).1
  · rw [← (ceiling 64).2, last]

end RasterMosaic
