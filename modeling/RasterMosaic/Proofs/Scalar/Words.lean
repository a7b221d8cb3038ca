import Mathlib.Algebra.Order.Floor.Div
import Mathlib.Data.Nat.PSub
import Mathlib.GroupTheory.GroupAction.Ring
import RasterMosaic.Pyramid.Scale

/-!
Arithmetic in machine words. A sum or a product that is no word has no value, nor has a shift that
loses a bit or a division by zero; the difference that stays above zero is `Nat.psub`. A computation
that has a value in these operations has the same value in the natural numbers.
-/

namespace RasterMosaic.Word

def ofNat? (n : Nat) : Option Nat := if n < 2 ^ wordBits then some n else none

def add? (a b : Nat) : Option Nat := ofNat? (a + b)

def mul? (a b : Nat) : Option Nat := ofNat? (a * b)

/-- A shift by as many places as a word has bits, or more, is none. -/
def shiftLeft? (a places : Nat) : Option Nat :=
  if places < wordBits then ofNat? (a <<< places) else none

/-- A division rounded up. -/
def divUp? (a b : Nat) : Option Nat := if b = 0 then none else ofNat? (a ⌈/⌉ b)

variable {a b : Nat}

theorem add?_eq_some (word : a + b < 2 ^ wordBits) : add? a b = some (a + b) := if_pos word

theorem mul?_eq_some (word : a * b < 2 ^ wordBits) : mul? a b = some (a * b) := if_pos word

theorem shiftLeft?_eq_some (places : b < wordBits) (word : a <<< b < 2 ^ wordBits) :
    shiftLeft? a b = some (a <<< b) := by
  rw [shiftLeft?, if_pos places]
  exact if_pos word

/-- The quotient of a word is a word, rounded up too. -/
theorem divUp?_eq_some (divisor : 0 < b) (word : a < 2 ^ wordBits) :
    divUp? a b = some (a ⌈/⌉ b) := by
  have smaller : a ⌈/⌉ b ≤ a :=
    (ceilDiv_le_iff_le_mul divisor).mpr (Nat.le_mul_of_pos_left a divisor)
  rw [divUp?, if_neg (Nat.ne_of_gt divisor)]
  exact if_pos (Nat.lt_of_le_of_lt smaller word)

end RasterMosaic.Word
