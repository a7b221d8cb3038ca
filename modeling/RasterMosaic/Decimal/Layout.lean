import RasterMosaic.Decimal.Numeral
import RasterMosaic.Decimal.Shortest

/-!
Laying out decimals as numerals. A `Layout` fixes what a format decides: which ties are taken,
which exponents are written positionally, and whether a whole number keeps a point and a zero.
-/

namespace RasterMosaic

namespace Decimal

structure Layout where
  tie : Tie
  /-- Numbers whose leading digit has this exponent are written without an exponent. -/
  positional : Int → Bool
  /-- A whole number written positionally ends in a point and a zero. -/
  keepsPoint : Bool

def Digits.lead (d : Digits) : Int := (digitCount d.digits : Int) - 1 + d.exponent

/-- Every place written out. -/
def positionalNumeral (layout : Layout) (negative : Bool) (d : Digits) : Numeral :=
  let digits := digitChars d.digits
  let zeros (n : Int) : List Char := List.replicate n.toNat '0'
  if 0 ≤ d.exponent then
    ⟨negative, digits ++ zeros d.exponent, if layout.keepsPoint then ['0'] else [], none⟩
  else if 0 ≤ d.lead then
    let count := (d.lead + 1).toNat
    ⟨negative, digits.take count, digits.drop count, none⟩
  else ⟨negative, ['0'], zeros (-d.lead - 1) ++ digits, none⟩

/-- One digit before the point, and an exponent. -/
def exponentNumeral (negative : Bool) (d : Digits) : Numeral :=
  let digits := digitChars d.digits
  ⟨negative, digits.take 1, digits.drop 1, some d.lead⟩

def Layout.numeral? (layout : Layout) : Reading → Option Numeral
  | .notANumber => none
  | .infinite _ => none
  | .zero negative => some (positionalNumeral layout negative ⟨0, 0⟩)
  | .finite negative d =>
      some (if layout.positional d.lead then positionalNumeral layout negative d
        else exponentNumeral negative d)

end Decimal

end RasterMosaic
