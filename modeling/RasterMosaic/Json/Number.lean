import RasterMosaic.Decimal.Layout
import RasterMosaic.Json.Basic
import RasterMosaic.Sample

/-!
The values of numerals. A whole numeral that is a machine word, or the negative of one half its
range, is exact. Any other is read quickly rather than to the last bit: its leading digits are
gathered into one word, as many as fit, and that word is scaled by a power of ten in one
operation. Numbers are written with the shortest digits that tell them apart.
-/

namespace RasterMosaic

namespace Json

inductive NumberValue
  | natural (n : Nat)
  | negative (n : Nat)
  | real (x : Float)

/-- The first number too large for a machine word. -/
def wordLimit : Nat := 1 <<< 64

/-- Appends whole digits to a word while it stays one, and counts the digits that are left. -/
def gatherWhole (word : Nat) : List Char → Nat × Nat
  | [] => (word, 0)
  | c :: rest =>
    let next := Decimal.digitsValue [c] + 10 * word
    if next < wordLimit then gatherWhole next rest else (word, rest.length + 1)

/-- Appends digits after the point while the word stays one, and counts those appended. -/
def gatherFraction (word : Nat) : List Char → Nat × Nat
  | [] => (word, 0)
  | c :: rest =>
    let next := Decimal.digitsValue [c] + 10 * word
    if next < wordLimit then
      let (gathered, count) := gatherFraction next rest
      (gathered, count + 1)
    else (word, 0)

/-- The largest exponent of a power of ten among machine numbers. -/
def maxPower : Nat := 308

def powerOfTen (n : Nat) : Float := Float.ofScientific 1 false n

/-- Scales by a power of ten; fails beyond the range of machine numbers. -/
def scaleByTen? (x : Float) (exponent : Int) : Option Float :=
  if exponent.natAbs ≤ maxPower then
    let power := powerOfTen exponent.natAbs
    if 0 ≤ exponent then
      let product := x * power
      if product.isInf then none else some product
    else some (x / power)
  else if x == 0 then some x
  else if 0 ≤ exponent then none
  else scaleByTen? (x / powerOfTen maxPower) (exponent + maxPower)
termination_by exponent.natAbs
decreasing_by
  simp only [maxPower] at *
  omega

/-- The value of a numeral that is read by scaling. -/
def realValue? (n : Decimal.Numeral) : Option Float :=
  let (whole, dropped) := gatherWhole 0 n.whole
  let (word, appended) := gatherFraction whole n.fraction
  let exponent := (dropped : Int) - appended + n.exponent.getD 0
  (scaleByTen? (Float.ofNat word) exponent).map fun x => if n.negative then -x else x

/-- The value of a numeral, if it is in range. A negative zero is not whole. -/
def numberValue? (n : Decimal.Numeral) : Option NumberValue :=
  let whole := Decimal.digitsValue n.whole
  if n.fraction.isEmpty ∧ n.exponent = none ∧ whole < wordLimit then
    if !n.negative then some (.natural whole)
    else if 0 < whole ∧ whole ≤ wordLimit / 2 then some (.negative whole)
    else some (.real (-Float.ofNat whole))
  else (realValue? n).map .real

namespace NumberValue

def toFloat : NumberValue → Float
  | natural n => Float.ofNat n
  | negative n => -Float.ofNat n
  | real x => x

/-- Whole values are rounded once, others through the wide format. -/
def toFloat32 : NumberValue → Float32
  | natural n => Float32.ofNat n
  | negative n => -Float32.ofNat n
  | real x => Sample.narrow x

end NumberValue

/-- Numbers of the wide format are written positionally for exponents from -5 to 15, and whole
ones keep their point. -/
def wideLayout : Decimal.Layout where
  tie := .toEven
  positional e := -5 ≤ e && e < 16
  keepsPoint := true

/-- Numbers of the narrow format are written positionally for exponents from -6 to 12. -/
def narrowLayout : Decimal.Layout :=
  { wideLayout with positional e := -6 ≤ e && e < 13 }

/-- A number, or null for what has no numeral. -/
def ofReading (layout : Decimal.Layout) (reading : Decimal.Reading) : Json :=
  match layout.numeral? reading with
  | some n => .number n
  | none => .null

def ofFloat (x : Float) : Json := ofReading wideLayout (.ofFloat wideLayout.tie x)

def ofFloat32 (x : Float32) : Json := ofReading narrowLayout (.ofFloat32 narrowLayout.tie x)

def ofNat (n : Nat) : Json := .number ⟨false, Decimal.digitChars n, [], none⟩

end Json

end RasterMosaic
