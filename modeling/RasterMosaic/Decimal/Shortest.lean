import RasterMosaic.Decimal.Numeral

/-!
The shortest decimal that reads back as a given binary number. A machine number stands for every
real that rounds to it, an interval whose ends belong to it when the significand is even. The
decimals of one, two, … digits are tried in turn on either side of the number; the first count
at which one lies in the interval wins, and of two the nearer. Only natural numbers are used.
-/

namespace RasterMosaic

namespace Decimal

inductive Tie
  | toEven
  | upward
deriving DecidableEq, Repr

/-- The reals that round to a positive binary number, as numerators over one denominator. -/
structure RoundingInterval where
  low : Nat
  value : Nat
  high : Nat
  den : Nat
  /-- The ends round to the number too. -/
  closed : Bool

/-- The interval of `m * 2 ^ q`. Below the least significand of a binade, `minimal`, numbers lie
twice as close, unless `q` is the least exponent there is. -/
def RoundingInterval.ofBinary (m : Nat) (q : Int) (minimal : Nat) (least : Int) :
    RoundingInterval :=
  let below := if m = minimal ∧ q ≠ least then 1 else 2
  let scale := 1 <<< (q - 2).toNat
  { low := (4 * m - below) * scale
    value := 4 * m * scale
    high := (4 * m + 2) * scale
    den := 1 <<< (2 - q).toNat
    closed := m % 2 = 0 }

/-- `digits * 10 ^ exponent`. -/
structure Digits where
  digits : Nat
  exponent : Int
deriving DecidableEq, Repr

/-- The number of decimal digits of a natural number; zero has one. -/
def digitCount (n : Nat) : Nat := (digitChars n).length

/-- The exponent of the leading decimal digit of the positive quotient `num / den`. -/
def leadingExponent (num den : Nat) : Int :=
  if den ≤ num then (digitCount (num / den) : Int) - 1
  else -(digitCount ((den + num - 1) / num - 1) : Int)

/-- The decimals in steps of `10 ^ place` next to the interval's number which lie in the
interval: the nearer of the two, if there is one. -/
def RoundingInterval.nearest? (i : RoundingInterval) (tie : Tie) (place : Int) : Option Nat :=
  let up := Nat.pow 10 place.toNat
  let down := Nat.pow 10 (-place).toNat
  let step := up * i.den
  let below := i.value * down / step
  let reaches (d : Nat) : Bool :=
    let (low, here, high) := (i.low * down, d * step, i.high * down)
    if i.closed then low ≤ here && here ≤ high else low < here && here < high
  let nearerBelow : Bool :=
    let twice := 2 * (i.value * down)
    let middle := (2 * below + 1) * step
    twice < middle ||
      (twice == middle && (match tie with | .toEven => below % 2 == 0 | .upward => false))
  match reaches below, reaches (below + 1) with
  | true, true => some (if nearerBelow then below else below + 1)
  | true, false => some below
  | false, true => some (below + 1)
  | false, false => none

def stripZeros (digits : Nat) (exponent : Int) : Digits :=
  if digits = 0 then ⟨0, 0⟩
  else if digits % 10 = 0 then stripZeros (digits / 10) (exponent + 1)
  else ⟨digits, exponent⟩
termination_by digits
decreasing_by omega

/-- The shortest decimal in the interval, of at most `limit` digits; the nearest of that many
when none lies in it. -/
def RoundingInterval.shortest (i : RoundingInterval) (tie : Tie) (limit : Nat) : Digits :=
  let lead := leadingExponent i.value i.den
  let places := (List.range limit).map fun n : Nat => lead - n
  match places.findSome? fun place => (i.nearest? tie place).map fun d => (d, place) with
  | some (d, place) => stripZeros d place
  | none =>
    let place := lead - limit + 1
    stripZeros (i.value * Nat.pow 10 (-place).toNat / (Nat.pow 10 place.toNat * i.den)) place

/-- A machine number, as decimal notation sees it. -/
inductive Reading
  | notANumber
  | infinite (negative : Bool)
  | zero (negative : Bool)
  | finite (negative : Bool) (magnitude : Digits)
deriving DecidableEq, Repr

open Float.Model in
/-- Reads an unpacked number of a format with the given count of fraction bits and least
exponent. -/
def Reading.ofUnpacked (tie : Tie) (fractionBits : Nat) (least : Int) (limit : Nat) :
    UnpackedFloat → Reading
  | .notANumber => .notANumber
  | .infinity sign => .infinite (sign matches .negative)
  | .zero sign => .zero (sign matches .negative)
  | .finite sign m e _ =>
      let interval := RoundingInterval.ofBinary m e (1 <<< fractionBits) least
      .finite (sign matches .negative) (interval.shortest tie limit)

/-- Seventeen digits tell any two numbers of the wide format apart. -/
def Reading.ofFloat (tie : Tie) (x : Float) : Reading :=
  .ofUnpacked tie 52 (-1074) 17 x.toModel.unpack

/-- Nine digits tell any two numbers of the narrow format apart. -/
def Reading.ofFloat32 (tie : Tie) (x : Float32) : Reading :=
  .ofUnpacked tie 23 (-149) 9 x.toModel.unpack

end Decimal

end RasterMosaic
