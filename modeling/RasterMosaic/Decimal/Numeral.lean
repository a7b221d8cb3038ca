/-!
Decimal numerals as they are written: a sign, whole digits, digits after the point, an exponent.
`ofChars?` reads what `text` writes, and also numerals with a capital exponent mark or an
exponent without sign. A whole part of several digits does not begin with zero.
-/

namespace RasterMosaic

namespace Decimal

structure Numeral where
  negative : Bool
  whole : List Char
  /-- Empty when there is no point. -/
  fraction : List Char
  exponent : Option Int
deriving DecidableEq, Repr

/-- The value of digits in base ten, most significant first. -/
def digitsValue (digits : List Char) : Nat :=
  digits.foldl (fun value c => 10 * value + (c.toNat - '0'.toNat)) 0

def digitChars (n : Nat) : List Char := Nat.toDigits 10 n

namespace Numeral

def chars (n : Numeral) : List Char :=
  (if n.negative then ['-'] else []) ++ n.whole ++
    (if n.fraction.isEmpty then [] else '.' :: n.fraction) ++
    match n.exponent with
    | none => []
    | some e => 'e' :: (if e < 0 then '-' else '+') :: digitChars e.natAbs

def text (n : Numeral) : String := String.ofList n.chars

/-- An exponent without its mark: an optional sign and at least one digit. -/
def exponentOfChars? (cs : List Char) : Option Int :=
  let (negative, digits) := match cs with
    | '-' :: rest => (true, rest)
    | '+' :: rest => (false, rest)
    | _ => (false, cs)
  if digits.isEmpty || !digits.all Char.isDigit then none
  else
    let size : Int := digitsValue digits
    some (if negative then -size else size)

/-- The end of a numeral from the exponent mark on. -/
def tailOfChars? (negative : Bool) (whole fraction : List Char) : List Char → Option Numeral
  | [] => some ⟨negative, whole, fraction, none⟩
  | mark :: rest =>
    if mark = 'e' ∨ mark = 'E' then
      (exponentOfChars? rest).map fun e => ⟨negative, whole, fraction, some e⟩
    else none

/-- The end of a numeral from the point on. -/
def restOfChars? (negative : Bool) (whole cs : List Char) : Option Numeral :=
  match cs with
  | '.' :: rest =>
    let fraction := rest.takeWhile Char.isDigit
    if fraction.isEmpty then none
    else tailOfChars? negative whole fraction (rest.dropWhile Char.isDigit)
  | _ => tailOfChars? negative whole [] cs

def ofChars? (cs : List Char) : Option Numeral :=
  let (negative, unsigned) := match cs with
    | '-' :: rest => (true, rest)
    | _ => (false, cs)
  let whole := unsigned.takeWhile Char.isDigit
  let rest := unsigned.dropWhile Char.isDigit
  match whole with
  | [] => none
  | '0' :: _ :: _ => none
  | _ => restOfChars? negative whole rest

end Numeral

end Decimal

end RasterMosaic
