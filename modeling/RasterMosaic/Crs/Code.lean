import RasterMosaic.Error
import RasterMosaic.Text.Blank
import RasterMosaic.Text.DecimalDigit

/-!
Codes of coordinate reference systems. White space around a code does not count. The rest is a
bare number, or what the pattern

  `(?i)^(?:urn:ogc:def:crs:)?epsg:(?:[0-9.]*:)?(\d+)$`

matches, with the number for its group. Case is folded as Unicode's simple folding has it, by which
the long s is the one other character that a letter of these words may be, and `\d` is a decimal
digit of any script. So digits of other scripts are recognised as a number, but as one that is out
of range.
-/

namespace RasterMosaic

namespace Crs

/-- Folds a character to lower case as far as the words of a code can tell; the long s is an
s. -/
def foldCase (c : Char) : Char := if c = 'ſ' then 's' else c.toLower

/-- The text after a word in lower case, if it begins with that word in any case. -/
def afterWord? (word text : List Char) : Option (List Char) :=
  if (text.take word.length).map foldCase = word then some (text.drop word.length) else none

def isVersionChar (c : Char) : Bool := c.isDigit || c == '.'

/-- The text after `(?:[0-9.]*:)?`, a version closed by a colon. Digits hold no colon, so a version
that is there is never part of the number. -/
def afterVersion (text : List Char) : List Char :=
  match text.dropWhile isVersionChar with
  | ':' :: rest => rest
  | _ => text

/-- The digits of a bare number, or the group of the pattern. -/
def codeDigits? (code : List Char) : Option (List Char) :=
  let text := Text.trim code
  if !text.isEmpty && text.all Char.isDigit then some text
  else
    let system := (afterWord? "urn:ogc:def:crs:".toList text).getD text
    (afterWord? "epsg:".toList system).bind fun rest =>
      let digits := afterVersion rest
      if !digits.isEmpty && digits.all Text.isDecimalDigit then some digits else none

/-- The largest number the registry gives out. -/
def maxEpsg : Nat := 65535

def epsgOfCode (code : String) : Except CrsError Nat :=
  match codeDigits? code.toList with
  | none => .error (.unsupportedCode code)
  | some digits =>
    let number := Decimal.digitsValue digits
    if digits.all Char.isDigit && number ≤ maxEpsg then .ok number
    else .error (.codeOutOfRange code)

end Crs

inductive Hemisphere
  | north
  | south
deriving DecidableEq, Repr

namespace Hemisphere

/-- A designator `S` of either case is southern, and any other northern. -/
def ofLetters (designator : String) : Hemisphere :=
  if (Text.trim designator.toList).map Char.toLower = ['s'] then .south else .north

end Hemisphere

namespace Crs

def zoneCount : Nat := 60

def zoneCode (zone : Nat) (hemisphere : Hemisphere) : Except ArgumentError String :=
  if 1 ≤ zone ∧ zone ≤ zoneCount then
    let base := match hemisphere with
      | .north => 32600
      | .south => 32700
    .ok (epsgCode (base + zone))
  else .error (.utmZone zone)

end Crs

end RasterMosaic
