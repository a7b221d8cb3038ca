import RasterMosaic.Decimal.Numeral

/-!
JSON values as they are written: numerals keep their digits, objects the order and repetition of
their keys, and texts the surrogate escapes that pair with nothing. `print` writes a value
without any space.
-/

namespace RasterMosaic

/-- A piece of a text: a character, or half of a surrogate pair without its other half. -/
inductive TextPiece
  | char (c : Char)
  | surrogate (unit : Nat)
deriving DecidableEq, Repr

def TextPiece.char? : TextPiece → Option Char
  | char c => some c
  | surrogate _ => none

inductive Json
  | null
  | bool (value : Bool)
  | number (numeral : Decimal.Numeral)
  | text (pieces : List TextPiece)
  | array (elements : List Json)
  | object (members : List (List TextPiece × Json))

namespace Json

/-- The characters of a text, if it consists of characters. -/
def charsOf? (pieces : List TextPiece) : Option String :=
  (pieces.mapM TextPiece.char?).map String.ofList

def ofString (s : String) : Json := .text (s.toList.map TextPiece.char)

def hexDigit (n : Nat) : Char :=
  if n < 10 then Char.ofNat ('0'.toNat + n) else Char.ofNat ('a'.toNat + (n - 10))

/-- An escape by code unit, in four digits. -/
def unitEscape (unit : Nat) : List Char :=
  '\\' :: 'u' :: [unit / 4096 % 16, unit / 256 % 16, unit / 16 % 16, unit % 16].map hexDigit

/-- Quotes, backslashes and control characters are escaped, and nothing else. -/
def pieceChars : TextPiece → List Char
  | .char '"' => ['\\', '"']
  | .char '\\' => ['\\', '\\']
  | .char '\n' => ['\\', 'n']
  | .char '\r' => ['\\', 'r']
  | .char '\t' => ['\\', 't']
  | .char c =>
    if c.toNat = 8 then ['\\', 'b']
    else if c.toNat = 12 then ['\\', 'f']
    else if c.toNat < 32 then unitEscape c.toNat
    else [c]
  | .surrogate unit => unitEscape unit

def textChars (pieces : List TextPiece) : List Char :=
  '"' :: (pieces.flatMap pieceChars ++ ['"'])

mutual

def chars : Json → List Char
  | .null => "null".toList
  | .bool true => "true".toList
  | .bool false => "false".toList
  | .number numeral => numeral.chars
  | .text pieces => textChars pieces
  | .array elements => '[' :: elementChars elements
  | .object members => '{' :: memberChars members

/-- Elements separated by commas, and the bracket that closes them. -/
def elementChars : List Json → List Char
  | [] => [']']
  | [last] => chars last ++ [']']
  | element :: rest => chars element ++ ',' :: elementChars rest

/-- Members separated by commas, and the brace that closes them. -/
def memberChars : List (List TextPiece × Json) → List Char
  | [] => ['}']
  | [(key, value)] => textChars key ++ ':' :: (chars value ++ ['}'])
  | (key, value) :: rest => textChars key ++ ':' :: (chars value ++ ',' :: memberChars rest)

end

def print (j : Json) : String := String.ofList j.chars

end Json

end RasterMosaic
