import RasterMosaic.Json.Basic

/-!
The tokens of JSON text. The text is read one character at a time; words and numerals end where
a character of another class follows, which is then read as the start of what comes next. A
surrogate escape joins with the one right after it when the two make a character.
-/

namespace RasterMosaic

namespace Json

inductive Token
  | openArray
  | closeArray
  | openObject
  | closeObject
  | comma
  | colon
  /-- A value without parts. -/
  | atom (value : Json)
  | text (pieces : List TextPiece)

/-- How far the reading of a token has come. What was read is kept in reverse. -/
inductive Scan
  | between
  | word (letters : List Char)
  | numeral (lexeme : List Char)
  | text (pieces : List TextPiece)
  | escape (pieces : List TextPiece)
  /-- An escape by code unit that has `missing` digits to come. -/
  | unit (pieces : List TextPiece) (missing value : Nat)

def isSpace (c : Char) : Bool := c = ' ' || c = '\n' || c = '\t' || c = '\r'

def isNumeralChar (c : Char) : Bool :=
  c.isDigit || c = '-' || c = '+' || c = '.' || c = 'e' || c = 'E'

def isHighSurrogate (unit : Nat) : Bool := 0xD800 ≤ unit && unit < 0xDC00

def isLowSurrogate (unit : Nat) : Bool := 0xDC00 ≤ unit && unit < 0xE000

def pieceOfUnit (unit : Nat) : TextPiece :=
  if 0xD800 ≤ unit && unit < 0xE000 then .surrogate unit else .char (Char.ofNat unit)

/-- Joins surrogates that follow one another into characters. -/
def joinSurrogates : List TextPiece → List TextPiece
  | .surrogate high :: .surrogate low :: rest =>
    if isHighSurrogate high && isLowSurrogate low then
      .char (Char.ofNat (0x10000 + (high - 0xD800) * 0x400 + (low - 0xDC00))) ::
        joinSurrogates rest
    else .surrogate high :: joinSurrogates (.surrogate low :: rest)
  | piece :: rest => piece :: joinSurrogates rest
  | [] => []

def wordToken? (letters : List Char) : Option Token :=
  if letters = "null".toList then some (.atom .null)
  else if letters = "true".toList then some (.atom (.bool true))
  else if letters = "false".toList then some (.atom (.bool false))
  else none

def numeralToken? (lexeme : List Char) : Option Token :=
  (Decimal.Numeral.ofChars? lexeme).map fun n => .atom (.number n)

/-- What a character starts where no token is being read. -/
def start? (c : Char) : Option (List Token × Scan) :=
  match c with
  | '[' => some ([.openArray], .between)
  | ']' => some ([.closeArray], .between)
  | '{' => some ([.openObject], .between)
  | '}' => some ([.closeObject], .between)
  | ',' => some ([.comma], .between)
  | ':' => some ([.colon], .between)
  | '"' => some ([], .text [])
  | c =>
    if isSpace c then some ([], .between)
    else if c.isLower then some ([], .word [c])
    else if isNumeralChar c then some ([], .numeral [c])
    else none

/-- The character an escape of one letter stands for. -/
def escaped? : Char → Option Char
  | '"' => some '"'
  | '\\' => some '\\'
  | '/' => some '/'
  | 'b' => some (Char.ofNat 8)
  | 'f' => some (Char.ofNat 12)
  | 'n' => some '\n'
  | 'r' => some '\r'
  | 't' => some '\t'
  | _ => none

def hexValue? (c : Char) : Option Nat :=
  if c.isDigit then some (c.toNat - '0'.toNat)
  else if 'a' ≤ c ∧ c ≤ 'f' then some (c.toNat - 'a'.toNat + 10)
  else if 'A' ≤ c ∧ c ≤ 'F' then some (c.toNat - 'A'.toNat + 10)
  else none

/-- A token that ends before a character, and what the character starts. -/
def endBefore? (token : Option Token) (c : Char) : Option (List Token × Scan) := do
  let token ← token
  let (tokens, scan) ← start? c
  return (token :: tokens, scan)

def step? (scan : Scan) (c : Char) : Option (List Token × Scan) :=
  match scan with
  | .between => start? c
  | .word letters =>
    if c.isLower then some ([], .word (c :: letters))
    else endBefore? (wordToken? letters.reverse) c
  | .numeral lexeme =>
    if isNumeralChar c then some ([], .numeral (c :: lexeme))
    else endBefore? (numeralToken? lexeme.reverse) c
  | .text pieces =>
    if c = '"' then some ([.text (joinSurrogates pieces.reverse)], .between)
    else if c = '\\' then some ([], .escape pieces)
    else if c.toNat < 32 then none
    else some ([], .text (.char c :: pieces))
  | .escape pieces =>
    if c = 'u' then some ([], .unit pieces 4 0)
    else (escaped? c).map fun e => ([], .text (.char e :: pieces))
  | .unit pieces missing value =>
    (hexValue? c).map fun digit =>
      let value := 16 * value + digit
      if missing ≤ 1 then ([], .text (pieceOfUnit value :: pieces))
      else ([], .unit pieces (missing - 1) value)

/-- The token the end of the text closes. -/
def finish? : Scan → Option (List Token)
  | .between => some []
  | .word letters => (wordToken? letters.reverse).map ([·])
  | .numeral lexeme => (numeralToken? lexeme.reverse).map ([·])
  | _ => none

/-- Reads the rest of a text; the tokens read before are kept in reverse. -/
def scan? : List Char → Scan → List Token → Option (List Token)
  | [], scan, tokens => (finish? scan).map fun last => tokens.reverse ++ last
  | c :: rest, scan, tokens =>
    match step? scan c with
    | none => none
    | some (new, scan) => scan? rest scan (new.reverse ++ tokens)

def tokens? (text : List Char) : Option (List Token) := scan? text .between []

end Json

end RasterMosaic
