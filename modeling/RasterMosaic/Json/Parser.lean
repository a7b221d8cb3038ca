import RasterMosaic.Json.Token

/-!
JSON values from tokens. Arrays and objects that are still open are kept in a list, so how deep
values may nest is not limited.
-/

namespace RasterMosaic

namespace Json

/-- A value that is still open, with its finished parts in reverse. -/
inductive Frame
  | array (elements : List Json)
  | object (members : List (List TextPiece × Json))
  /-- An object that waits for the value of a key. -/
  | member (members : List (List TextPiece × Json)) (key : List TextPiece)

inductive Expected
  | value
  | valueOrClose
  | key
  | keyOrClose
  | colon
  | commaOrClose
  | nothing (result : Json)

structure ParseState where
  opened : List Frame
  expected : Expected

/-- Puts a finished value where it belongs. -/
def place? (value : Json) : List Frame → Option ParseState
  | [] => some ⟨[], .nothing value⟩
  | .array elements :: outer => some ⟨.array (value :: elements) :: outer, .commaOrClose⟩
  | .member members key :: outer =>
    some ⟨.object ((key, value) :: members) :: outer, .commaOrClose⟩
  | .object _ :: _ => none

/-- Closes the innermost array or object. -/
def close? (token : Token) (opened : List Frame) : Option ParseState :=
  match token, opened with
  | .closeArray, .array elements :: outer => place? (.array elements.reverse) outer
  | .closeObject, .object members :: outer => place? (.object members.reverse) outer
  | _, _ => none

/-- Begins a value, or completes one without parts. -/
def beginValue? (token : Token) (opened : List Frame) : Option ParseState :=
  match token with
  | .openArray => some ⟨.array [] :: opened, .valueOrClose⟩
  | .openObject => some ⟨.object [] :: opened, .keyOrClose⟩
  | .atom value => place? value opened
  | .text pieces => place? (.text pieces) opened
  | _ => none

def beginMember? (token : Token) (opened : List Frame) : Option ParseState :=
  match token, opened with
  | .text key, .object members :: outer => some ⟨.member members key :: outer, .colon⟩
  | _, _ => none

def afterComma? (opened : List Frame) : Option ParseState :=
  match opened with
  | .array _ :: _ => some ⟨opened, .value⟩
  | .object _ :: _ => some ⟨opened, .key⟩
  | _ => none

def parseToken? (s : ParseState) (token : Token) : Option ParseState :=
  match s.expected with
  | .value => beginValue? token s.opened
  | .valueOrClose => (beginValue? token s.opened) <|> (close? token s.opened)
  | .key => beginMember? token s.opened
  | .keyOrClose => (beginMember? token s.opened) <|> (close? token s.opened)
  | .colon =>
    match token with
    | .colon => some ⟨s.opened, .value⟩
    | _ => none
  | .commaOrClose =>
    match token with
    | .comma => afterComma? s.opened
    | _ => close? token s.opened
  | .nothing _ => none

def ofTokens? (tokens : List Token) : Option Json := do
  let last ← tokens.foldlM parseToken? ⟨[], .value⟩
  match last.expected with
  | .nothing value => some value
  | _ => none

/-- The value a text spells, with nothing but space around it. -/
def parse? (text : String) : Option Json := (tokens? text.toList).bind ofTokens?

end Json

end RasterMosaic
