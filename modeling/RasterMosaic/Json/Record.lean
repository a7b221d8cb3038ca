import RasterMosaic.Json.Number
import RasterMosaic.Json.Parser

/-!
Values of known types as JSON. A record is written as an object with its fields in order. It is
read from such an object in any order, keys that name no field being passed over, or from the
plain list of its fields; a field that is optional may be left out of the object, and one with a
default out of either.
-/

namespace RasterMosaic

class JsonCodec (α : Type) where
  toJson : α → Json
  ofJson? : Json → Option α

namespace JsonCodec

variable {α β : Type}

/-- The text of a value, without any space. -/
def write [JsonCodec α] (value : α) : String := (toJson value).print

/-- The value of a text. -/
def read? [JsonCodec α] (text : String) : Option α := (Json.parse? text).bind ofJson?

instance : JsonCodec Bool where
  toJson := .bool
  ofJson?
    | .bool value => some value
    | _ => none

/-- Natural numbers are machine words. -/
instance : JsonCodec Nat where
  toJson := .ofNat
  ofJson?
    | .number n =>
      match Json.numberValue? n with
      | some (.natural value) => some value
      | _ => none
    | _ => none

instance : JsonCodec Float where
  toJson := .ofFloat
  ofJson?
    | .number n => (Json.numberValue? n).map Json.NumberValue.toFloat
    | _ => none

instance : JsonCodec Float32 where
  toJson := .ofFloat32
  ofJson?
    | .number n => (Json.numberValue? n).map Json.NumberValue.toFloat32
    | _ => none

instance : JsonCodec String where
  toJson := .ofString
  ofJson?
    | .text pieces => Json.charsOf? pieces
    | _ => none

instance [JsonCodec α] : JsonCodec (Option α) where
  toJson
    | some value => toJson value
    | none => .null
  ofJson?
    | .null => some none
    | j => (ofJson? j).map some

instance [JsonCodec α] [JsonCodec β] : JsonCodec (α × β) where
  toJson p := .array [toJson p.1, toJson p.2]
  ofJson?
    | .array [a, b] => do return (← ofJson? a, ← ofJson? b)
    | _ => none

end JsonCodec

namespace Json

/-- The fields found for a record. -/
structure Fields where
  entries : List (String × Json)
  /-- They were given as a plain list, which names none of them. -/
  listed : Bool

/-- The fields of a record with the given names. No field is given twice, and a plain list has
no more elements than there are fields. -/
def fields? (names : List String) : Json → Option Fields
  | .array elements =>
    if elements.length ≤ names.length then some ⟨names.zip elements, true⟩ else none
  | .object members => do
    let entries ← members.mapM fun (key, value) => (charsOf? key).map fun name => (name, value)
    if names.any fun name => 2 ≤ entries.countP fun entry => entry.1 == name then none
    else some ⟨entries, false⟩
  | _ => none

namespace Fields

variable {α : Type} [JsonCodec α]

def required? (f : Fields) (name : String) : Option α :=
  (f.entries.lookup name).bind JsonCodec.ofJson?

/-- A field that an object may leave out. -/
def optional? (f : Fields) (name : String) : Option (Option α) :=
  match f.entries.lookup name with
  | some j => JsonCodec.ofJson? j
  | none => if f.listed then none else some none

/-- A field with a value for when it is left out. -/
def withDefault? (f : Fields) (name : String) (default : α) : Option α :=
  match f.entries.lookup name with
  | some j => JsonCodec.ofJson? j
  | none => some default

end Fields

def record (members : List (String × Json)) : Json :=
  .object (members.map fun (name, value) => (name.toList.map TextPiece.char, value))

end Json

end RasterMosaic
