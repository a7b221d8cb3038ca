import RasterMosaic.Json.Parser
import RasterMosaic.Proofs.Json.Tokens

/-!
A value is read back from what it is printed as. Its tokens put it where a value is expected,
whatever is open around it.
-/

namespace RasterMosaic
namespace Json

/-! ### Single tokens -/

section Steps
variable (value : Json) (elements : List Json) (members : List (List TextPiece × Json))
  (key : List TextPiece) (outer : List Frame)

@[simp]
theorem place?_element : place? value (.array elements :: outer) =
    some ⟨.array (value :: elements) :: outer, .commaOrClose⟩ := rfl

@[simp]
theorem place?_member : place? value (.member members key :: outer) =
    some ⟨.object ((key, value) :: members) :: outer, .commaOrClose⟩ := rfl

@[simp]
theorem parseToken?_openArray : parseToken? ⟨outer, .value⟩ .openArray =
    some ⟨.array [] :: outer, .valueOrClose⟩ := rfl

@[simp]
theorem parseToken?_openObject : parseToken? ⟨outer, .value⟩ .openObject =
    some ⟨.object [] :: outer, .keyOrClose⟩ := rfl

@[simp]
theorem parseToken?_comma_array : parseToken? ⟨.array elements :: outer, .commaOrClose⟩ .comma =
    some ⟨.array elements :: outer, .value⟩ := rfl

@[simp]
theorem parseToken?_comma_object : parseToken? ⟨.object members :: outer, .commaOrClose⟩ .comma =
    some ⟨.object members :: outer, .key⟩ := rfl

@[simp]
theorem parseToken?_closeArray :
    parseToken? ⟨.array elements :: outer, .commaOrClose⟩ .closeArray =
      place? (.array elements.reverse) outer := rfl

@[simp]
theorem parseToken?_closeObject :
    parseToken? ⟨.object members :: outer, .commaOrClose⟩ .closeObject =
      place? (.object members.reverse) outer := rfl

@[simp]
theorem parseToken?_key : parseToken? ⟨.object members :: outer, .key⟩ (.text key) =
    some ⟨.member members key :: outer, .colon⟩ := rfl

@[simp]
theorem parseToken?_colon : parseToken? ⟨outer, .colon⟩ .colon = some ⟨outer, .value⟩ := rfl

end Steps

/-! ### Values -/

/-- The tokens, read where a value is expected, put the value in its place. -/
def Parses (tokens : List Token) (value : Json) : Prop :=
  ∀ opened, tokens.foldlM parseToken? ⟨opened, .value⟩ = place? value opened

/-- The first token of a value closes nothing. -/
theorem foldlM_tokens_valueOrClose (j : Json) (opened : List Frame) (rest : List Token) :
    (j.tokens ++ rest).foldlM parseToken? ⟨opened, .valueOrClose⟩ =
      (j.tokens ++ rest).foldlM parseToken? ⟨opened, .value⟩ := by
  cases j <;> simp [tokens, parseToken?, close?]

namespace Parses

theorem elementTokens {element : Json} {others : List Json} (first : Parses element.tokens element)
    (h : ∀ e ∈ others, Parses e.tokens e) (read : List Json) (outer : List Frame) :
    (elementTokens (element :: others)).foldlM parseToken? ⟨.array read :: outer, .value⟩ =
      place? (.array (read.reverse ++ element :: others)) outer := by
  induction others generalizing element read with
  | nil => simp [Json.elementTokens, first _]
  | cons second others ih =>
      obtain ⟨next, later⟩ := List.forall_mem_cons.mp h
      simp [Json.elementTokens, first _, ih next later]

theorem array {elements : List Json} (h : ∀ e ∈ elements, Parses e.tokens e) :
    Parses (tokens (.array elements)) (.array elements) := by
  intro opened
  rw [tokens, List.foldlM_cons, parseToken?_openArray, Option.bind_eq_bind, Option.bind_some]
  cases elements with
  | nil => exact bind_pure _
  | cons element others =>
      obtain ⟨first, later⟩ := List.forall_mem_cons.mp h
      -- An array that has elements may be closed at once no more.
      refine Eq.trans ?_ (elementTokens first later [] opened)
      cases others <;> exact foldlM_tokens_valueOrClose element _ _

theorem memberTokens {member : List TextPiece × Json} {others : List (List TextPiece × Json)}
    (first : Parses member.2.tokens member.2) (h : ∀ m ∈ others, Parses m.2.tokens m.2)
    (read : List (List TextPiece × Json)) (outer : List Frame) :
    (memberTokens (member :: others)).foldlM parseToken? ⟨.object read :: outer, .key⟩ =
      place? (.object (read.reverse ++ member :: others)) outer := by
  induction others generalizing member read with
  | nil => simp [Json.memberTokens, first _]
  | cons second others ih =>
      obtain ⟨next, later⟩ := List.forall_mem_cons.mp h
      simp [Json.memberTokens, first _, ih next later]

theorem object {members : List (List TextPiece × Json)}
    (h : ∀ m ∈ members, Parses m.2.tokens m.2) :
    Parses (tokens (.object members)) (.object members) := by
  intro opened
  rw [tokens, List.foldlM_cons, parseToken?_openObject, Option.bind_eq_bind, Option.bind_some]
  cases members with
  | nil => exact bind_pure _
  | cons member others =>
      obtain ⟨first, later⟩ := List.forall_mem_cons.mp h
      refine Eq.trans ?_ (memberTokens first later [] opened)
      cases others <;> rfl

end Parses

theorem WellFormed.parses {j : Json} (h : j.WellFormed) : Parses j.tokens j := by
  induction h with
  | null => exact fun opened => bind_pure _
  | bool value => exact fun opened => bind_pure _
  | number h => exact fun opened => bind_pure _
  | text h => exact fun opened => bind_pure _
  | array _ ih => exact .array ih
  | object _ _ ih => exact .object ih

/-- A well-formed value is read as it is printed. -/
theorem parse?_print {j : Json} (h : j.WellFormed) : parse? j.print = some j := by
  have whole := h.parses []
  rw [parse?, print, String.toList_ofList, tokens?_chars h, Option.bind_some, ofTokens?, whole]
  rfl

end Json
end RasterMosaic
