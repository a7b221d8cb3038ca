import Mathlib.Data.List.Basic
import Mathlib.Tactic.IntervalCases
import Mathlib.Tactic.SplitIfs
import RasterMosaic.Json.Token
import RasterMosaic.Proofs.Decimal.Numeral

/-!
The tokens of a value, and their reading from its characters. A word or a numeral ends only where
something else begins, so characters are read as their tokens in front of what ends a token:
nothing, or a mark that no word or numeral contains.
-/

namespace RasterMosaic
namespace Json

/-! ### Texts -/

/-- Surrogates that do not pair, and nothing else that is no character. -/
structure Joined (pieces : List TextPiece) : Prop where
  unpaired : joinSurrogates pieces = pieces
  range : ∀ unit, .surrogate unit ∈ pieces → 0xD800 ≤ unit ∧ unit < 0xE000

theorem joined_chars (cs : List Char) : Joined (cs.map .char) where
  unpaired := by
    induction cs with
    | nil => rfl
    | cons c rest ih => rw [List.map_cons, joinSurrogates, ih]; exact nofun
  range unit mem := by
    obtain ⟨_, _, same⟩ := List.mem_map.mp mem
    cases same

theorem hexValue?_hexDigit : ∀ n < 16, hexValue? (hexDigit n) = some n := by decide

variable {rest : List Char} {pieces : List TextPiece} {read : List Token}

theorem scan?_unitEscape {unit : Nat} (short : unit < 0x10000) :
    scan? (unitEscape unit ++ rest) (.text pieces) read =
      scan? rest (.text (pieceOfUnit unit :: pieces)) read := by
  have digit (n : Nat) : hexValue? (hexDigit (n % 16)) = some (n % 16) :=
    hexValue?_hexDigit _ (Nat.mod_lt _ (by decide))
  have gathered : 16 * (16 * (16 * (unit / 4096 % 16) + unit / 256 % 16) + unit / 16 % 16) +
      unit % 16 = unit := by omega
  simp [unitEscape, scan?, step?, digit, gathered]

theorem scan?_pieceChars {piece : TextPiece}
    (range : ∀ unit, piece = .surrogate unit → 0xD800 ≤ unit ∧ unit < 0xE000) :
    scan? (pieceChars piece ++ rest) (.text pieces) read =
      scan? rest (.text (piece :: pieces)) read := by
  unfold pieceChars
  split
  · rfl
  · rfl
  · rfl
  · rfl
  · rfl
  · next c quote backslash _ _ _ =>
    have code {n : Nat} (same : c.toNat = n) : c = Char.ofNat n := by
      rw [← same, Char.ofNat_toNat]
    split_ifs with backspace feed control
    · rw [code backspace]
      rfl
    · rw [code feed]
      rfl
    · have piece : pieceOfUnit c.toNat = .char c := by
        rw [pieceOfUnit, if_neg (by simp; omega), Char.ofNat_toNat]
      rw [scan?_unitEscape (by omega), piece]
    · have plain : step? (.text pieces) c = some ([], .text (.char c :: pieces)) := by
        rw [step?, if_neg quote, if_neg backslash, if_neg control]
      rw [List.singleton_append, scan?, plain]
      rfl
  · next unit =>
    obtain ⟨above, below⟩ := range unit rfl
    rw [scan?_unitEscape (by omega), pieceOfUnit, if_pos (by simp; omega)]

theorem scan?_flatMap_pieceChars {pieces' : List TextPiece}
    (range : ∀ unit, .surrogate unit ∈ pieces' → 0xD800 ≤ unit ∧ unit < 0xE000) :
    scan? (pieces'.flatMap pieceChars ++ rest) (.text pieces) read =
      scan? rest (.text (pieces'.reverse ++ pieces)) read := by
  induction pieces' generalizing pieces with
  | nil => rfl
  | cons piece others ih =>
      rw [List.flatMap_cons, List.append_assoc,
        scan?_pieceChars fun unit same => range unit (same ▸ List.mem_cons_self),
        ih fun unit mem => range unit (List.mem_cons_of_mem _ mem), List.reverse_cons,
        List.append_assoc, List.singleton_append]

/-! ### Tokens -/

/-- What follows begins no part of a word or a numeral. -/
def EndsToken (rest : List Char) : Prop :=
  ∀ c, rest.head? = some c → isNumeralChar c = false ∧ c.isLower = false

/-- In front of what ends a token, the characters are read as the tokens. -/
def Reads (cs : List Char) (tokens : List Token) : Prop :=
  ∀ rest read, EndsToken rest →
    scan? (cs ++ rest) .between read = scan? rest .between (tokens.reverse ++ read)

/-- The character is a token by itself, and ends the one before it. -/
structure Mark (c : Char) (token : Token) : Prop where
  start : start? c = some ([token], .between)
  ends : isNumeralChar c = false ∧ c.isLower = false

theorem Mark.endsToken {c : Char} {token : Token} (mark : Mark c token) (cs : List Char) :
    EndsToken (c :: cs) := by
  intro first head
  obtain rfl := Option.some.inj head
  exact mark.ends

theorem mark_closeArray : Mark ']' .closeArray := ⟨rfl, by decide⟩
theorem mark_closeObject : Mark '}' .closeObject := ⟨rfl, by decide⟩
theorem mark_openArray : Mark '[' .openArray := ⟨rfl, by decide⟩
theorem mark_openObject : Mark '{' .openObject := ⟨rfl, by decide⟩
theorem mark_comma : Mark ',' .comma := ⟨rfl, by decide⟩
theorem mark_colon : Mark ':' .colon := ⟨rfl, by decide⟩

/-! ### Words and numerals -/

/-- A digit is one of ten characters. -/
theorem exists_digit {c : Char} (digit : c.isDigit = true) : ∃ k < 10, c = Char.ofNat (48 + k) := by
  have bounds : 48 ≤ c.toNat ∧ c.toNat ≤ 57 := Char.isDigit_iff_toNat.mp digit
  exact ⟨c.toNat - 48, by omega, by rw [Nat.add_sub_cancel' bounds.1, Char.ofNat_toNat]⟩

theorem start?_of_isDigit {c : Char} (digit : c.isDigit = true) :
    start? c = some ([], .numeral [c]) := by
  obtain ⟨k, small, rfl⟩ := exists_digit digit
  interval_cases k <;> rfl

theorem isNumeralChar_of_isDigit {c : Char} (digit : c.isDigit = true) :
    isNumeralChar c = true := by
  simp [isNumeralChar, digit]

section Numerals
open Decimal Numeral
variable {n : Numeral} (h : n.WellFormed)
include h

theorem exists_start_of_wellFormed :
    ∃ first others, n.chars = first :: others ∧ start? first = some ([], .numeral [first]) := by
  rw [chars_eq]
  cases n.negative with
  | true => exact ⟨'-', _, rfl, rfl⟩
  | false =>
      obtain ⟨first, others, split⟩ := List.exists_cons_of_ne_nil h.nonempty
      have digit : first.isDigit = true := h.whole first (split ▸ List.mem_cons_self)
      rw [split]
      exact ⟨first, _, rfl, start?_of_isDigit digit⟩

theorem isNumeralChar_of_mem_chars : ∀ c ∈ n.chars, isNumeralChar c = true := by
  have digits {cs : List Char} (run : ∀ c ∈ cs, c.isDigit = true) :
      ∀ c ∈ cs, isNumeralChar c = true := fun c mem => isNumeralChar_of_isDigit (run c mem)
  have sign : ∀ c ∈ (if n.negative then ['-'] else []), isNumeralChar c = true := by
    split
    · exact List.forall_mem_cons.mpr ⟨by decide, nofun⟩
    · exact nofun
  have fraction : ∀ c ∈ fractionChars n.fraction, isNumeralChar c = true := by
    rw [fractionChars]
    split
    · exact nofun
    · exact List.forall_mem_cons.mpr ⟨by decide, digits h.fraction⟩
  have exponent : ∀ c ∈ exponentChars n.exponent, isNumeralChar c = true := by
    cases n.exponent with
    | none => exact nofun
    | some e =>
        refine List.forall_mem_cons.mpr ⟨by decide, List.forall_mem_cons.mpr ⟨?_, ?_⟩⟩
        · split <;> decide
        · exact digits isDigit_of_mem_digitChars
  rw [chars_eq]
  exact List.forall_mem_append.mpr ⟨sign, List.forall_mem_append.mpr ⟨digits h.whole,
    List.forall_mem_append.mpr ⟨fraction, exponent⟩⟩⟩

end Numerals

namespace Reads
variable {cs cs' : List Char} {ts ts' : List Token}

theorem nil : Reads [] [] := fun _ _ _ => rfl

theorem mark {c : Char} {token : Token} (m : Mark c token) (h : Reads cs ts) :
    Reads (c :: cs) (token :: ts) := by
  intro rest read ends
  have first : step? .between c = some ([token], .between) := m.start
  rw [List.cons_append, scan?, first, List.reverse_cons, List.append_assoc]
  exact h rest _ ends

theorem before (h : Reads cs ts) {c : Char} {token : Token} (m : Mark c token)
    (h' : Reads cs' ts') : Reads (cs ++ c :: cs') (ts ++ token :: ts') := by
  intro rest read ends
  have later := mark m h' rest (ts.reverse ++ read) ends
  rw [List.cons_append] at later
  rw [List.append_assoc, List.cons_append, h _ _ (m.endsToken _), later, List.reverse_append,
    List.append_assoc]

/-- A token that only what follows ends is read once something else begins. -/
theorem of_ended {scan : Scan} {token : Token}
    (reach : ∀ rest read, scan? (cs ++ rest) .between read = scan? rest scan read)
    (step : ∀ c, isNumeralChar c = false ∧ c.isLower = false →
      step? scan c = endBefore? (some token) c)
    (finish : finish? scan = some [token]) : Reads cs [token] := by
  intro rest read ends
  rw [reach]
  cases rest with
  | nil =>
      have closed : finish? .between = some [] := rfl
      simp [scan?, finish, closed]
  | cons c rest =>
      -- The character that ends the token is read as if nothing stood before it.
      have begins : step? .between c = start? c := rfl
      rw [scan?, scan?, step c (ends c rfl), begins, endBefore?]
      cases start? c <;> simp

theorem word {letters : List Char} {token : Token} (spelled : wordToken? letters = some token)
    (reach : ∀ rest read,
      scan? (letters ++ rest) .between read = scan? rest (.word letters.reverse) read) :
    Reads letters [token] := by
  refine of_ended reach (fun c ends => ?_) ?_
  · rw [step?, ends.2, List.reverse_reverse, spelled]
    rfl
  · rw [finish?, List.reverse_reverse, spelled]
    rfl

theorem scan?_numeral {cs rest lexeme : List Char} {read : List Token}
    (run : ∀ c ∈ cs, isNumeralChar c = true) :
    scan? (cs ++ rest) (.numeral lexeme) read =
      scan? rest (.numeral (cs.reverse ++ lexeme)) read := by
  induction cs generalizing lexeme with
  | nil => rfl
  | cons c others ih =>
      obtain ⟨first, run⟩ := List.forall_mem_cons.mp run
      rw [List.cons_append, scan?, step?, if_pos first, List.reverse_cons, List.append_assoc]
      exact ih run

theorem numeral {n : Decimal.Numeral} (h : n.WellFormed) : Reads n.chars [.atom (.number n)] := by
  obtain ⟨first, others, split, starts⟩ := exists_start_of_wellFormed h
  have run : ∀ c ∈ others, isNumeralChar c = true := fun c mem =>
    isNumeralChar_of_mem_chars h c (split ▸ List.mem_cons_of_mem first mem)
  have token : numeralToken? n.chars = some (.atom (.number n)) := by
    rw [numeralToken?, Decimal.Numeral.ofChars?_chars h]
    rfl
  rw [split] at token ⊢
  have reach (rest : List Char) (read : List Token) :
      scan? (first :: others ++ rest) .between read =
        scan? rest (.numeral (others.reverse ++ [first])) read := by
    have begins : step? .between first = some ([], .numeral [first]) := starts
    rw [List.cons_append, scan?, begins]
    exact scan?_numeral run
  refine of_ended reach ?_ ?_
  · intro c ends
    rw [step?, ends.1]
    simp [token]
  · simp [finish?, token]

end Reads

mutual

/-- The tokens a value is written as. -/
def tokens : Json → List Token
  | .text pieces => [.text pieces]
  | .array elements => .openArray :: elementTokens elements
  | .object members => .openObject :: memberTokens members
  | value => [.atom value]

def elementTokens : List Json → List Token
  | [] => [.closeArray]
  | [last] => tokens last ++ [.closeArray]
  | element :: rest => tokens element ++ .comma :: elementTokens rest

def memberTokens : List (List TextPiece × Json) → List Token
  | [] => [.closeObject]
  | [(key, value)] => .text key :: .colon :: (tokens value ++ [.closeObject])
  | (key, value) :: rest =>
    .text key :: .colon :: (tokens value ++ .comma :: memberTokens rest)

end

/-- Numerals that read as they are written, and texts with no surrogates that would pair. -/
inductive WellFormed : Json → Prop
  | null : WellFormed .null
  | bool (value : Bool) : WellFormed (.bool value)
  | number {n : Decimal.Numeral} (h : n.WellFormed) : WellFormed (.number n)
  | text {pieces : List TextPiece} (h : Joined pieces) : WellFormed (.text pieces)
  | array {elements : List Json} (h : ∀ e ∈ elements, WellFormed e) : WellFormed (.array elements)
  | object {members : List (List TextPiece × Json)} (keys : ∀ m ∈ members, Joined m.1)
      (values : ∀ m ∈ members, WellFormed m.2) : WellFormed (.object members)

namespace Reads

theorem textChars {pieces : List TextPiece} (h : Joined pieces) {cs : List Char} {ts : List Token}
    (later : Reads cs ts) : Reads (textChars pieces ++ cs) (.text pieces :: ts) := by
  intro rest read ends
  have opens : step? .between '"' = some ([], .text []) := rfl
  have closes : step? (.text pieces.reverse) '"' = some ([.text pieces], .between) := by
    rw [step?, if_pos rfl, List.reverse_reverse, h.unpaired]
  rw [Json.textChars, List.append_assoc, List.cons_append, scan?, opens]
  dsimp only
  rw [List.append_assoc, scan?_flatMap_pieceChars h.range, List.append_nil, List.singleton_append,
    scan?, closes, List.reverse_cons, List.append_assoc]
  exact later rest _ ends

theorem elementChars {elements : List Json} (h : ∀ e ∈ elements, Reads e.chars e.tokens) :
    Reads (elementChars elements) (elementTokens elements) := by
  induction elements with
  | nil => exact mark mark_closeArray nil
  | cons element others ih =>
      obtain ⟨first, h⟩ := List.forall_mem_cons.mp h
      cases others with
      | nil => exact first.before mark_closeArray nil
      | cons second others => exact first.before mark_comma (ih h)

theorem memberChars {members : List (List TextPiece × Json)} (keys : ∀ m ∈ members, Joined m.1)
    (values : ∀ m ∈ members, Reads m.2.chars m.2.tokens) :
    Reads (memberChars members) (memberTokens members) := by
  induction members with
  | nil => exact mark mark_closeObject nil
  | cons member others ih =>
      obtain ⟨key, keys⟩ := List.forall_mem_cons.mp keys
      obtain ⟨value, values⟩ := List.forall_mem_cons.mp values
      cases others with
      | nil => exact textChars key (mark mark_colon (value.before mark_closeObject nil))
      | cons second others =>
          exact textChars key (mark mark_colon (value.before mark_comma (ih keys values)))

end Reads

theorem WellFormed.reads {j : Json} (h : j.WellFormed) : Reads j.chars j.tokens := by
  induction h with
  | null => exact .word rfl fun _ _ => rfl
  | bool value =>
      cases value with
      | true => exact .word rfl fun _ _ => rfl
      | false => exact .word rfl fun _ _ => rfl
  | number h => exact .numeral h
  | text h => simpa [tokens, chars] using Reads.textChars h .nil
  | array _ ih => exact .mark mark_openArray (.elementChars ih)
  | object keys _ ih => exact .mark mark_openObject (.memberChars keys ih)

theorem tokens?_chars {j : Json} (h : j.WellFormed) : tokens? j.chars = some j.tokens := by
  have whole := h.reads [] [] nofun
  simpa [tokens?, scan?, finish?] using whole

end Json
end RasterMosaic
