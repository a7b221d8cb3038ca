import Mathlib.Data.List.Nodup
import RasterMosaic.Json.Record
import RasterMosaic.Proofs.Decimal.Layout
import RasterMosaic.Proofs.Json.Parsing
import RasterMosaic.Proofs.Option

/-!
Values of known types, written and read again. A natural number is read back if it is a machine
word, and no other is ever read; a number that is not finite is written as null, which an optional
value reads as absent. A record is read back field by field.
-/

namespace RasterMosaic
namespace Json
open Decimal

/-! ### Numbers -/

theorem ofNat_wellFormed (n : Nat) : (ofNat n).WellFormed := by
  have digits : Numeral.WellFormed ⟨false, digitChars n ++ List.replicate 0 '0', [], none⟩ :=
    whole_wellFormed false (fun _ => rfl) nofun
  rw [List.replicate_zero, List.append_nil] at digits
  exact .number digits

theorem numberValue?_ofNat {n : Nat} (word : n < wordLimit) :
    numberValue? ⟨false, digitChars n, [], none⟩ = some (.natural n) := by
  simp [numberValue?, digitsValue_digitChars, word]

theorem lt_of_numberValue?_eq_natural {numeral : Numeral} {n : Nat}
    (read : numberValue? numeral = some (.natural n)) : n < wordLimit := by
  rw [numberValue?] at read
  split at read
  · next whole =>
    split at read
    · cases read
      exact whole.2.2
    · split at read <;> cases read
  · obtain ⟨_, _, same⟩ := Option.map_eq_some_iff.mp read
    cases same

theorem ofFloat32_wellFormed (x : Float32) : (ofFloat32 x).WellFormed := by
  have normal := Reading.ofUnpacked_normal narrowLayout.tie 23 (-149) 9 x.toModel.unpack
  rw [ofFloat32, ofReading]
  split
  · next written => exact .number (narrowLayout.numeral?_wellFormed normal written)
  · exact .null

theorem ofFloat32_eq_null_iff {x : Float32} : ofFloat32 x = .null ↔ x.isFinite = false := by
  have finite : x.isFinite = x.toModel.unpack.isFinite := rfl
  rw [finite, ofFloat32, Reading.ofFloat32]
  cases x.toModel.unpack with
  | notANumber => exact iff_of_true rfl rfl
  | infinity sign => exact iff_of_true rfl rfl
  | zero sign => exact iff_of_false nofun nofun
  | finite sign m e pos => exact iff_of_false nofun nofun

/-! ### Records -/

theorem charsOf?_map_char (cs : List Char) : charsOf? (cs.map .char) = some (String.ofList cs) := by
  have chars : (cs.map TextPiece.char).mapM TextPiece.char? = some cs :=
    mapM_eq_some (by rw [List.map_map]; rfl)
  rw [charsOf?, chars]
  rfl

section Records
variable {members : List (String × Json)}

theorem record_wellFormed (h : ∀ m ∈ members, m.2.WellFormed) : (record members).WellFormed := by
  refine .object ?_ ?_
  · intro m mem
    obtain ⟨_, _, rfl⟩ := List.mem_map.mp mem
    exact joined_chars _
  · intro m mem
    obtain ⟨member, listed, rfl⟩ := List.mem_map.mp mem
    exact h member listed

/-- The fields of a record are those it was made of, if no two have one name. -/
theorem fields?_record (distinct : (members.map Prod.fst).Nodup) (names : List String) :
    (record members).fields? names = some ⟨members, false⟩ := by
  have entries : (members.map fun m => (m.1.toList.map TextPiece.char, m.2)).mapM
      (fun m => (charsOf? m.1).map fun name => (name, m.2)) = some members := by
    refine mapM_eq_some ?_
    rw [List.map_map]
    refine List.map_congr_left fun member _ => ?_
    simp [charsOf?_map_char]
  have single :
      (names.any fun name => 2 ≤ members.countP fun entry => entry.1 == name) = false := by
    refine List.any_eq_false.mpr fun name _ => ?_
    have once := List.nodup_iff_count_le_one.mp distinct name
    rw [List.count_eq_countP, List.countP_map] at once
    have : members.countP (fun entry => entry.1 == name) ≤ 1 := once
    simp only [decide_eq_true_iff]
    omega
  have read : (record members).fields? names = some members >>= fun entries =>
      if names.any fun name => 2 ≤ entries.countP fun entry => entry.1 == name then none
      else some ⟨entries, false⟩ := congrArg (· >>= _) entries
  rw [read, Option.bind_eq_bind, Option.bind_some, single]
  rfl

theorem Fields.withDefault?_of_mem {α : Type} [JsonCodec α] {f : Fields}
    (distinct : (f.entries.map Prod.fst).Nodup) {name : String} {j : Json}
    (mem : (name, j) ∈ f.entries) (default : α) :
    f.withDefault? name default = JsonCodec.ofJson? j := by
  obtain ⟨before, after, split⟩ := List.append_of_mem mem
  have found : f.entries.lookup name = some j := by
    refine List.lookup_eq_some_iff.mpr ⟨before, after, split, fun member earlier => ?_⟩
    rw [split, List.map_append, List.map_cons, List.nodup_append] at distinct
    have other := distinct.2.2 member.1 (List.mem_map_of_mem earlier) name List.mem_cons_self
    exact bne_iff_ne.mpr (Ne.symm other)
  rw [withDefault?, found]

theorem Fields.withDefault?_eq_some {α : Type} [JsonCodec α] {f : Fields} {name : String}
    {default value : α} (read : f.withDefault? name default = some value) :
    value = default ∨ ∃ j, JsonCodec.ofJson? j = some value := by
  rw [withDefault?] at read
  split at read
  · next j _ => exact .inr ⟨j, read⟩
  · exact .inl (Option.some.inj read).symm

end Records

end Json

namespace JsonCodec
variable {α : Type} [JsonCodec α]

theorem read?_write {value : α} (h : (toJson value).WellFormed) :
    (read? (write value) : Option α) = ofJson? (toJson value) := by
  rw [read?, write, Json.parse?_print h, Option.bind_some]

/-- The value is read back from what it is written as. -/
def ReadsBack (value : α) : Prop := read? (write value) = some value

theorem ofJson?_toJson_nat {n : Nat} (word : n < Json.wordLimit) :
    (ofJson? (toJson n) : Option Nat) = some n := by
  simp only [toJson, ofJson?, Json.ofNat, Json.numberValue?_ofNat word]

/-- Only machine words are read. -/
theorem lt_wordLimit_of_ofJson? {j : Json} {n : Nat} (read : ofJson? j = some n) :
    n < Json.wordLimit := by
  simp only [ofJson?] at read
  split at read
  · split at read
    · next whole =>
      cases read
      exact Json.lt_of_numberValue?_eq_natural whole
    · cases read
  · cases read

/-- A value that is not written as null is told from an absent one. -/
theorem ofJson?_toJson_some {value : α} (given : toJson value ≠ .null) :
    (ofJson? (toJson (some value)) : Option (Option α)) = (ofJson? (toJson value)).map some := by
  have same : toJson (some value) = toJson value := rfl
  rw [same]
  cases written : (toJson value : Json) with
  | null => exact absurd written given
  | bool _ | number _ | text _ | array _ | object _ => rfl

theorem ofJson?_toJson_of_eq_null {value : Option α} (absent : toJson value = .null) :
    (ofJson? (toJson value) : Option (Option α)) = some none := by
  rw [absent]
  rfl

end JsonCodec
end RasterMosaic
