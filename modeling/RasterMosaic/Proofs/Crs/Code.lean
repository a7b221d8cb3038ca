import Mathlib.Data.List.Forall2
import Mathlib.Data.List.TakeWhile
import Mathlib.Tactic.SplitIfs
import RasterMosaic.Crs.Registry

/-!
The spellings of a code, said by how they are put together, and what is read from them. A spelling
gives the number that its digits make, if they are digits of ASCII and the registry gives out a
number so large; any other text is refused.
-/

namespace RasterMosaic

namespace Text

theorem toNat_toLower (c : Char) :
    c.toLower.toNat = if 65 ≤ c.toNat ∧ c.toNat ≤ 90 then c.toNat + 32 else c.toNat := by
  have letter : 'A'.val ≤ c.val ∧ c.val ≤ 'Z'.val ↔ 65 ≤ c.toNat ∧ c.toNat ≤ 90 := by
    simp only [UInt32.le_iff_toNat_le]
    rfl
  by_cases upper : 65 ≤ c.toNat ∧ c.toNat ≤ 90
  · have small : c.toNat + 32 < 2 ^ 32 := by omega
    have turned : c.toLower = ⟨c.val + 32, _⟩ := dif_pos (letter.mpr upper)
    rw [turned, if_pos upper]
    exact (UInt32.toNat_add c.val 32).trans (Nat.mod_eq_of_lt small)
  · have kept : c.toLower = c := dif_neg (mt letter.mp upper)
    rw [kept, if_neg upper]

theorem toNat_toUpper (c : Char) :
    c.toUpper.toNat = if 97 ≤ c.toNat ∧ c.toNat ≤ 122 then c.toNat - 32 else c.toNat := by
  have letter : 'a'.val ≤ c.val ∧ c.val ≤ 'z'.val ↔ 97 ≤ c.toNat ∧ c.toNat ≤ 122 := by
    simp only [UInt32.le_iff_toNat_le]
    rfl
  by_cases lower : 97 ≤ c.toNat ∧ c.toNat ≤ 122
  · -- The distance to the capitals is taken off by adding it up to a whole word.
    have around : c.toNat + 4294967264 = c.toNat - 32 + 2 ^ 32 := by omega
    have turned : c.toUpper = ⟨c.val + ('A'.val - 'a'.val), _⟩ := dif_pos (letter.mpr lower)
    rw [turned, if_pos lower]
    refine (UInt32.toNat_add c.val ('A'.val - 'a'.val)).trans ?_
    change (c.toNat + 4294967264) % 2 ^ 32 = _
    rw [around, Nat.add_mod_right, Nat.mod_eq_of_lt (by omega)]
  · have kept : c.toUpper = c := dif_neg (mt letter.mp lower)
    rw [kept, if_neg lower]

theorem exists_of_isDecimalDigit {c : Char} (digit : isDecimalDigit c = true) :
    ∃ first ∈ digitZeros, ∃ k < 10, c = Char.ofNat (first + k) := by
  simp only [isDecimalDigit, List.any_eq_true, Bool.and_eq_true, decide_eq_true_iff] at digit
  obtain ⟨first, listed, above, below⟩ := digit
  refine ⟨first, listed, c.toNat - first, by omega, ?_⟩
  rw [Nat.add_sub_cancel' above, Char.ofNat_toNat]

theorem digits_neither_blank_nor_colon : ∀ first ∈ digitZeros, ∀ k < 10,
    isBlank (Char.ofNat (first + k)) = false ∧ Char.ofNat (first + k) ≠ ':' := by
  decide +kernel

theorem isBlank_of_isDecimalDigit {c : Char} (digit : isDecimalDigit c = true) :
    isBlank c = false := by
  obtain ⟨first, listed, k, small, rfl⟩ := exists_of_isDecimalDigit digit
  exact (digits_neither_blank_nor_colon first listed k small).1

theorem ne_colon_of_isDecimalDigit {c : Char} (digit : isDecimalDigit c = true) : c ≠ ':' := by
  obtain ⟨first, listed, k, small, rfl⟩ := exists_of_isDecimalDigit digit
  exact (digits_neither_blank_nor_colon first listed k small).2

theorem isDecimalDigit_of_isDigit {c : Char} (digit : c.isDigit = true) :
    isDecimalDigit c = true := by
  have bounds : 48 ≤ c.toNat ∧ c.toNat < 58 := by
    simp only [Char.isDigit, Bool.and_eq_true, decide_eq_true_iff, UInt32.le_iff_toNat_le] at digit
    exact ⟨digit.1, Nat.lt_succ_of_le digit.2⟩
  simp only [isDecimalDigit, List.any_eq_true, Bool.and_eq_true, decide_eq_true_iff]
  exact ⟨48, List.mem_cons_self, bounds⟩

theorem exists_trim (text : List Char) :
    ∃ before after, text = before ++ trim text ++ after ∧
      (∀ c ∈ before, isBlank c = true) ∧ ∀ c ∈ after, isBlank c = true := by
  refine ⟨text.takeWhile isBlank, ((text.dropWhile isBlank).reverse.takeWhile isBlank).reverse, ?_,
    fun c inside => List.mem_takeWhile_imp inside,
    fun c inside => List.mem_takeWhile_imp (List.mem_reverse.mp inside)⟩
  rw [List.append_assoc, trim, ← List.reverse_append, List.takeWhile_append_dropWhile,
    List.reverse_reverse, List.takeWhile_append_dropWhile]

theorem dropWhile_isBlank_append {before rest : List Char}
    (blank : ∀ c ∈ before, isBlank c = true)
    (solid : ∀ c, rest.head? = some c → isBlank c = false) :
    (before ++ rest).dropWhile isBlank = rest := by
  rw [List.dropWhile_append_of_pos blank]
  cases rest with
  | nil => rfl
  | cons c rest => rw [List.dropWhile_cons_of_neg (by rw [solid c rfl]; exact Bool.false_ne_true)]

theorem trim_append {before text after : List Char} (blankBefore : ∀ c ∈ before, isBlank c = true)
    (solid : ∀ c ∈ text, isBlank c = false) (nonempty : text ≠ [])
    (blankAfter : ∀ c ∈ after, isBlank c = true) :
    trim (before ++ text ++ after) = text := by
  have front : (before ++ (text ++ after)).dropWhile isBlank = text ++ after := by
    refine dropWhile_isBlank_append blankBefore fun c head => solid c ?_
    rw [List.head?_append_of_ne_nil _ nonempty] at head
    exact List.mem_of_mem_head? head
  have back : (after.reverse ++ text.reverse).dropWhile isBlank = text.reverse :=
    dropWhile_isBlank_append (fun c inside => blankAfter c (List.mem_reverse.mp inside))
      fun c head => solid c (List.mem_reverse.mp (List.mem_of_mem_head? head))
  rw [trim, List.append_assoc, front, List.reverse_append, back, List.reverse_reverse]

end Text

namespace Crs

/-- A word as it may be written: every letter in either case, and an s long as well. -/
def InAnyCase (word text : List Char) : Prop :=
  List.Forall₂ (fun w c => c = w ∨ c = w.toUpper ∨ w = 's' ∧ c = 'ſ') word text

/-- ASCII digits and points, if any, and the colon that closes them. -/
def IsVersion (version : List Char) : Prop :=
  ∃ run, (∀ c ∈ run, c.isDigit = true ∨ c = '.') ∧ version = run ++ [':']

/-- How a code is written without the white space around it, and the digits of its number. -/
inductive Spelling : List Char → List Char → Prop
  | bare {digits : List Char} (nonempty : digits ≠ []) (ascii : ∀ c ∈ digits, c.isDigit = true) :
      Spelling digits digits
  | named {authority system version digits : List Char}
      (authorized : authority = [] ∨ InAnyCase "urn:ogc:def:crs:".toList authority)
      (word : InAnyCase "epsg:".toList system)
      (versioned : version = [] ∨ IsVersion version)
      (nonempty : digits ≠ []) (decimal : ∀ c ∈ digits, Text.isDecimalDigit c = true) :
      Spelling (authority ++ (system ++ (version ++ digits))) digits

/-- A spelling with white space around it. -/
def Spells (code digits : List Char) : Prop :=
  ∃ before text after, code = before ++ text ++ after ∧ Spelling text digits ∧
    (∀ c ∈ before, Text.isBlank c = true) ∧ ∀ c ∈ after, Text.isBlank c = true

theorem toNat_foldCase (c : Char) : (foldCase c).toNat =
    if c.toNat = 383 then 115
    else if 65 ≤ c.toNat ∧ c.toNat ≤ 90 then c.toNat + 32 else c.toNat := by
  rw [foldCase, apply_ite Char.toNat, Text.toNat_toLower]
  simp only [← Char.toNat_inj]
  rfl

theorem foldCase_eq_iff {c w : Char} (plain : foldCase w = w) :
    foldCase c = w ↔ c = w ∨ c = w.toUpper ∨ w = 's' ∧ c = 'ſ' := by
  -- As numbers: a letter and its capital are 32 apart, and the long s is neither.
  have short : 's'.toNat = 115 := rfl
  have long : 'ſ'.toNat = 383 := rfl
  simp only [← Char.toNat_inj, toNat_foldCase, Text.toNat_toUpper, short, long] at plain ⊢
  split_ifs at plain ⊢ <;> omega

theorem inAnyCase_iff {word text : List Char} (plain : word.map foldCase = word) :
    InAnyCase word text ↔ text.map foldCase = word := by
  induction word generalizing text with
  | nil => rw [InAnyCase, List.forall₂_nil_left_iff, List.map_eq_nil_iff]
  | cons w word ih =>
      obtain ⟨first, others⟩ := List.cons.inj plain
      cases text with
      | nil =>
          rw [InAnyCase, List.forall₂_nil_right_iff]
          exact ⟨nofun, nofun⟩
      | cons c text =>
          rw [InAnyCase, List.forall₂_cons, List.map_cons, List.cons_eq_cons,
            foldCase_eq_iff first, ← ih others, InAnyCase]

theorem authority_plain :
    "urn:ogc:def:crs:".toList.map foldCase = "urn:ogc:def:crs:".toList := rfl

theorem system_plain : "epsg:".toList.map foldCase = "epsg:".toList := rfl

theorem afterWord?_eq_some_iff {word text rest : List Char}
    (plain : word.map foldCase = word) :
    afterWord? word text = some rest ↔ ∃ start, InAnyCase word start ∧ text = start ++ rest := by
  rw [afterWord?]
  constructor
  · intro found
    split at found
    · rename_i begins
      cases found
      exact ⟨_, (inAnyCase_iff plain).mpr begins, (List.take_append_drop _ _).symm⟩
    · cases found
  · rintro ⟨start, begins, rfl⟩
    rw [List.Forall₂.length_eq begins, List.take_left, List.drop_left,
      if_pos ((inAnyCase_iff plain).mp begins)]

theorem afterWord?_authority_of_system {start : List Char}
    (begins : InAnyCase "epsg:".toList start) (rest : List Char) :
    afterWord? "urn:ogc:def:crs:".toList (start ++ rest) = none := by
  rw [Option.eq_none_iff_forall_ne_some]
  intro after found
  obtain ⟨other, authorized, same⟩ := (afterWord?_eq_some_iff authority_plain).mp found
  have folded := congrArg (List.map foldCase) same
  rw [List.map_append, List.map_append, (inAnyCase_iff system_plain).mp begins,
    (inAnyCase_iff authority_plain).mp authorized] at folded
  exact absurd (List.cons.inj folded).1 (by decide)

theorem foldCase_of_isBlank {c : Char} (blank : Text.isBlank c = true) : foldCase c = c := by
  simp only [Text.isBlank, Bool.or_eq_true, Bool.and_eq_true, decide_eq_true_iff, beq_iff_eq]
    at blank
  rw [← Char.toNat_inj, toNat_foldCase, if_neg (by omega), if_neg (by omega)]

/-- A blank is not folded, so it is in no spelling of a word that has none. -/
theorem isBlank_of_inAnyCase {word text : List Char}
    (plain : word.map foldCase = word) (solid : word.any Text.isBlank = false)
    (begins : InAnyCase word text) : ∀ c ∈ text, Text.isBlank c = false := by
  refine fun c inside => Bool.eq_false_iff.mpr fun blank => ?_
  have folded : foldCase c = c := foldCase_of_isBlank blank
  have listed : foldCase c ∈ word := by
    rw [← (inAnyCase_iff plain).mp begins]
    exact List.mem_map_of_mem inside
  exact List.any_eq_false.mp solid c (folded ▸ listed) blank

theorem colon_mem_of_inAnyCase {word text : List Char} (plain : word.map foldCase = word)
    (closed : word.contains ':' = true) (begins : InAnyCase word text) : ':' ∈ text := by
  have folded : ':' ∈ text.map foldCase := by
    rwa [(inAnyCase_iff plain).mp begins, ← List.contains_iff_mem]
  obtain ⟨c, inside, same⟩ := List.mem_map.mp folded
  obtain rfl | rfl | ⟨other, _⟩ := (foldCase_eq_iff rfl).mp same
  · exact inside
  · exact inside
  · exact absurd other (by decide)

theorem exists_authority (text : List Char) : ∃ authority,
    (authority = [] ∨ InAnyCase "urn:ogc:def:crs:".toList authority) ∧
      text = authority ++ (afterWord? "urn:ogc:def:crs:".toList text).getD text := by
  cases found : afterWord? "urn:ogc:def:crs:".toList text with
  | none => exact ⟨[], .inl rfl, rfl⟩
  | some rest =>
      obtain ⟨authority, begins, same⟩ := (afterWord?_eq_some_iff authority_plain).mp found
      exact ⟨authority, .inr begins, same⟩

theorem getD_afterAuthority {authority system rest : List Char}
    (authorized : authority = [] ∨ InAnyCase "urn:ogc:def:crs:".toList authority)
    (word : InAnyCase "epsg:".toList system) :
    (afterWord? "urn:ogc:def:crs:".toList (authority ++ (system ++ rest))).getD
      (authority ++ (system ++ rest)) = system ++ rest := by
  obtain rfl | begins := authorized
  · rw [List.nil_append, afterWord?_authority_of_system word, Option.getD_none]
  · rw [(afterWord?_eq_some_iff authority_plain).mpr ⟨_, begins, rfl⟩, Option.getD_some]

theorem exists_version (text : List Char) : ∃ version,
    (version = [] ∨ IsVersion version) ∧ text = version ++ afterVersion text := by
  rw [afterVersion]
  split
  · rename_i rest ended
    refine ⟨text.takeWhile isVersionChar ++ [':'], .inr ⟨_, fun c inside => ?_, rfl⟩, ?_⟩
    · have part := List.mem_takeWhile_imp inside
      rwa [isVersionChar, Bool.or_eq_true, beq_iff_eq] at part
    · rw [List.append_assoc, List.singleton_append, ← ended, List.takeWhile_append_dropWhile]
  · exact ⟨[], .inl rfl, rfl⟩

theorem afterVersion_append {version digits : List Char}
    (versioned : version = [] ∨ IsVersion version)
    (decimal : ∀ c ∈ digits, Text.isDecimalDigit c = true) :
    afterVersion (version ++ digits) = digits := by
  obtain rfl | ⟨run, parts, rfl⟩ := versioned
  · rw [List.nil_append, afterVersion]
    split
    · rename_i rest ended
      have colon : ':' ∈ digits := by
        refine (List.dropWhile_sublist isVersionChar).mem ?_
        rw [ended]
        exact List.mem_cons_self
      exact absurd rfl (Text.ne_colon_of_isDecimalDigit (decimal ':' colon))
    · rfl
  · have dropped : (run ++ ([':'] ++ digits)).dropWhile isVersionChar = ':' :: digits := by
      rw [List.dropWhile_append_of_pos]
      · rfl
      · intro c inside
        rw [isVersionChar, Bool.or_eq_true, beq_iff_eq]
        exact parts c inside
    rw [afterVersion, List.append_assoc, dropped]
    rfl

theorem Spelling.ne_nil {text digits : List Char} (spelled : Spelling text digits) : text ≠ [] := by
  cases spelled with
  | bare nonempty _ => exact nonempty
  | named _ _ _ nonempty _ => simp [nonempty]

theorem Spelling.isBlank_eq_false {text digits : List Char} (spelled : Spelling text digits) :
    ∀ c ∈ text, Text.isBlank c = false := by
  have digit : ∀ c : Char, c.isDigit = true → Text.isBlank c = false := fun c ascii =>
    Text.isBlank_of_isDecimalDigit (Text.isDecimalDigit_of_isDigit ascii)
  cases spelled with
  | bare _ ascii => exact fun c inside => digit c (ascii c inside)
  | named authorized word versioned _ decimal =>
      intro c inside
      rw [List.mem_append, List.mem_append, List.mem_append] at inside
      obtain inside | inside | inside | inside := inside
      · obtain rfl | begins := authorized
        · cases inside
        · exact isBlank_of_inAnyCase authority_plain rfl begins c inside
      · exact isBlank_of_inAnyCase system_plain rfl word c inside
      · obtain rfl | ⟨run, parts, rfl⟩ := versioned
        · cases inside
        · obtain inside | closing := List.mem_append.mp inside
          · obtain ascii | rfl := parts c inside
            · exact digit c ascii
            · rfl
          · rw [List.mem_singleton.mp closing]
            rfl
      · exact Text.isBlank_of_isDecimalDigit (decimal c inside)

theorem isEmpty_not_and_all_iff {text : List Char} {p : Char → Bool} :
    (!text.isEmpty && text.all p) = true ↔ text ≠ [] ∧ ∀ c ∈ text, p c = true := by
  rw [Bool.and_eq_true, Bool.not_eq_true', List.isEmpty_eq_false_iff, List.all_eq_true]

theorem spelling_of_codeDigits? {code digits : List Char} (read : codeDigits? code = some digits) :
    Spelling (Text.trim code) digits := by
  simp only [codeDigits?, isEmpty_not_and_all_iff] at read
  split at read
  · rename_i plain
    cases read
    exact .bare plain.1 plain.2
  · obtain ⟨rest, found, ended⟩ := Option.bind_eq_some_iff.mp read
    split at ended
    · rename_i number
      cases ended
      obtain ⟨authority, authorized, whole⟩ := exists_authority (Text.trim code)
      obtain ⟨system, word, named⟩ := (afterWord?_eq_some_iff system_plain).mp found
      obtain ⟨version, versioned, numbered⟩ := exists_version rest
      generalize afterVersion rest = digits at numbered number ⊢
      rw [whole, named, numbered]
      exact .named authorized word versioned number.1 number.2
    · cases ended

theorem codeDigits?_of_spelling {code digits : List Char}
    (spelled : Spelling (Text.trim code) digits) : codeDigits? code = some digits := by
  simp only [codeDigits?, isEmpty_not_and_all_iff]
  generalize Text.trim code = text at spelled
  cases spelled with
  | bare nonempty ascii => rw [if_pos ⟨nonempty, ascii⟩]
  | @named authority system version _ authorized word versioned nonempty decimal =>
      have colon : ':' ∈ system := colon_mem_of_inAnyCase system_plain rfl word
      have lettered : ¬ ∀ c ∈ authority ++ (system ++ (version ++ digits)), c.isDigit = true := by
        intro ascii
        have inside := List.mem_append_right authority
          (List.mem_append_left (version ++ digits) colon)
        exact absurd (ascii ':' inside) (by decide)
      rw [if_neg fun plain => lettered plain.2, getD_afterAuthority authorized word,
        (afterWord?_eq_some_iff system_plain).mpr ⟨system, word, rfl⟩, Option.bind_some,
        afterVersion_append versioned decimal, if_pos ⟨nonempty, decimal⟩]

theorem codeDigits?_eq_some_iff {code digits : List Char} :
    codeDigits? code = some digits ↔ Spells code digits := by
  constructor
  · intro read
    obtain ⟨before, after, whole, blankBefore, blankAfter⟩ := Text.exists_trim code
    exact ⟨before, _, after, whole, spelling_of_codeDigits? read, blankBefore, blankAfter⟩
  · rintro ⟨before, text, after, rfl, spelled, blankBefore, blankAfter⟩
    refine codeDigits?_of_spelling ?_
    rwa [Text.trim_append blankBefore spelled.isBlank_eq_false spelled.ne_nil blankAfter]

theorem codeDigits?_eq_none_iff {code : List Char} :
    codeDigits? code = none ↔ ¬ ∃ digits, Spells code digits := by
  simp only [← codeDigits?_eq_some_iff, ← Option.isSome_iff_exists, Option.not_isSome_iff_eq_none]

section Reading
variable {code : String} {digits : List Char}

theorem epsgOfCode_of_number (spelled : Spells code.toList digits)
    (ascii : ∀ c ∈ digits, c.isDigit = true) (small : Nat.ofDigitChars 10 digits 0 ≤ 65535) :
    epsgOfCode code = .ok (Nat.ofDigitChars 10 digits 0) := by
  have given : (digits.all Char.isDigit &&
      decide (Decimal.digitsValue digits ≤ maxEpsg)) = true := by
    rw [Bool.and_eq_true, List.all_eq_true, decide_eq_true_iff]
    exact ⟨ascii, small⟩
  simp only [epsgOfCode, codeDigits?_eq_some_iff.mpr spelled]
  exact if_pos given

theorem epsgOfCode_of_beyond (spelled : Spells code.toList digits)
    (beyond : (∃ c ∈ digits, c.isDigit = false) ∨ 65535 < Nat.ofDigitChars 10 digits 0) :
    epsgOfCode code = .error (.codeOutOfRange code) := by
  have refused : ¬ (digits.all Char.isDigit &&
      decide (Decimal.digitsValue digits ≤ maxEpsg)) = true := by
    rw [Bool.and_eq_true, List.all_eq_true, decide_eq_true_iff]
    rintro ⟨ascii, small⟩
    obtain ⟨c, inside, other⟩ | large := beyond
    · exact Bool.false_ne_true (other.symm.trans (ascii c inside))
    · exact Nat.not_le.mpr large small
  simp only [epsgOfCode, codeDigits?_eq_some_iff.mpr spelled]
  exact if_neg refused

theorem epsgOfCode_of_unspelled (unspelled : ¬ ∃ digits, Spells code.toList digits) :
    epsgOfCode code = .error (.unsupportedCode code) := by
  simp only [epsgOfCode, codeDigits?_eq_none_iff.mpr unspelled]

theorem number_or_beyond_or_unspelled (code : String) :
    (∃ digits, Spells code.toList digits ∧ (∀ c ∈ digits, c.isDigit = true) ∧
      Nat.ofDigitChars 10 digits 0 ≤ 65535) ∨
    (∃ digits, Spells code.toList digits ∧
      ((∃ c ∈ digits, c.isDigit = false) ∨ 65535 < Nat.ofDigitChars 10 digits 0)) ∨
    ¬ ∃ digits, Spells code.toList digits := by
  by_cases spelled : ∃ digits, Spells code.toList digits
  · obtain ⟨digits, spelled⟩ := spelled
    by_cases number : (∀ c ∈ digits, c.isDigit = true) ∧ Nat.ofDigitChars 10 digits 0 ≤ 65535
    · exact .inl ⟨digits, spelled, number⟩
    · refine .inr (.inl ⟨digits, spelled, ?_⟩)
      simpa only [not_and_or, not_forall, Bool.not_eq_true, exists_prop, not_le] using number
  · exact .inr (.inr spelled)

end Reading

theorem spells_code (system : ReferenceSystem) :
    Spells system.code.toList (Nat.toDigits 10 system.epsg) := by
  have written : system.code.toList = "EPSG:".toList ++ Nat.toDigits 10 system.epsg := by
    rw [ReferenceSystem.code, epsgCode, String.toList_append, Nat.toString_eq_repr,
      Nat.toList_repr]
  have word : InAnyCase "epsg:".toList "EPSG:".toList := (inAnyCase_iff system_plain).mpr rfl
  refine ⟨[], system.code.toList, [], (List.append_nil _).symm, ?_, nofun, nofun⟩
  rw [written]
  exact .named (.inl rfl) word (.inl rfl) Nat.toDigits_ne_nil fun c inside =>
    Text.isDecimalDigit_of_isDigit (Nat.isDigit_of_mem_toDigits (by decide) (by decide) inside)

/-- Every text is a spelling with the digits of a number that the registry gives out, and gives that
number; or a spelling with other digits, and out of range; or no spelling, and not supported. The
code that a system writes gives the number of that system. -/
theorem epsgOfCode_reads_spellings :
    (∀ code n, epsgOfCode code = .ok n ↔ ∃ digits, Spells code.toList digits ∧
      (∀ c ∈ digits, c.isDigit = true) ∧ Nat.ofDigitChars 10 digits 0 = n ∧ n ≤ 65535) ∧
    (∀ code cause, epsgOfCode code = .error cause ↔
      (cause = .codeOutOfRange code ∧ ∃ digits, Spells code.toList digits ∧
        ((∃ c ∈ digits, c.isDigit = false) ∨ 65535 < Nat.ofDigitChars 10 digits 0)) ∨
      (cause = .unsupportedCode code ∧ ¬ ∃ digits, Spells code.toList digits)) ∧
    ∀ system : ReferenceSystem, system.epsg ≤ 65535 →
      epsgOfCode system.code = .ok system.epsg := by
  refine ⟨fun code n => ⟨fun read => ?_, ?_⟩, fun code cause => ⟨fun read => ?_, ?_⟩,
    fun system small => ?_⟩
  · obtain ⟨digits, spelled, ascii, small⟩ | ⟨digits, spelled, beyond⟩ | unspelled :=
      number_or_beyond_or_unspelled code
    · cases (epsgOfCode_of_number spelled ascii small).symm.trans read
      exact ⟨digits, spelled, ascii, rfl, small⟩
    · cases (epsgOfCode_of_beyond spelled beyond).symm.trans read
    · cases (epsgOfCode_of_unspelled unspelled).symm.trans read
  · rintro ⟨digits, spelled, ascii, rfl, small⟩
    exact epsgOfCode_of_number spelled ascii small
  · obtain ⟨digits, spelled, ascii, small⟩ | ⟨digits, spelled, beyond⟩ | unspelled :=
      number_or_beyond_or_unspelled code
    · cases (epsgOfCode_of_number spelled ascii small).symm.trans read
    · cases (epsgOfCode_of_beyond spelled beyond).symm.trans read
      exact .inl ⟨rfl, digits, spelled, beyond⟩
    · cases (epsgOfCode_of_unspelled unspelled).symm.trans read
      exact .inr ⟨rfl, unspelled⟩
  · rintro (⟨rfl, digits, spelled, beyond⟩ | ⟨rfl, unspelled⟩)
    · exact epsgOfCode_of_beyond spelled beyond
    · exact epsgOfCode_of_unspelled unspelled
  · have value : Nat.ofDigitChars 10 (Nat.toDigits 10 system.epsg) 0 = system.epsg :=
      Nat.ofDigitChars_toDigits (by decide) (by decide)
    have read := epsgOfCode_of_number (spells_code system)
      (fun c inside => Nat.isDigit_of_mem_toDigits (by decide) (by decide) inside)
      (value.symm ▸ small)
    rwa [value] at read

/-- White space around, letters of both cases and a long s, a version, zeros before the number. -/
theorem epsgOfCode_reads_spellings_version :
    epsgOfCode " uRn:ogc:def:CRS:EPſG:6.6:0004326\u2003" = .ok 4326 ∧
      epsgOfCode "65536" = .error (.codeOutOfRange "65536") ∧
      epsgOfCode (⟨32733, .projected (.utm 33 .south .wgs84),
          "+proj=utm +zone=33 +south +datum=WGS84 +units=m +no_defs"⟩ : ReferenceSystem).code =
        .ok 32733 := by
  have named : Spelling "uRn:ogc:def:CRS:EPſG:6.6:0004326".toList "0004326".toList :=
    @Spelling.named "uRn:ogc:def:CRS:".toList "EPſG:".toList "6.6:".toList "0004326".toList
      (.inr ((inAnyCase_iff authority_plain).mpr rfl)) ((inAnyCase_iff system_plain).mpr rfl)
      (.inr ⟨"6.6".toList, by simp, rfl⟩) (by decide) (List.all_eq_true.mp rfl)
  have bare : Spells "65536".toList "65536".toList :=
    ⟨[], "65536".toList, [], rfl, .bare (by decide) (List.all_eq_true.mp rfl), nofun, nofun⟩
  obtain ⟨numbers, errors, own⟩ := epsgOfCode_reads_spellings
  refine ⟨(numbers _ _).mpr ⟨_, ⟨[' '], _, ['\u2003'], rfl, named, ?_, ?_⟩, ?_, rfl, ?_⟩,
    (errors _ _).mpr (.inl ⟨rfl, _, bare, .inr ?_⟩), own _ ?_⟩
  · exact List.all_eq_true.mp rfl
  · exact List.all_eq_true.mp rfl
  · exact List.all_eq_true.mp rfl
  · decide
  · decide
  · decide

end Crs
end RasterMosaic
