import RasterMosaic.Proofs.Scalar.Division

/-!
What rounding to the wide format gives. A result that has all the bits of the format, or more,
keeps as many as the format has and stays finite, and so counts are finite numbers. Rounding never
makes what is no number: a sum is a number if one side is and the other is finite, and a quotient
if it divides a number by a count.
-/

namespace RasterMosaic

open Float.Model
open Float.Model.UnpackedFloat hiding pack unpack

theorem mantissa_shiftRight (x : ExtendedMantissa) (shift : Nat) :
    (x >>> shift).mantissa = x.mantissa >>> shift := by
  induction shift with
  | zero => rfl
  | succ shift ih =>
      have last : (x >>> (shift + 1)).mantissa = (x >>> shift).mantissa / 2 := rfl
      rw [last, ih, Nat.shiftRight_succ]

theorem mantissa_ofMantissaAndAccuracy (m : Nat) (accuracy : Accuracy) :
    (ExtendedMantissa.ofMantissaAndAccuracy m accuracy).mantissa = m := by
  cases accuracy with
  | exact => rfl
  | inexact half => cases half <;> rfl

theorem roundedMantissa_cases (x : ExtendedMantissa) :
    x.roundedMantissa = x.mantissa ∨ x.roundedMantissa = x.mantissa + 1 := by
  obtain ⟨m, half, rest⟩ := x
  cases half with
  | false => cases rest <;> exact .inl rfl
  | true =>
      cases rest with
      | false =>
          -- A tie goes to the even neighbour.
          change m + m % 2 = m ∨ m + m % 2 = m + 1
          omega
      | true => exact .inr rfl

/-- The significand is cut to the format twice, since rounding may have carried. -/
theorem roundWithAccuracy_eq (format : Format) (sign : Sign) (m : Nat) (e : Int)
    (accuracy : Accuracy) :
    roundWithAccuracy format sign m e accuracy =
      let first := shiftToTargetExponent format m e accuracy
      let second := shiftToTargetExponent format first.1.roundedMantissa first.2 .exact
      if h : second.1.mantissa = 0 then .zero sign
      else .finite sign second.1.mantissa second.2 (Nat.pos_of_ne_zero h) := rfl

theorem ne_zero_of_bits {m : Nat} (bits : m.log2 = 52) : m ≠ 0 := by
  rintro rfl
  rw [Nat.log2_zero] at bits
  cases bits

/-- Rounding can carry into one more bit. -/
theorem log2_roundedMantissa {x : ExtendedMantissa} (bits : x.mantissa.log2 = 52) :
    x.roundedMantissa.log2 = 52 ∨ x.roundedMantissa.log2 = 53 := by
  obtain ⟨lower, upper⟩ := (Nat.log2_eq_iff (ne_zero_of_bits bits)).mp bits
  obtain same | next := roundedMantissa_cases x
  · exact .inl (same ▸ bits)
  · rw [next, Nat.log2_eq_iff (Nat.succ_ne_zero _), Nat.log2_eq_iff (Nat.succ_ne_zero _)]
    omega

theorem log2_shiftRight (m shift : Nat) : (m >>> shift).log2 = m.log2 - shift := by
  induction shift with
  | zero => rfl
  | succ shift ih =>
      rw [Nat.shiftRight_succ, Nat.log2_eq_log_two, Nat.log_div_base, ← Nat.log2_eq_log_two, ih,
        Nat.sub_sub]

theorem log2_mono {m n : Nat} (h : m ≤ n) : m.log2 ≤ n.log2 := by
  rw [Nat.log2_eq_log_two, Nat.log2_eq_log_two]
  exact Nat.log_mono_right h

/-- A positive number of the wide format that uses all of its bits. -/
def IsFull (u : UnpackedFloat) : Prop :=
  ∃ m e pos, u = .finite .positive m e pos ∧ m.log2 = 52 ∧ -1074 ≤ e ∧ e ≤ 971

theorem IsFull.unpack_pack {u : UnpackedFloat} (full : IsFull u) :
    (Float.ofModel (.pack u)).toModel.unpack = u := by
  obtain ⟨m, e, pos, rfl, bits, least, most⟩ := full
  exact Sample.unpack_pack_wide bits least most

section Full
variable {m : Nat} {e : Int} (bits : 52 ≤ m.log2) (least : -1022 ≤ m.log2 + e)

include bits least

theorem shiftToTargetExponent_full (accuracy : Accuracy) :
    (shiftToTargetExponent .binary64 m e accuracy).1.mantissa.log2 = 52 ∧
      (shiftToTargetExponent .binary64 m e accuracy).2 = m.log2 + e - 52 := by
  have minimum : Format.binary64.minExponent = -1074 := by decide
  have target : Format.binary64.targetExponent (totalExponent m e) = m.log2 + e - 52 := by
    simp only [Format.targetExponent, totalExponent, Format.mantissaBits, minimum]
    omega
  simp only [shiftToTargetExponent, shiftToExponent, target, mantissa_shiftRight,
    mantissa_ofMantissaAndAccuracy, log2_shiftRight]
  omega

/-- A result with all bits of the format is finite, and rounding moves its exponent by no more
than one. -/
theorem isFull_roundWithAccuracy (most : m.log2 + e ≤ 1022) (accuracy : Accuracy) :
    IsFull (roundWithAccuracy .binary64 .positive m e accuracy) := by
  obtain ⟨bits₁, exponent₁⟩ := shiftToTargetExponent_full bits least accuracy
  rw [roundWithAccuracy_eq]
  generalize shiftToTargetExponent .binary64 m e accuracy = first at bits₁ exponent₁ ⊢
  have carried : first.1.roundedMantissa.log2 = 52 ∨ first.1.roundedMantissa.log2 = 53 :=
    log2_roundedMantissa bits₁
  obtain ⟨bits₂, exponent₂⟩ :=
    @shiftToTargetExponent_full first.1.roundedMantissa first.2 (by omega) (by omega) .exact
  have positive := ne_zero_of_bits bits₂
  rw [dif_neg positive]
  exact ⟨_, _, Nat.pos_of_ne_zero positive, rfl, bits₂, by omega, by omega⟩

end Full

theorem isFull_round {n : Nat} (positive : 0 < n) (short : n.log2 ≤ 52) :
    IsFull (UnpackedFloat.round .binary64 .positive n 0) := by
  have minimum : Format.binary64.minExponent = -1074 := by decide
  have target : Format.binary64.targetExponent (totalExponent n 0) = n.log2 - 52 := by
    simp only [Format.targetExponent, totalExponent, Format.mantissaBits, minimum]
    omega
  have bits := Sample.log2_shiftLeft positive (52 - n.log2)
  have amount : (0 - ((n.log2 : Int) - 52)).toNat = 52 - n.log2 := by omega
  simp only [UnpackedFloat.round, decreaseExponent, target, amount]
  exact isFull_roundWithAccuracy (by omega) (by omega) (by omega) .exact

theorem mul_one_unpacked {x : Float.Model} :
    UnpackedFloat.mul .binary64 x.unpack (.finite .positive (2 ^ 52) (-52) (Nat.two_pow_pos 52)) =
      x.unpack := by
  cases h : x.unpack with
  | notANumber => rfl
  | infinity sign | zero sign => cases sign <;> rfl
  | finite sign m e pos =>
      have unsigned : sign * Sign.positive = sign := by cases sign <;> rfl
      have digits : m * 2 ^ 52 = m <<< 52 := (Nat.shiftLeft_eq m 52).symm
      simp only [UnpackedFloat.mul, unsigned, digits]
      exact roundWithAccuracy_shiftLeft pos (targetExponent_of_unpack h) sign 52

theorem float_mul_one (x : Float) : x * Float.ofBits 0x3FF0000000000000 = x := by
  have back : Float.ofModel (.pack x.toModel.unpack) = x := Float.ofBits_toBits x
  change Float.ofModel (.pack (UnpackedFloat.mul .binary64 x.toModel.unpack
    (Float.ofBits 0x3FF0000000000000).toModel.unpack)) = x
  have one : (Float.ofBits 0x3FF0000000000000).toModel.unpack =
    .finite .positive (2 ^ 52) (-52) (Nat.two_pow_pos 52) := rfl
  rw [one, mul_one_unpacked, back]

section OfNat
variable {n : Nat} (positive : 0 < n)

include positive

/-- A natural number that is a significand is converted by way of the machine word it is. -/
theorem ofNat_of_short (short : n < 2 ^ 53) :
    Float.ofNat n = .ofModel (.pack (UnpackedFloat.round .binary64 .positive n 0)) := by
  have word : n.toUInt64.toNat = n := Nat.mod_eq_of_lt (by omega)
  have scaled : Float.ofNat n = n.toUInt64.toFloat * Float.ofBits 0x3FF0000000000000 := by
    change Float.ofScientific n false 0 = _
    rw [Float.ofScientific, dif_pos ⟨short, by decide⟩]
    rfl
  have order : compare (n : Int) 0 = .gt := compare_gt_iff_gt.mpr (by omega)
  rw [scaled, float_mul_one]
  change Float.ofModel (.pack (normalize .binary64 (n.toUInt64.toNat : Int) 0 .positive)) = _
  rw [word, UnpackedFloat.normalize, order]
  rfl

theorem ofNat_of_long (long : ¬ n < 2 ^ 53) :
    Float.ofNat n =
      .ofModel (.pack (roundWithAccuracy .binary64 .positive (n <<< 53 * 1) (-53) .exact)) := by
  have range : (0 : Int) ≤ 2 ^ Format.binary64.exponentBits := by decide
  change Float.ofScientific n false 0 = _
  rw [Float.ofScientific, dif_neg fun both => long both.1]
  change Float.ofModel (.pack (UnpackedFloat.ofScientific .binary64 n 0)) = _
  rw [UnpackedFloat.ofScientific, dif_neg positive.ne', if_neg (by omega), if_neg (by omega),
    if_pos (Int.le_refl 0)]
  rfl

/-- A count is a finite number and not zero. -/
theorem isFull_ofNat (digits : n.log2 ≤ 1022) : IsFull (Float.ofNat n).toModel.unpack := by
  by_cases short : n < 2 ^ 53
  · have full := isFull_round positive (Nat.le_of_lt_succ ((Nat.log2_lt positive.ne').mpr short))
    rw [ofNat_of_short positive short, full.unpack_pack]
    exact full
  · have long : 53 ≤ n.log2 := (Nat.le_log2 positive.ne').mpr (Nat.not_lt.mp short)
    have bits : (n <<< 53 * 1).log2 = n.log2 + 53 := by
      rw [Nat.mul_one, Sample.log2_shiftLeft positive]
    have full := @isFull_roundWithAccuracy (n <<< 53 * 1) (-53) (by omega) (by omega) (by omega)
      .exact
    rw [ofNat_of_long positive short, full.unpack_pack]
    exact full

end OfNat

section Numbers

theorem roundWithAccuracy_ne_notANumber (format : Format) (sign : Sign) (m : Nat) (e : Int)
    (accuracy : Accuracy) : roundWithAccuracy format sign m e accuracy ≠ .notANumber := by
  rw [roundWithAccuracy_eq]
  dsimp only
  split <;> exact nofun

theorem normalize_ne_notANumber (format : Format) (m e : Int) (sign : Sign) :
    UnpackedFloat.normalize format m e sign ≠ .notANumber := by
  simp only [UnpackedFloat.normalize]
  split
  · exact roundWithAccuracy_ne_notANumber _ _ _ _ _
  · exact nofun
  · exact roundWithAccuracy_ne_notANumber _ _ _ _ _

/-- Only infinities of both signs sum up to no number. -/
theorem add_ne_nan {x y : Float} (number : x ≠ Float.nan) (finite : y.isFinite = true) :
    x + y ≠ Float.nan := by
  have special := Sample.unpack_ne_notANumber number
  change y.toModel.unpack.isFinite = true at finite
  change Float.ofModel (.pack (UnpackedFloat.add .binary64 x.toModel.unpack y.toModel.unpack)) ≠ _
  apply Sample.ofModel_pack_ne_nan_wide
  cases hy : y.toModel.unpack with
  | notANumber | infinity sign =>
      rw [hy] at finite
      cases finite
  | zero sign =>
      cases hx : x.toModel.unpack with
      | notANumber => exact absurd hx special
      | infinity sign => exact nofun
      | zero sign =>
          simp only [UnpackedFloat.add]
          split <;> exact nofun
      | finite sign m e pos => exact nofun
  | finite sign m e pos =>
      cases hx : x.toModel.unpack with
      | notANumber => exact absurd hx special
      | infinity sign | zero sign => exact nofun
      | finite sign m e pos => exact normalize_ne_notANumber _ _ _ _

theorem div_ne_nan {x y : Float} (number : x ≠ Float.nan) (full : IsFull y.toModel.unpack) :
    x / y ≠ Float.nan := by
  have special := Sample.unpack_ne_notANumber number
  obtain ⟨m, e, pos, divisor, _⟩ := full
  change Float.ofModel (.pack (UnpackedFloat.div .binary64 x.toModel.unpack y.toModel.unpack)) ≠ _
  apply Sample.ofModel_pack_ne_nan_wide
  rw [divisor]
  cases dividend : x.toModel.unpack with
  | notANumber => exact absurd dividend special
  | infinity sign | zero sign => exact nofun
  | finite sign m e pos => exact roundWithAccuracy_ne_notANumber _ _ _ _ _

theorem isFinite_widen {v : Float32} (finite : v.isFinite = true) :
    (Sample.widen v).isFinite = true := by
  change v.toModel.unpack.isFinite = true at finite
  change (Sample.widen v).toModel.unpack.isFinite = true
  cases h : v.toModel.unpack with
  | notANumber | infinity sign =>
      rw [h] at finite
      cases finite
  | zero sign =>
      simp only [Sample.widen, h, Sample.unpack_pack_zero]
      rfl
  | finite sign m e pos =>
      rw [Sample.unpack_widen_of_finite h]
      rfl

end Numbers

end RasterMosaic
