import RasterMosaic.Proofs.Sample.Widths
import RasterMosaic.Scalar

/-!
Division of machine numbers by one. The quotient has as many bits as the number divided and one
more, and rounding takes them off again, so nothing is lost and every number comes back.
-/

namespace RasterMosaic

open Float.Model
open Float.Model.UnpackedFloat hiding pack unpack

theorem shiftRight_exact (m shift : Nat) :
    ExtendedMantissa.ofMantissaAndAccuracy (m <<< shift) .exact >>> shift =
      ⟨m, false, false⟩ := by
  change Nat.repeat ExtendedMantissa.shiftRightOne shift ⟨m <<< shift, false, false⟩ = _
  induction shift generalizing m with
  | zero => rfl
  | succ shift ih =>
      have half : m <<< (shift + 1) = (m <<< 1) <<< shift := by
        rw [← Nat.shiftLeft_add, Nat.add_comm]
      rw [Nat.repeat, half, ih]
      simp [ExtendedMantissa.shiftRightOne, Nat.shiftLeft_eq]

theorem totalExponent_shiftLeft {m : Nat} (pos : 0 < m) (e : Int) (shift : Nat) :
    totalExponent (m <<< shift) (e - shift) = totalExponent m e := by
  simp only [totalExponent, Sample.log2_shiftLeft pos]
  omega

/-- Shifting to the exponent of the format takes off what bits there are too many. -/
theorem shiftToTargetExponent_shiftLeft {format : Format} {m : Nat} {e : Int} (pos : 0 < m)
    (canonical : format.targetExponent (totalExponent m e) = e) (shift : Nat) :
    shiftToTargetExponent format (m <<< shift) (e - shift) .exact = (⟨m, false, false⟩, e) := by
  have amount : (e - (e - (shift : Int))).toNat = shift := by omega
  simp only [shiftToTargetExponent, shiftToExponent, totalExponent_shiftLeft pos, canonical, amount,
    shiftRight_exact, Int.sub_add_cancel]

/-- Rounding leaves a number as it is, however many zero bits were added to it. -/
theorem roundWithAccuracy_shiftLeft {format : Format} {m : Nat} {e : Int} (pos : 0 < m)
    (canonical : format.targetExponent (totalExponent m e) = e) (sign : Sign) (shift : Nat) :
    roundWithAccuracy format sign (m <<< shift) (e - shift) .exact = .finite sign m e pos := by
  have again := shiftToTargetExponent_shiftLeft pos canonical 0
  rw [Nat.shiftLeft_zero, Int.natCast_zero, Int.sub_zero] at again
  have rounded : (⟨m, false, false⟩ : ExtendedMantissa).roundedMantissa = m := rfl
  simp only [roundWithAccuracy, shiftToTargetExponent_shiftLeft pos canonical, rounded, again]
  rw [dif_neg pos.ne']

/-- Numbers that are unpacked have the exponent that the format has for their size. -/
theorem targetExponent_of_unpack {format : Format} {b : BitVec format.numBits} {sign : Sign}
    {m : Nat} {e : Int} {pos : 0 < m}
    (h : UnpackedFloat.unpack format b = .finite sign m e pos) :
    format.targetExponent (totalExponent m e) = e := by
  have range := Sample.unpack_range h
  simp only [Format.targetExponent, totalExponent, Format.mantissaBits]
  omega

/-- Divided by one, a number has zeros after its own bits. -/
theorem divCore_one {format : Format} {m : Nat} {e : Int}
    (bits : m.log2 ≤ format.mantissaBitsWithoutImplicit) (least : format.minExponent ≤ e) :
    ∃ shift : Nat, divCore format m e (2 ^ format.mantissaBitsWithoutImplicit)
        (-format.mantissaBitsWithoutImplicit) = (m <<< shift, e - shift, .exact) := by
  -- The exponent that the quotient is worked out at.
  let target := min (e - -(format.mantissaBitsWithoutImplicit : Int)) (format.targetExponent
    (totalExponent m e - totalExponent (2 ^ format.mantissaBitsWithoutImplicit)
      (-format.mantissaBitsWithoutImplicit)))
  have below : target ≤ e := by
    simp only [target, Format.targetExponent, totalExponent, Format.mantissaBits,
      Nat.log2_two_pow]
    omega
  obtain ⟨shift, same⟩ := Int.eq_ofNat_of_zero_le (Int.sub_nonneg_of_le below)
  have amount : (e - -(format.mantissaBitsWithoutImplicit : Int) - target).toNat =
      shift + format.mantissaBitsWithoutImplicit := by omega
  have exponent : target = e - shift := by omega
  have digits : m <<< (shift + format.mantissaBitsWithoutImplicit) =
      m <<< shift * 2 ^ format.mantissaBitsWithoutImplicit := by
    rw [Nat.shiftLeft_add, Nat.shiftLeft_eq (m <<< shift)]
  refine ⟨shift, ?_⟩
  change (m <<< (e - -(format.mantissaBitsWithoutImplicit : Int) - target).toNat / _, target,
    accuracyOfFraction (m <<< (e - -(format.mantissaBitsWithoutImplicit : Int) - target).toNat % _)
      _) = _
  rw [amount, digits, Nat.mul_div_cancel _ (Nat.two_pow_pos _), Nat.mul_mod_left, exponent]
  rfl

theorem unpack_one : (Float.ofNat 1).toModel.unpack =
    .finite .positive (2 ^ 52) (-52) (Nat.two_pow_pos 52) := rfl

theorem div_one_unpacked {x : Float.Model} :
    UnpackedFloat.div .binary64 x.unpack (.finite .positive (2 ^ 52) (-52) (Nat.two_pow_pos 52)) =
      x.unpack := by
  cases h : x.unpack with
  | notANumber => rfl
  | infinity sign | zero sign => cases sign <;> rfl
  | finite sign m e pos =>
      obtain ⟨bits, least, _⟩ := Sample.unpack_range h
      obtain ⟨shift, divided⟩ := divCore_one bits least
      have divided : divCore .binary64 m e (2 ^ 52) (-52) = (m <<< shift, e - shift, .exact) :=
        divided
      have unsigned : sign / Sign.positive = sign := by cases sign <;> rfl
      simp only [UnpackedFloat.div, divided, unsigned]
      exact roundWithAccuracy_shiftLeft pos (targetExponent_of_unpack h) sign shift

/-- A machine number divided by one is itself. -/
theorem float_div_one (x : Float) : x / ((1 : Nat) : Float) = x := by
  have back : Float.ofModel (.pack x.toModel.unpack) = x := Float.ofBits_toBits x
  change Float.ofModel (.pack (UnpackedFloat.div .binary64 x.toModel.unpack
    (Float.ofNat 1).toModel.unpack)) = x
  rw [unpack_one, div_one_unpacked, back]

end RasterMosaic
