import Mathlib
import RasterMosaic.Sample

/-!
Samples between the two widths. Every number of the narrow format is one of the wide format, so
narrowing undoes widening, and neither makes a number of what is none. Equality of samples is not
changed by widening; narrowing can only make more numbers equal. All of Mathlib is imported, since
none of its modules alone brings the facts on `Float` and `Float32` that this rests on.
-/

namespace RasterMosaic
namespace Sample

open Float.Model
open Float.Model.UnpackedFloat hiding pack unpack

theorem toNat_implicit_append {w : Nat} (fraction : BitVec w) :
    (1#1 ++ fraction).toNat = 2 ^ w + fraction.toNat := by
  rw [BitVec.toNat_append, ← Nat.shiftLeft_add_eq_or_of_lt fraction.isLt, Nat.shiftLeft_eq]
  simp

theorem finite_congr {sign : Sign} {m m' : Nat} {e e' : Int} {pos : 0 < m} {pos' : 0 < m'}
    (significand : m = m') (exponent : e = e') :
    UnpackedFloat.finite sign m e pos = .finite sign m' e' pos' := by
  subst significand exponent
  rfl

theorem unpack_pack_model (u : UnpackedFloat) :
    (Float.Model.pack u).unpack = UnpackedFloat.unpack .binary64 (UnpackedFloat.pack .binary64 u) :=
  rfl

theorem unpack_pack_notANumber : (Float.Model.pack .notANumber).unpack = .notANumber := rfl

theorem unpack_pack_infinity (sign : Sign) :
    (Float.Model.pack (.infinity sign)).unpack = .infinity sign := by
  cases sign <;> rfl

theorem unpack_pack_zero (sign : Sign) : (Float.Model.pack (.zero sign)).unpack = .zero sign := by
  cases sign <;> rfl

/-- A number of the wide format whose significand has all of its bits comes back from packing. -/
theorem unpack_pack_wide {sign : Sign} {m : Nat} {e : Int} {pos : 0 < m} (bits : m.log2 = 52)
    (least : -1074 ≤ e) (most : e ≤ 971) :
    (Float.Model.pack (.finite sign m e pos)).unpack = .finite sign m e pos := by
  have bias : Format.binary64.exponentBias = 1023 := by decide
  obtain ⟨lower, upper⟩ := (Nat.log2_eq_iff pos.ne').mp bits
  obtain ⟨biased, same⟩ := Int.eq_ofNat_of_zero_le (by omega : 0 ≤ e + 1075)
  have packed : UnpackedFloat.pack .binary64 (.finite sign m e pos) =
      packComponents .binary64 sign (BitVec.ofNat 11 biased) (BitVec.ofNat 52 m) := by
    have hbiased : (e + ((1023 : Nat) : Int) + ((52 : Nat) : Int)).toNat = biased := by omega
    simp only [UnpackedFloat.pack, bits, bias, hbiased]
    rw [if_neg (by omega), if_pos (by decide)]
  have exponent : (BitVec.ofNat 11 biased).toNat = biased := by
    rw [BitVec.toNat_ofNat]
    omega
  have fraction : (BitVec.ofNat 52 m).toNat = m - 2 ^ 52 := by
    rw [BitVec.toNat_ofNat]
    omega
  have notTop : BitVec.ofNat 11 biased ≠ -1#11 := by
    intro top
    have := exponent.symm.trans (congrArg BitVec.toNat top)
    simp at this
    omega
  have notBottom : BitVec.ofNat 11 biased ≠ 0#11 := by
    intro bottom
    have := exponent.symm.trans (congrArg BitVec.toNat bottom)
    simp at this
    omega
  rw [unpack_pack_model, packed]
  simp only [UnpackedFloat.unpack, unpackExponent_packComponents, unpackMantissa_packComponents,
    unpackSign_packComponents, Sign.ofBitVec_toBitVec, if_neg notTop, if_neg notBottom,
    toNat_implicit_append, exponent, fraction, bias]
  exact finite_congr (by omega) (by omega)

/-- What a format holds: as many bits of significand as it has and one more, all of them unless
the exponent is least. -/
theorem unpack_range {format : Format} {b : BitVec format.numBits} {sign : Sign} {m : Nat}
    {e : Int} {pos : 0 < m} (h : UnpackedFloat.unpack format b = .finite sign m e pos) :
    m.log2 ≤ format.mantissaBitsWithoutImplicit ∧ format.minExponent ≤ e ∧
      (m.log2 = format.mantissaBitsWithoutImplicit ∧
          e < 2 ^ (format.exponentBits - 1) - format.mantissaBitsWithoutImplicit ∨
        e = format.minExponent) := by
  obtain ⟨half, whole⟩ : ∃ half : Nat, half = 2 ^ (format.exponentBits - 1) := ⟨_, rfl⟩
  have wholeInt : (2 : Int) ^ (format.exponentBits - 1) = half := by
    rw [whole, Nat.cast_pow, Nat.cast_ofNat]
  have double : 2 ^ format.exponentBits = 2 * half := by
    rw [whole, ← Nat.pow_succ', Nat.succ_eq_add_one, Nat.sub_add_cancel format.he]
  have halfPos : 0 < half := whole ▸ Nat.two_pow_pos _
  have exponent : (unpackExponent b).toNat < 2 ^ format.exponentBits := (unpackExponent b).isLt
  have fraction : (unpackMantissa b).toNat < 2 ^ format.mantissaBitsWithoutImplicit :=
    (unpackMantissa b).isLt
  have least : format.minExponent = 2 - half - format.mantissaBitsWithoutImplicit := by
    rw [Format.minExponent, wholeInt, Format.mantissaBits]
    omega
  have bias : (format.exponentBias : Int) = half - 1 := by
    rw [Format.exponentBias, ← whole]
    omega
  rw [least, wholeInt]
  rw [double] at exponent
  simp only [UnpackedFloat.unpack, bias, BitVec.neg_one_eq_allOnes] at h
  split at h
  · split at h <;> cases h
  · rename_i notTop
    split at h
    · split at h
      · cases h
      · rename_i bottom _
        cases h
        have short := (Nat.log2_lt pos.ne').mpr fraction
        have none : (unpackExponent b).toNat = 0 := by rw [bottom, BitVec.toNat_ofNat, Nat.zero_mod]
        omega
    · rename_i notBottom
      cases h
      have lower : (unpackExponent b).toNat ≠ 0 := fun zero =>
        notBottom (BitVec.eq_of_toNat_eq (by simpa using zero))
      have upper : (unpackExponent b).toNat ≠ 2 * half - 1 := fun top =>
        notTop (BitVec.eq_of_toNat_eq (by rw [top, BitVec.toNat_allOnes, double]))
      have value : (1#1 ++ unpackMantissa b).toNat =
        2 ^ format.mantissaBitsWithoutImplicit + (unpackMantissa b).toNat :=
        toNat_implicit_append _
      have bits : (1#1 ++ unpackMantissa b).toNat.log2 = format.mantissaBitsWithoutImplicit := by
        rw [value, Nat.log2_eq_iff (by omega)]
        omega
      omega

/-- What the narrow format holds: at most 24 bits of significand, all of them unless the exponent
is least. -/
theorem unpack_binary32_range {b : BitVec Format.binary32.numBits} {sign : Sign} {m : Nat}
    {e : Int} {pos : 0 < m} (h : UnpackedFloat.unpack .binary32 b = .finite sign m e pos) :
    m.log2 ≤ 23 ∧ -149 ≤ e ∧ e ≤ 104 ∧ (m.log2 = 23 ∨ e = -149) := by
  have least : Format.binary32.minExponent = -149 := by decide
  have top : (2 : Int) ^ (Format.binary32.exponentBits - 1) = 128 := by decide
  have range := unpack_range h
  rw [least, top] at range
  simp only [Nat.cast_ofNat] at range
  omega

theorem roundShift_shiftLeft (m shift : Nat) : roundShift (m <<< shift) shift = m := by
  have whole : m <<< shift >>> shift = m := Nat.shiftLeft_shiftRight m shift
  have unit : 0 < 1 <<< shift := Nat.shiftLeft_pos_iff.mpr Nat.one_pos
  rw [roundShift]
  simp only [whole, Nat.sub_self, Nat.mul_zero, if_pos unit]

theorem log2_shiftLeft {m : Nat} (pos : 0 < m) (shift : Nat) :
    (m <<< shift).log2 = m.log2 + shift := by
  obtain ⟨lower, upper⟩ := (Nat.log2_eq_iff pos.ne').mp rfl
  have unit := Nat.two_pow_pos shift
  rw [Nat.log2_eq_iff (Nat.shiftLeft_pos_iff.mpr pos).ne', Nat.shiftLeft_eq, Nat.pow_add,
    Nat.add_right_comm, Nat.pow_add]
  exact ⟨Nat.mul_le_mul_right _ lower, (Nat.mul_lt_mul_right unit).mpr upper⟩

section Widen
variable {x : Float32} {sign : Sign} {m : Nat} {e : Int} {pos : 0 < m}
  (h : x.toModel.unpack = .finite sign m e pos)

include h

theorem unpack_widen_of_finite :
    (widen x).toModel.unpack =
      .finite sign (m <<< (52 - m.log2)) (e - (52 - m.log2 : Nat))
        (Nat.shiftLeft_pos_iff.mpr pos) := by
  obtain ⟨bits, least, most, _⟩ := unpack_binary32_range h
  have full := log2_shiftLeft pos (52 - m.log2)
  simp only [widen, h]
  apply unpack_pack_wide
  · omega
  · omega
  · omega

theorem narrow_widen_of_finite : narrow (widen x) = .ofModel (.pack (.finite sign m e pos)) := by
  obtain ⟨bits, least, most, full⟩ := unpack_binary32_range h
  have wide := unpack_widen_of_finite h
  have unit : max (((m <<< (52 - m.log2)).log2 : Int) + (e - (52 - m.log2 : Nat)) - 23) (-149) =
      e := by
    rw [log2_shiftLeft pos]
    omega
  have shift : (e - (e - (52 - m.log2 : Nat))).toNat = 52 - m.log2 := by omega
  simp only [narrow, wide, unit, shift, roundShift_shiftLeft]
  rw [dif_neg pos.ne', if_pos (by omega)]

end Widen

theorem narrow_widen (x : Float32) : narrow (widen x) = x := by
  have back : Float32.ofModel (.pack x.toModel.unpack) = x := Float32.ofBits_toBits x
  cases h : x.toModel.unpack with
  | notANumber =>
      rw [h] at back
      simpa only [narrow, widen, h, unpack_pack_notANumber] using back
  | infinity sign =>
      rw [h] at back
      simpa only [narrow, widen, h, unpack_pack_infinity] using back
  | zero sign =>
      rw [h] at back
      simpa only [narrow, widen, h, unpack_pack_zero] using back
  | finite sign m e pos => rw [narrow_widen_of_finite h, ← h, back]

section Special

theorem narrow_nan : narrow Float.nan = Float32.nan := by decide +kernel

theorem widen_nan : widen Float32.nan = Float.nan := by decide +kernel

theorem quiet_ne_zero {w : Nat} (bits : 0 < w) : (0 : BitVec w) ≠ 1#w <<< (w - 1) := by
  intro same
  have high := congrArg (BitVec.getLsbD · (w - 1)) same
  simp [bits] at high

theorem ones_ne_zero {w : Nat} (bits : 0 < w) : (0 : BitVec w) ≠ -1#w := by
  intro same
  have low := congrArg (BitVec.getLsbD · 0) same
  simp [bits, BitVec.neg_one_eq_allOnes] at low

/-- What is out of range is packed as infinite, and only what is no number as NaN. -/
theorem pack_ne_packedNaN {format : Format} {u : UnpackedFloat} (number : u ≠ .notANumber) :
    UnpackedFloat.pack format u ≠ packedNaN format := by
  intro same
  have exponent := congrArg unpackExponent same
  have fraction := congrArg unpackMantissa same
  cases u with
  | notANumber => exact number rfl
  | infinity sign =>
      simp only [UnpackedFloat.pack, packedInfinity, packedNaN, unpackMantissa_packComponents]
        at fraction
      exact quiet_ne_zero format.hm fraction
  | zero sign =>
      simp only [UnpackedFloat.pack, packedZero, packedNaN, unpackExponent_packComponents]
        at exponent
      exact ones_ne_zero format.he exponent
  | finite sign m e pos =>
      simp only [UnpackedFloat.pack, packedNaN] at exponent fraction
      split at exponent
      · rename_i beyond
        simp only [if_pos beyond, packedInfinity, unpackMantissa_packComponents] at fraction
        exact quiet_ne_zero format.hm fraction
      · rename_i within
        split at exponent <;> simp only [unpackExponent_packComponents] at exponent
        · have := congrArg BitVec.toNat exponent
          simp [BitVec.neg_one_eq_allOnes] at this
          rw [Nat.mod_eq_of_lt (by omega)] at this
          omega
        · exact ones_ne_zero format.he exponent

theorem ofModel_pack_ne_nan {u : UnpackedFloat} (number : u ≠ .notANumber) :
    Float32.ofModel (.pack u) ≠ Float32.nan := fun same =>
  pack_ne_packedNaN number (congrArg (fun x : Float32 => x.toModel.toBits.toBitVec) same)

theorem ofModel_pack_ne_nan_wide {u : UnpackedFloat} (number : u ≠ .notANumber) :
    Float.ofModel (.pack u) ≠ Float.nan := fun same =>
  pack_ne_packedNaN number (congrArg (fun x : Float => x.toModel.toBits.toBitVec) same)

theorem unpack_ne_notANumber {x : Float} (number : x ≠ Float.nan) :
    x.toModel.unpack ≠ .notANumber := by
  have status : x.toModel.unpack.isNaN = false := by
    have := Float.isNaN_eq_decide_eq_nan (f := x)
    rw [decide_eq_false number] at this
    exact this
  intro same
  rw [same] at status
  cases status

theorem eq_nan_of_unpack {x : Float32} (none : x.toModel.unpack = .notANumber) :
    x = Float32.nan :=
  of_decide_eq_true <|
    Float32.isNaN_eq_decide_eq_nan.symm.trans (congrArg UnpackedFloat.isNaN none)

/-- What is rounded out of range becomes infinite or zero, but stays a number. -/
theorem narrow_ne_nan {x : Float} (number : x ≠ Float.nan) : narrow x ≠ Float32.nan := by
  have special := unpack_ne_notANumber number
  simp only [narrow]
  cases h : x.toModel.unpack with
  | notANumber => exact absurd h special
  | infinity sign | zero sign => exact ofModel_pack_ne_nan nofun
  | finite sign m e pos =>
      apply ofModel_pack_ne_nan
      simp only
      repeat' split
      all_goals exact nofun

end Special

section Equality
variable {v w : Float32}

theorem widen_ne_nan (number : v ≠ Float32.nan) : widen v ≠ Float.nan := by
  intro same
  apply number
  rw [← narrow_widen v, same, narrow_nan]

theorem widen_beq (same : (v == w) = true) : (widen v == widen w) = true := by
  obtain ⟨number, _, rfl | ⟨rfl, rfl⟩ | ⟨rfl, rfl⟩⟩ :=
    Float32.beq_iff_ne_nan_and_eq.mp same
  · exact Float.beq_self_iff.mpr (widen_ne_nan number)
  · decide +kernel
  · decide +kernel

theorem beq_narrow {mark : Float} (same : (widen v == mark) = true) :
    (v == narrow mark) = true := by
  obtain ⟨number, _, rfl | ⟨zero, rfl⟩ | ⟨zero, rfl⟩⟩ :=
    Float.beq_iff_ne_nan_and_eq.mp same
  · rw [narrow_widen, Float32.beq_self_iff]
    rintro rfl
    exact number widen_nan
  · rw [← narrow_widen v, zero]
    decide +kernel
  · rw [← narrow_widen v, zero]
    decide +kernel

end Equality

end Sample
end RasterMosaic
