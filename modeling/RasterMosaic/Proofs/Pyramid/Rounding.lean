import Mathlib.Algebra.Group.Nat.Defs
import RasterMosaic.Pyramid.Scale

/-!
Rounding along a pyramid. Sizes are rounded up and offsets down, each level on its own, and the
two never add up to a pixel too many: an interval of level 0 lies at every level within the
interval that ends where its end does.
-/

namespace RasterMosaic

/-- A length on a level is the least one whose pixels reach over the whole source. -/
theorem lengthAtLevel_le_iff {source level k : Nat} (hl : level < wordBits) :
    lengthAtLevel source level ≤ k ↔ source ≤ k * 2 ^ level := by
  have hpos : 0 < 2 ^ level := Nat.two_pow_pos level
  have hsplit := Nat.div_add_mod source (2 ^ level)
  have hmod := Nat.mod_lt source hpos
  simp only [lengthAtLevel, if_neg (Nat.not_le.mpr hl), Nat.shiftRight_eq_div_pow,
    Nat.shiftLeft_eq, Nat.mul_comm _ (2 ^ level)]
  by_cases hlt : 2 ^ level * (source / 2 ^ level) < source
  · rw [if_pos hlt]
    constructor
    · intro h
      have := Nat.mul_le_mul_left (2 ^ level) h
      rw [Nat.mul_add] at this
      omega
    · intro h
      exact (Nat.mul_lt_mul_left hpos).mp (Nat.lt_of_lt_of_le hlt h)
  · rw [if_neg hlt]
    constructor
    · intro h
      have := Nat.mul_le_mul_left (2 ^ level) h
      omega
    · intro h
      exact Nat.div_le_of_le_mul h

theorem lt_lengthAtLevel_iff {source level k : Nat} (hl : level < wordBits) :
    k < lengthAtLevel source level ↔ k * 2 ^ level < source := by
  rw [← Nat.not_le, lengthAtLevel_le_iff hl, Nat.not_le]

theorem le_lengthAtLevel_mul (source : Nat) {level : Nat} (hl : level < wordBits) :
    source ≤ lengthAtLevel source level * 2 ^ level :=
  (lengthAtLevel_le_iff hl).mp (Nat.le_refl _)

theorem lengthAtLevel_pos {source : Nat} (h : 0 < source) (level : Nat) :
    0 < lengthAtLevel source level := by
  by_cases hl : level < wordBits
  · rwa [lt_lengthAtLevel_iff hl, Nat.zero_mul]
  · simp only [lengthAtLevel, if_pos (Nat.not_lt.mp hl), if_pos h, Nat.lt_one_iff]

@[simp] theorem lengthAtLevel_zero (source : Nat) : lengthAtLevel source 0 = source := by
  simp [lengthAtLevel, wordBits]

@[simp] theorem offsetAtLevel_origin (level : Nat) : offsetAtLevel 0 level = 0 := by
  simp [offsetAtLevel]

theorem offsetAtLevel_mul_le (offset level : Nat) :
    offsetAtLevel offset level * 2 ^ level ≤ offset := by
  by_cases hl : wordBits ≤ level
  · simp [offsetAtLevel, hl]
  · simp only [offsetAtLevel, if_neg hl, Nat.shiftRight_eq_div_pow]
    exact Nat.div_mul_le_self offset (2 ^ level)

theorem offsetAtLevel_le {offset level k : Nat} (h : offset < (k + 1) * 2 ^ level) :
    offsetAtLevel offset level ≤ k := by
  have hstart := offsetAtLevel_mul_le offset level
  have hlt : offsetAtLevel offset level < k + 1 :=
    Nat.lt_of_mul_lt_mul_right (Nat.lt_of_le_of_lt hstart h)
  omega

/-- An offset that is a machine word is rounded down on every level, also on those where a shift
by the level would not be defined. -/
theorem offsetAtLevel_eq_div {offset : Nat} (h : offset < 2 ^ wordBits) (level : Nat) :
    offsetAtLevel offset level = offset / 2 ^ level := by
  by_cases hl : wordBits ≤ level
  · have hlt : offset < 2 ^ level :=
      Nat.lt_of_lt_of_le h (Nat.pow_le_pow_right (by decide) hl)
    rw [offsetAtLevel, if_pos hl, Nat.div_eq_of_lt hlt]
  · rw [offsetAtLevel, if_neg hl, Nat.shiftRight_eq_div_pow]

/-- An offset rounded down and a length rounded up end no later than their sum rounded up. -/
theorem offsetAtLevel_add_lengthAtLevel_le (offset length level : Nat) :
    offsetAtLevel offset level + lengthAtLevel length level ≤
      lengthAtLevel (offset + length) level := by
  by_cases hl : level < wordBits
  · have hend := le_lengthAtLevel_mul (offset + length) hl
    have hstart := offsetAtLevel_mul_le offset level
    have hle : offsetAtLevel offset level ≤ lengthAtLevel (offset + length) level :=
      Nat.le_of_mul_le_mul_right (by omega) (Nat.two_pow_pos level)
    have hrest : lengthAtLevel length level ≤
        lengthAtLevel (offset + length) level - offsetAtLevel offset level := by
      rw [lengthAtLevel_le_iff hl, Nat.sub_mul]
      omega
    omega
  · -- Past the machine word offsets are the origin and lengths at most one pixel.
    have hl' : wordBits ≤ level := Nat.not_lt.mp hl
    simp only [offsetAtLevel, lengthAtLevel, if_pos hl']
    split <;> split <;> omega

theorem lengthAtLevel_mono {a b : Nat} (h : a ≤ b) (level : Nat) :
    lengthAtLevel a level ≤ lengthAtLevel b level := by
  by_cases hl : level < wordBits
  · rw [lengthAtLevel_le_iff hl]
    exact Nat.le_trans h (le_lengthAtLevel_mul b hl)
  · simp only [lengthAtLevel, if_pos (Nat.not_lt.mp hl)]
    split <;> split <;> omega

/-- A component that ends within its scene ends within it on every level. -/
theorem level_end_le {offset length total : Nat} (h : offset + length ≤ total) (level : Nat) :
    offsetAtLevel offset level + lengthAtLevel length level ≤ lengthAtLevel total level :=
  Nat.le_trans (offsetAtLevel_add_lengthAtLevel_le offset length level)
    (lengthAtLevel_mono h level)

/-- On a level an interval reaches past a pixel just when its length does, measured from where the
level lets it start. -/
theorem lt_level_end_iff {offset length level k : Nat} (hl : level < wordBits)
    (hk : offsetAtLevel offset level ≤ k) :
    k < offsetAtLevel offset level + lengthAtLevel length level ↔
      k * 2 ^ level < offsetAtLevel offset level * 2 ^ level + length := by
  have hrest : lengthAtLevel length level ≤ k - offsetAtLevel offset level ↔
      length ≤ (k - offsetAtLevel offset level) * 2 ^ level := lengthAtLevel_le_iff hl
  have hmono := Nat.mul_le_mul_right (2 ^ level) hk
  rw [Nat.sub_mul] at hrest
  omega

theorem offset_lt_offsetAtLevel_mul (offset : Nat) {level : Nat} (hl : level < wordBits) :
    offset < offsetAtLevel offset level * 2 ^ level + 2 ^ level := by
  have hsplit := Nat.div_add_mod offset (2 ^ level)
  have hmod := Nat.mod_lt offset (Nat.two_pow_pos level)
  simp only [offsetAtLevel, if_neg (Nat.not_le.mpr hl), Nat.shiftRight_eq_div_pow,
    Nat.mul_comm _ (2 ^ level)]
  omega

/-- An interval that reaches the end of a whole window reaches past its pixel. -/
theorem lt_level_end_of_whole {offset length level k : Nat} (hl : level < wordBits)
    (hstart : offset < (k + 1) * 2 ^ level) (hend : (k + 1) * 2 ^ level ≤ offset + length) :
    k < offsetAtLevel offset level + lengthAtLevel length level := by
  have hround := offset_lt_offsetAtLevel_mul offset hl
  rw [Nat.add_mul, Nat.one_mul] at hend
  rw [lt_level_end_iff hl (offsetAtLevel_le hstart)]
  omega

/-- Where the scene ends within a window, an interval that ends with the scene reaches past the
window's pixel if it starts less far into its own first window than the scene ends into this. -/
theorem lt_level_end_of_cut {offset length total level k : Nat} (hl : level < wordBits)
    (hlast : k * 2 ^ level < total) (hcut : total < (k + 1) * 2 ^ level)
    (hend : offset + length = total) (hlength : 0 < length)
    (hphase : offset % 2 ^ level < total % 2 ^ level) :
    k < offsetAtLevel offset level + lengthAtLevel length level := by
  have hquotient : total / 2 ^ level = k := Nat.div_eq_of_lt_le (Nat.le_of_lt hlast) hcut
  have htotal := Nat.div_add_mod total (2 ^ level)
  have hoffset := Nat.div_add_mod offset (2 ^ level)
  rw [lt_level_end_iff hl (offsetAtLevel_le (by omega))]
  simp only [offsetAtLevel, if_neg (Nat.not_le.mpr hl), Nat.shiftRight_eq_div_pow]
  rw [hquotient, Nat.mul_comm] at htotal
  rw [Nat.mul_comm] at hoffset
  omega

/-- The last position of the scene in the window of a level pixel. -/
def lastInWindow (total level k : Nat) : Nat := min ((k + 1) * 2 ^ level) total - 1

/-- An interval that holds the last position of a window holds the window's pixel on the level. In
the window that the scene ends in, this takes that its start is not rounded down too far. -/
theorem level_holds_of_lastInWindow {offset length total level k : Nat} (hl : level < wordBits)
    (hwithin : offset + length ≤ total) (hlast : k * 2 ^ level < total)
    (hstart : offset ≤ lastInWindow total level k)
    (hend : lastInWindow total level k < offset + length)
    (hphase : total < (k + 1) * 2 ^ level → offset % 2 ^ level < total % 2 ^ level) :
    offsetAtLevel offset level ≤ k ∧
      k < offsetAtLevel offset level + lengthAtLevel length level := by
  have hpos : 0 < (k + 1) * 2 ^ level := Nat.mul_pos (Nat.succ_pos k) (Nat.two_pow_pos level)
  simp only [lastInWindow] at hstart hend
  refine ⟨offsetAtLevel_le (by omega), ?_⟩
  by_cases hcut : total < (k + 1) * 2 ^ level
  · exact lt_level_end_of_cut hl hlast hcut (by omega) (by omega) (hphase hcut)
  · exact lt_level_end_of_whole hl (by omega) (by omega)

end RasterMosaic
