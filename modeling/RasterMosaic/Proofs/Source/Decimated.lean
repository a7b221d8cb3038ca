import RasterMosaic.Proofs.Pyramid.LevelStore
import RasterMosaic.Proofs.Pyramid.Rounding
import RasterMosaic.Proofs.Source.Conduct
import RasterMosaic.Source.Decimated

/-!
The answers of a decimated pyramid. What is decoded and what has been released is never seen in
them: each level is the decimation of the base, in every state the pyramid can reach.
-/

namespace RasterMosaic
namespace DecimatedPyramid

/-- The answer for a level, from the base alone. -/
def answer (s : DecimatedPyramid) (level : Nat) : Except Failure (Raster Float32) :=
  if s.levelCount ≤ level then .error (.error (.noSuchLevel level s.levelCount))
  else if level = 0 then .ok s.base
  else if wordBits ≤ level then .error (.fault .shiftOverflow)
  else .ok (s.base.decimate s.noData level)

/-- The pyramid `s` with any coarser levels decoded, each of them as decimation gives it. -/
structure Redecoded (s t : DecimatedPyramid) : Prop where
  base : t.base = s.base
  levelCount : t.levelCount = s.levelCount
  noData : t.noData = s.noData
  slots : t.levels.levelCount = s.levelCount
  finest : t.levels.get? 0 = some s.base
  held : ∀ level image, t.levels.get? level = some image → s.answer level = .ok image

variable {s t : DecimatedPyramid}

theorem answer_zero (positive : 0 < s.levelCount) : s.answer 0 = .ok s.base := by
  rw [answer, if_neg (Nat.not_le.mpr positive), if_pos rfl]

section Created
variable {base : Raster Float32} {tileSize : Size} {levelCount : Nat} {noData : Option Float}
  (h : create base tileSize levelCount noData = .ok s)

include h

theorem eq_of_create :
    0 < levelCount ∧
      s = ⟨base, tileSize, levelCount, noData, (LevelStore.empty levelCount).hold 0 base, 0⟩ := by
  simp only [create] at h
  repeat' split at h
  all_goals cases h
  rename_i positive
  exact ⟨Nat.pos_of_ne_zero positive, rfl⟩

theorem redecoded_of_create : Redecoded s s := by
  obtain ⟨slot, rfl⟩ := eq_of_create h
  refine ⟨rfl, rfl, rfl, rfl, ?_, fun level image held => ?_⟩
  · rw [LevelStore.get?_hold, if_pos ⟨rfl, slot⟩]
  · rw [LevelStore.get?_hold] at held
    split at held
    · rename_i finest
      cases held
      rw [← finest.1]
      exact answer_zero slot
    · simp at held

end Created

theorem fst_decode (base : Raster Float32) (noData : Option Float) (level decodeCount : Nat) :
    (decode base noData level decodeCount).1 =
      if wordBits ≤ level then .error (.fault .shiftOverflow)
      else .ok (base.decimate noData level) := by
  by_cases hword : wordBits ≤ level <;> simp [decode, hword]

theorem fetch_of_outside {level : Nat} (outside : s.levelCount ≤ level) :
    s.fetch level = (.error (.error (.noSuchLevel level s.levelCount)), s) := by
  rw [fetch, if_pos outside]

theorem fetch_of_inside {level : Nat} (inside : level < s.levelCount) :
    s.fetch level =
      let ensured := s.levels.ensure level (decode s.base s.noData level) s.decodeCount
      (ensured.1, { s with levels := ensured.2.1, decodeCount := ensured.2.2 }) := by
  rw [fetch, if_neg (Nat.not_le.mpr inside)]

theorem fetch_of_held {level : Nat} {image : Raster Float32} (inside : level < s.levelCount)
    (held : s.levels.get? level = some image) : s.fetch level = (.ok image, s) := by
  rw [fetch_of_inside inside, LevelStore.ensure_of_held held]

namespace Redecoded

theorem ne_zero_of_missing (h : Redecoded s t) {level : Nat}
    (missing : t.levels.get? level = none) : level ≠ 0 := by
  rintro rfl
  rw [h.finest] at missing
  cases missing

/-- What decoding gives is the answer, for a level that is not held. -/
theorem decode_of_missing (h : Redecoded s t) {level : Nat} (inside : level < s.levelCount)
    (missing : t.levels.get? level = none) (decodeCount : Nat) :
    (decode t.base t.noData level decodeCount).1 = s.answer level := by
  rw [fst_decode, h.base, h.noData, answer, if_neg (Nat.not_le.mpr inside),
    if_neg (h.ne_zero_of_missing missing)]

theorem fst_fetch (h : Redecoded s t) (level : Nat) : (t.fetch level).1 = s.answer level := by
  by_cases outside : s.levelCount ≤ level
  · rw [fetch_of_outside (h.levelCount ▸ outside), answer, if_pos outside, h.levelCount]
  · have inside := Nat.not_le.mp outside
    cases held : t.levels.get? level with
    | some image =>
        rw [fetch_of_held (h.levelCount ▸ inside) held]
        exact (h.held level image held).symm
    | none =>
        rw [fetch_of_inside (h.levelCount ▸ inside)]
        exact (LevelStore.fst_ensure_of_missing (h.slots ▸ inside) held).trans
          (h.decode_of_missing inside held t.decodeCount)

theorem fetch (h : Redecoded s t) (level : Nat) : Redecoded s (t.fetch level).2 := by
  by_cases outside : s.levelCount ≤ level
  · rwa [fetch_of_outside (h.levelCount ▸ outside)]
  · have inside := Nat.not_le.mp outside
    cases held : t.levels.get? level with
    | some image => rwa [fetch_of_held (h.levelCount ▸ inside) held]
    | none =>
        rw [fetch_of_inside (h.levelCount ▸ inside)]
        have decoded := h.decode_of_missing inside held t.decodeCount
        refine ⟨h.base, h.levelCount, h.noData, ?_, ?_, fun other image found => ?_⟩
        · exact LevelStore.levelCount_ensure.trans h.slots
        · exact LevelStore.get?_ensure_of_held h.finest
        · obtain before | ⟨rfl, new⟩ := LevelStore.get?_ensure_cases found
          · exact h.held other image before
          · exact decoded.symm.trans new

theorem release (h : Redecoded s t) : Redecoded s t.release := by
  refine ⟨h.base, h.levelCount, h.noData, h.slots, ?_, fun level image found => ?_⟩
  · rw [DecimatedPyramid.release, LevelStore.get?_dropCoarser, if_pos rfl]
    exact h.finest
  · rw [DecimatedPyramid.release, LevelStore.get?_dropCoarser] at found
    split at found
    · exact h.held level image found
    · cases found

theorem of_later (h : Redecoded s s) (later : LevelSource.Later s t) : Redecoded s t := by
  induction later with
  | refl => exact h
  | fetch level _ ih => exact ih.fetch level
  | release _ ih => exact ih.release

end Redecoded

/-- Whatever was fetched or released before, a pyramid answers as on its first day. -/
theorem steady_of_create {base : Raster Float32} {tileSize : Size} {levelCount : Nat}
    {noData : Option Float} (h : create base tileSize levelCount noData = .ok s) :
    LevelSource.Steady s := by
  intro t later
  have hs := redecoded_of_create h
  have ht := hs.of_later later
  exact ⟨ht.noData, fun level => (ht.fst_fetch level).trans (hs.fst_fetch level).symm⟩

theorem size_of_answer {level : Nat} {image : Raster Float32}
    (h : s.answer level = .ok image) : image.size = s.base.size.atLevel level := by
  simp only [answer] at h
  split at h
  · cases h
  · split at h
    · rename_i finest
      cases h
      simp [finest, Size.atLevel]
    · split at h
      · cases h
      · cases h
        rfl

theorem answer_ne_fault {level : Nat} (hl : level < wordBits) (fault : ArithmeticFault) :
    s.answer level ≠ .error (.fault fault) := by
  simp only [answer, if_neg (Nat.not_le.mpr hl)]
  repeat' split
  all_goals simp

/-- Below the level at which a window edge leaves the machine word, a pyramid has its levels in
the sizes of the base. -/
theorem keepsSize_of_create {base : Raster Float32} {tileSize : Size} {levelCount : Nat}
    {noData : Option Float} (h : create base tileSize levelCount noData = .ok s) {level : Nat}
    (hl : level < wordBits) : LevelSource.KeepsSize s level := by
  intro t later
  have hanswer : (LevelSource.fetch t level).1 = s.answer level :=
    ((redecoded_of_create h).of_later later).fst_fetch level
  refine ⟨fun fault hfault => ?_, fun image himage => ?_⟩
  · exact answer_ne_fault hl fault (hanswer.symm.trans hfault)
  · exact size_of_answer (hanswer.symm.trans himage)

end DecimatedPyramid
end RasterMosaic
