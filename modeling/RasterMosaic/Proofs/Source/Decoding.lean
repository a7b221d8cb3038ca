import Mathlib.Data.Finset.Dedup
import RasterMosaic.Proofs.Source.Decimated

/-!
The decode cache of a pyramid over whole runs. What is held and how often a level was decoded
follow from the calls alone: the base is there from the start and outlives releases, a coarser
level is there from its first fetch until the next release, and only that fetch decodes it.
-/

namespace RasterMosaic
namespace DecimatedPyramid

/-- A call on a pyramid. -/
inductive Call
  | fetch (level : Nat)
  | release

namespace Call

def isRelease : Call → Bool
  | release => true
  | fetch _ => false

def level? : Call → Option Nat
  | fetch level => some level
  | release => none

end Call

def serve (s : DecimatedPyramid) : Call → DecimatedPyramid
  | .fetch level => (s.fetch level).2
  | .release => s.release

/-- The pyramid after some calls, the latest first. -/
def after (s : DecimatedPyramid) (calls : List Call) : DecimatedPyramid :=
  calls.foldr (fun call s => s.serve call) s

/-- The levels but the finest that have been fetched since the last release, of the levels there
are. -/
def coarserFetched (levelCount : Nat) (calls : List Call) : Finset Nat :=
  ((calls.takeWhile (!·.isRelease)).filterMap Call.level?).toFinset.filter
    fun level => 1 ≤ level ∧ level < levelCount

/-- How many fetches were of a coarser level that had not been fetched since the release before. -/
def misses (levelCount : Nat) : List Call → Nat
  | [] => 0
  | .release :: earlier => misses levelCount earlier
  | .fetch level :: earlier =>
      misses levelCount earlier +
        if 1 ≤ level ∧ level < levelCount ∧ level ∉ coarserFetched levelCount earlier then 1
        else 0

section Calls
variable (levelCount level : Nat) (calls : List Call)

@[simp] theorem coarserFetched_nil : coarserFetched levelCount [] = ∅ := rfl

@[simp] theorem coarserFetched_release :
    coarserFetched levelCount (.release :: calls) = ∅ := rfl

theorem mem_coarserFetched_fetch {other : Nat} :
    other ∈ coarserFetched levelCount (.fetch level :: calls) ↔
      (other = level ∧ 1 ≤ level ∧ level < levelCount) ∨
        other ∈ coarserFetched levelCount calls := by
  simp only [coarserFetched, List.takeWhile_cons, Call.isRelease, Bool.not_false, if_true,
    List.filterMap_cons, Call.level?, List.toFinset_cons, Finset.mem_filter, Finset.mem_insert]
  constructor
  · rintro ⟨rfl | before, inRange⟩
    · exact .inl ⟨rfl, inRange⟩
    · exact .inr ⟨before, inRange⟩
  · rintro (⟨rfl, inRange⟩ | ⟨before, inRange⟩)
    · exact ⟨.inl rfl, inRange⟩
    · exact ⟨.inr before, inRange⟩

theorem zero_notMem_coarserFetched : 0 ∉ coarserFetched levelCount calls := by
  intro mem
  exact absurd (Finset.mem_filter.mp mem).2.1 (by decide)

theorem misses_le_append (later : List Call) :
    misses levelCount calls ≤ misses levelCount (later ++ calls) := by
  induction later with
  | nil => exact Nat.le_refl _
  | cons call rest ih =>
      cases call with
      | release => exact ih
      | fetch level => exact Nat.le_add_right_of_le ih

end Calls

/-- The pyramid `t` is where the calls lead the pyramid `s`. -/
structure Follows (s : DecimatedPyramid) (calls : List Call) (t : DecimatedPyramid) : Prop where
  redecoded : Redecoded s t
  held : ∀ level, (t.levels.get? level).isSome = true ↔
    level = 0 ∨ level ∈ coarserFetched s.levelCount calls
  decodes : t.decodeCount = misses s.levelCount calls

theorem decode_of_lt {level : Nat} (word : level < wordBits) (base : Raster Float32)
    (noData : Option Float) (decodeCount : Nat) :
    decode base noData level decodeCount =
      (.ok (base.decimate noData level), decodeCount + 1) := by
  rw [decode, if_neg (Nat.not_le.mpr word)]

section Created
variable {s : DecimatedPyramid} {base : Raster Float32} {tileSize : Size} {levelCount : Nat}
  {noData : Option Float} (created : create base tileSize levelCount noData = .ok s)

include created

theorem follows_of_create : Follows s [] s := by
  refine ⟨redecoded_of_create created, fun level => ?_, ?_⟩
  · obtain ⟨positive, rfl⟩ := eq_of_create created
    rw [LevelStore.get?_hold]
    by_cases finest : level = 0
    · subst finest
      rw [if_pos ⟨rfl, positive⟩]
      simp
    · rw [if_neg fun both => finest both.1.symm]
      simp [finest]
  · obtain ⟨_, rfl⟩ := eq_of_create created
    rfl

end Created

namespace Follows
variable {s t : DecimatedPyramid} {calls : List Call} (h : Follows s calls t)

include h

theorem fetch_of_held {level : Nat}
    (kept : level = 0 ∨ level ∈ coarserFetched s.levelCount calls) :
    Follows s (.fetch level :: calls) t := by
  refine ⟨h.redecoded, fun other => ?_, ?_⟩
  · rw [h.held, mem_coarserFetched_fetch]
    constructor
    · exact Or.imp_right .inr
    · rintro (finest | ⟨rfl, _⟩ | mem)
      · exact .inl finest
      · exact kept
      · exact .inr mem
  · rw [h.decodes, misses, if_neg, Nat.add_zero]
    rintro ⟨coarser, _, absent⟩
    obtain rfl | mem := kept
    · exact absurd coarser (by decide)
    · exact absent mem

theorem fetch_of_outside {level : Nat} (outside : s.levelCount ≤ level) :
    Follows s (.fetch level :: calls) t := by
  refine ⟨h.redecoded, fun other => ?_, ?_⟩
  · rw [h.held, mem_coarserFetched_fetch]
    constructor
    · exact Or.imp_right .inr
    · rintro (finest | ⟨_, _, inside⟩ | mem)
      · exact .inl finest
      · exact absurd inside (Nat.not_lt.mpr outside)
      · exact .inr mem
  · rw [h.decodes, misses, if_neg, Nat.add_zero]
    rintro ⟨_, inside, _⟩
    exact absurd inside (Nat.not_lt.mpr outside)

/-- A fetch of a level that is not held decodes it and keeps it. -/
theorem fetch_of_missing (few : s.levelCount ≤ wordBits) {level : Nat}
    (inside : level < s.levelCount) (missing : t.levels.get? level = none) :
    Follows s (.fetch level :: calls) (t.fetch level).2 := by
  have absent : ¬ (level = 0 ∨ level ∈ coarserFetched s.levelCount calls) := by
    rw [← h.held, missing]
    exact nofun
  have coarser : 1 ≤ level := Nat.pos_of_ne_zero fun finest => absent (.inl finest)
  have slot : level < t.levels.levelCount := h.redecoded.slots ▸ inside
  have decoded := decode_of_lt (Nat.lt_of_lt_of_le inside few) t.base t.noData t.decodeCount
  refine ⟨h.redecoded.fetch level, ?_, ?_⟩ <;>
    rw [DecimatedPyramid.fetch_of_inside (h.redecoded.levelCount ▸ inside),
      LevelStore.ensure_of_ok slot missing decoded]
  · intro other
    rw [LevelStore.get?_hold, mem_coarserFetched_fetch]
    by_cases same : level = other
    · subst same
      rw [if_pos ⟨rfl, slot⟩]
      exact iff_of_true rfl (.inr (.inl ⟨rfl, coarser, inside⟩))
    · rw [if_neg fun both => same both.1, h.held]
      exact or_congr_right (or_iff_right fun new => same new.1.symm).symm
  · rw [misses, if_pos ⟨coarser, inside, fun mem => absent (.inr mem)⟩, ← h.decodes]

theorem fetch (few : s.levelCount ≤ wordBits) (level : Nat) :
    Follows s (.fetch level :: calls) (t.fetch level).2 := by
  by_cases outside : s.levelCount ≤ level
  · rw [DecimatedPyramid.fetch_of_outside (h.redecoded.levelCount ▸ outside)]
    exact h.fetch_of_outside outside
  · have inside := Nat.not_le.mp outside
    cases held : t.levels.get? level with
    | none => exact h.fetch_of_missing few inside held
    | some image =>
        rw [DecimatedPyramid.fetch_of_held (h.redecoded.levelCount ▸ inside) held]
        exact h.fetch_of_held ((h.held level).mp (by rw [held]; rfl))

theorem release : Follows s (.release :: calls) t.release := by
  refine ⟨h.redecoded.release, fun level => ?_, h.decodes⟩
  rw [DecimatedPyramid.release, LevelStore.get?_dropCoarser, coarserFetched_release]
  by_cases finest : level = 0
  · subst finest
    rw [if_pos rfl, h.redecoded.finest]
    simp
  · simp [finest]

theorem heldLevels : t.heldLevels = 1 + (coarserFetched s.levelCount calls).card := by
  have counted : ∀ level, level ∈ insert 0 (coarserFetched s.levelCount calls) ↔
      (t.levels.get? level).isSome = true := fun level => by
    rw [Finset.mem_insert, h.held]
  rw [DecimatedPyramid.heldLevels, LevelStore.heldCount_eq_card counted,
    Finset.card_insert_of_notMem (zero_notMem_coarserFetched s.levelCount calls), Nat.add_comm]

end Follows

theorem Follows.after {s : DecimatedPyramid} (h : Follows s [] s) (few : s.levelCount ≤ wordBits)
    (calls : List Call) : Follows s calls (s.after calls) := by
  induction calls with
  | nil => exact h
  | cons call earlier ih =>
      cases call with
      | fetch level => exact ih.fetch few level
      | release => exact ih.release

/-- Whatever was fetched and released before: the finest level is the base, and never decoded;
a coarser level is the decimation of the base; another changes nothing. Held are the base and the
levels fetched since the last release, and a level is decoded each time it is fetched without
being held. -/
theorem decode_cache_follows_calls {base : Raster Float32} {tileSize : Size} {levelCount : Nat}
    {noData : Option Float} {s : DecimatedPyramid}
    (created : create base tileSize levelCount noData = .ok s) (few : levelCount ≤ wordBits)
    (calls : List Call) :
    let now := s.after calls
    now.fetch 0 = (.ok base, now) ∧
    (∀ level, 1 ≤ level → level < levelCount →
      (now.fetch level).1 = .ok (base.decimate noData level)) ∧
    (∀ level, levelCount ≤ level →
      now.fetch level = (.error (.error (.noSuchLevel level levelCount)), now)) ∧
    (∀ level, (now.levels.get? level).isSome = true ↔
      level = 0 ∨ level ∈ coarserFetched levelCount calls) ∧
    now.heldLevels = 1 + (coarserFetched levelCount calls).card ∧
    now.decodeCount = misses levelCount calls ∧
    ∀ later, now.decodeCount ≤ (s.after (later ++ calls)).decodeCount := by
  have start := follows_of_create created
  obtain ⟨positive, rfl⟩ := eq_of_create created
  intro now
  have h : Follows _ calls now := start.after few calls
  refine ⟨?_, fun level coarser inside => ?_, fun level outside => ?_, h.held, h.heldLevels,
    h.decodes, fun later => ?_⟩
  · exact fetch_of_held (h.redecoded.levelCount ▸ positive) h.redecoded.finest
  · have word : ¬ wordBits ≤ level := Nat.not_le.mpr (Nat.lt_of_lt_of_le inside few)
    rw [h.redecoded.fst_fetch, answer, if_neg (Nat.not_le.mpr inside),
      if_neg (Nat.pos_iff_ne_zero.mp coarser), if_neg word]
  · rw [fetch_of_outside (h.redecoded.levelCount ▸ outside), h.redecoded.levelCount]
  · rw [h.decodes, (start.after few (later ++ calls)).decodes]
    exact misses_le_append levelCount calls later

def tripled : DecimatedPyramid :=
  ⟨.filled ⟨3, 2⟩ 7, ⟨2, 2⟩, 3, none, (LevelStore.empty 3).hold 0 (.filled ⟨3, 2⟩ 7), 0⟩

/-- Level 2 is decoded again after a release, and only once then. -/
theorem decode_cache_follows_calls_tripled :
    let now := tripled.after [.fetch 2, .fetch 0, .fetch 9, .fetch 2, .release, .fetch 1, .fetch 2]
    now.fetch 0 = (.ok (.filled ⟨3, 2⟩ 7), now) ∧
    (now.fetch 1).1 = .ok ((Raster.filled ⟨3, 2⟩ 7).decimate none 1) ∧
    now.fetch 3 = (.error (.error (.noSuchLevel 3 3)), now) ∧
    now.heldLevels = 2 ∧ now.decodeCount = 3 := by
  have created : create (.filled ⟨3, 2⟩ 7) ⟨2, 2⟩ 3 none = .ok tripled := rfl
  obtain ⟨finest, coarser, outside, _, held, decodes, _⟩ :=
    decode_cache_follows_calls created (by decide)
      [.fetch 2, .fetch 0, .fetch 9, .fetch 2, .release, .fetch 1, .fetch 2]
  exact ⟨finest, coarser 1 (by decide) (by decide), outside 3 (by decide), held, decodes⟩

end DecimatedPyramid
end RasterMosaic
