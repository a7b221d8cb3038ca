import Mathlib.Data.Nat.Count
import RasterMosaic.Pyramid.LevelStore

/-!
What a level store holds, said for one level at a time. A request is a hit, a miss or out of
range; only a miss runs the computation, and only one that succeeds changes the store.
-/

namespace RasterMosaic
namespace LevelStore

variable {α σ : Type}

private theorem join_getElem?_replicate_none (n i : Nat) :
    ((.replicate n none : Vector (Option α) n)[i]?).join = none := by
  rw [Vector.getElem?_replicate]
  split <;> rfl

@[simp] theorem get?_empty (levelCount level : Nat) :
    (empty levelCount : LevelStore α).get? level = none :=
  join_getElem?_replicate_none levelCount level

@[simp] theorem get?_reset (store : LevelStore α) (level : Nat) :
    store.reset.get? level = none :=
  join_getElem?_replicate_none store.levelCount level

@[simp] theorem resetWith_eq (store : LevelStore α) (release : LevelStore α → σ → σ)
    (state : σ) : store.resetWith release state = (store.reset, release store state) := rfl

@[simp] theorem levelCount_hold (store : LevelStore α) (level : Nat) (value : α) :
    (store.hold level value).levelCount = store.levelCount := rfl

@[simp] theorem levelCount_reset (store : LevelStore α) :
    store.reset.levelCount = store.levelCount := rfl

theorem get?_hold (store : LevelStore α) (level other : Nat) (value : α) :
    (store.hold level value).get? other =
      if level = other ∧ level < store.levelCount then some value else store.get? other := by
  change ((store.slots.setIfInBounds level (some value))[other]?).join = _
  rw [Vector.getElem?_setIfInBounds]
  by_cases heq : level = other
  · subst heq
    by_cases hlt : level < store.levelCount
    · simp [hlt]
    · simp [hlt, get?]
  · simp [heq, get?]

theorem get?_dropCoarser (store : LevelStore α) (level : Nat) :
    store.dropCoarser.get? level = if level = 0 then store.get? level else none := by
  change ((store.slots.mapIdx _)[level]?).join = _
  rw [Vector.getElem?_mapIdx, get?]
  by_cases finest : level = 0
  · cases store.slots[level]? <;> simp [finest]
  · cases store.slots[level]? <;> simp [finest]

theorem lt_of_get?_eq_some {store : LevelStore α} {level : Nat} {value : α}
    (h : store.get? level = some value) : level < store.levelCount := by
  simp only [get?, Option.join_eq_some_iff] at h
  exact (Vector.getElem?_eq_some_iff.mp h).1

theorem toList_slots (store : LevelStore α) :
    store.slots.toList = (List.range store.levelCount).map store.get? := by
  refine List.ext_getElem (by simp) fun level hslot hrange => ?_
  have hlt : level < store.levelCount := by simpa using hrange
  simp [get?, hlt]

/-- What is counted are the levels at which something is held. -/
theorem heldCount_eq_card {store : LevelStore α} {levels : Finset Nat}
    (h : ∀ level, level ∈ levels ↔ (store.get? level).isSome = true) :
    store.heldCount = levels.card := by
  have hcount : store.heldCount =
      Nat.count (fun level => (store.get? level).isSome = true) store.levelCount := by
    rw [heldCount, ← Vector.countP_toList, toList_slots, List.countP_map, Nat.count]
    simp only [Function.comp_def, Bool.decide_eq_true]
  rw [hcount, Nat.count_eq_card_filter_range]
  congr 1
  ext level
  rw [Finset.mem_filter, Finset.mem_range, h]
  refine ⟨And.right, fun held => ⟨?_, held⟩⟩
  obtain ⟨value, hvalue⟩ := Option.isSome_iff_exists.mp held
  exact lt_of_get?_eq_some hvalue

section Requests
variable {store : LevelStore α} {level : Nat} {compute : σ → Except Failure α × σ} {state : σ}

theorem ensure_of_held {value : α} (held : store.get? level = some value) :
    store.ensure level compute state = (.ok value, store, state) := by
  simp [ensure, lt_of_get?_eq_some held, held]

theorem ensure_of_ok (inRange : level < store.levelCount) (missing : store.get? level = none)
    {value : α} {later : σ} (computed : compute state = (.ok value, later)) :
    store.ensure level compute state = (.ok value, store.hold level value, later) := by
  simp [ensure, inRange, missing, computed]

theorem ensure_of_error (inRange : level < store.levelCount)
    (missing : store.get? level = none) {failure : Failure} {later : σ}
    (computed : compute state = (.error failure, later)) :
    store.ensure level compute state = (.error failure, store, later) := by
  simp [ensure, inRange, missing, computed]

theorem ensure_of_outside (outside : store.levelCount ≤ level) :
    store.ensure level compute state =
      (.error (.error (.noSuchLevel level store.levelCount)), store, state) := by
  simp [ensure, Nat.not_lt.mpr outside]

theorem fst_ensure_of_missing (inRange : level < store.levelCount)
    (missing : store.get? level = none) :
    (store.ensure level compute state).1 = (compute state).1 := by
  cases h : compute state with
  | mk answer later =>
      cases answer with
      | ok value => rw [ensure_of_ok inRange missing h]
      | error failure => rw [ensure_of_error inRange missing h]

theorem state_ensure_of_missing (inRange : level < store.levelCount)
    (missing : store.get? level = none) :
    (store.ensure level compute state).2.2 = (compute state).2 := by
  cases h : compute state with
  | mk answer later =>
      cases answer with
      | ok value => rw [ensure_of_ok inRange missing h]
      | error failure => rw [ensure_of_error inRange missing h]

@[simp] theorem levelCount_ensure :
    (store.ensure level compute state).2.1.levelCount = store.levelCount := by
  simp only [ensure]
  repeat' first | rfl | split

@[simp] theorem generation_ensure :
    (store.ensure level compute state).2.1.generation = store.generation := by
  simp only [ensure]
  repeat' first | rfl | split

theorem snd_ensure_cases :
    (store.ensure level compute state).2.2 = state ∨
      (store.ensure level compute state).2.2 = (compute state).2 := by
  by_cases inRange : level < store.levelCount
  · cases held : store.get? level with
    | some value => exact .inl (by rw [ensure_of_held held])
    | none => exact .inr (state_ensure_of_missing inRange held)
  · exact .inl (by rw [ensure_of_outside (Nat.not_lt.mp inRange)])

/-- A request leaves what is held as it is. -/
theorem get?_ensure_of_held {other : Nat} {value : α} (held : store.get? other = some value) :
    (store.ensure level compute state).2.1.get? other = some value := by
  by_cases inRange : level < store.levelCount
  · cases missing : store.get? level with
    | some value => rwa [ensure_of_held missing]
    | none =>
        cases computed : compute state with
        | mk answer later =>
            cases answer with
            | error failure => rwa [ensure_of_error inRange missing computed]
            | ok new =>
                rw [ensure_of_ok inRange missing computed, get?_hold, if_neg]
                · exact held
                · rintro ⟨rfl, _⟩
                  cases held.symm.trans missing
  · rwa [ensure_of_outside (Nat.not_lt.mp inRange)]

/-- What is held after a request was held before or has just been computed. -/
theorem get?_ensure_cases {other : Nat} {value : α}
    (h : (store.ensure level compute state).2.1.get? other = some value) :
    store.get? other = some value ∨ other = level ∧ (compute state).1 = .ok value := by
  by_cases inRange : level < store.levelCount
  · cases held : store.get? level with
    | some value => exact .inl (by rwa [ensure_of_held held] at h)
    | none =>
        cases computed : compute state with
        | mk answer later =>
            cases answer with
            | error failure => exact .inl (by rwa [ensure_of_error inRange held computed] at h)
            | ok new =>
                rw [ensure_of_ok inRange held computed, get?_hold] at h
                by_cases hsame : level = other
                · rw [if_pos ⟨hsame, inRange⟩] at h
                  exact .inr ⟨hsame.symm, congrArg Except.ok (Option.some.inj h)⟩
                · exact .inl (by rwa [if_neg fun both => hsame both.1] at h)
  · exact .inl (by rwa [ensure_of_outside (Nat.not_lt.mp inRange)] at h)

/-- What a request is answered with is held after it. -/
theorem get?_ensure_of_answered {value : α}
    (answered : (store.ensure level compute state).1 = .ok value) :
    (store.ensure level compute state).2.1.get? level = some value := by
  by_cases inRange : level < store.levelCount
  · cases held : store.get? level with
    | some before =>
        rw [ensure_of_held held] at answered ⊢
        exact held.trans (congrArg some (Except.ok.inj answered))
    | none =>
        rw [fst_ensure_of_missing inRange held] at answered
        rw [ensure_of_ok inRange held (Prod.ext answered rfl), get?_hold, if_pos ⟨rfl, inRange⟩]
  · rw [ensure_of_outside (Nat.not_lt.mp inRange)] at answered
    cases answered

end Requests

end LevelStore
end RasterMosaic
