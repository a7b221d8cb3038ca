import Mathlib.Data.Finset.Dedup
import RasterMosaic.Proofs.Pyramid.LevelStore

/-!
A level store against the history of what ran on it. Computations and release actions write
themselves down when they run, so the history tells calls that were made from calls that were
saved. The store is then, for every level, what the first success since the last reset gave.
-/

namespace RasterMosaic

/-- What happened at a level store. -/
inductive Deed (α : Type)
  | computed (level : Nat) (result : Except Failure α)
  /-- A release action ran, and met these held values. -/
  | released (held : Nat → Option α)
  | emptied

/-- Deeds, the latest first. -/
abbrev History (α : Type) := List (Deed α)

variable {α σ : Type}

namespace Deed

def isEmptied : Deed α → Bool
  | emptied => true
  | computed _ _ | released _ => false

def value? (level : Nat) : Deed α → Option α
  | computed other (.ok value) => if other = level then some value else none
  | computed _ (.error _) | released _ | emptied => none

def success? : Deed α → Option Nat
  | computed level (.ok _) => some level
  | computed _ (.error _) | released _ | emptied => none

theorem success?_eq_some_iff {deed : Deed α} {level : Nat} :
    deed.success? = some level ↔ (deed.value? level).isSome = true := by
  cases deed with
  | released _ | emptied => simp [success?, value?]
  | computed other result =>
      cases result with
      | error _ => simp [success?, value?]
      | ok value => by_cases h : other = level <;> simp [success?, value?, h]

end Deed

namespace History

def sinceReset (history : History α) : History α :=
  history.takeWhile fun deed => !deed.isEmptied

/-- The value of the first success for a level since the last reset. -/
def first? (history : History α) (level : Nat) : Option α :=
  (history.sinceReset.filterMap (Deed.value? level)).getLast?

/-- The levels with a success since the last reset. -/
def levels (history : History α) : Finset Nat :=
  (history.sinceReset.filterMap Deed.success?).toFinset

variable (history : History α) (level other : Nat)

theorem first?_computed_ok (value : α) :
    first? (.computed other (.ok value) :: history) level =
      (first? history level).or (if other = level then some value else none) := by
  simp only [first?, sinceReset, List.takeWhile_cons, Deed.isEmptied, Bool.not_false, if_true,
    List.filterMap_cons, Deed.value?]
  by_cases h : other = level
  · simp only [if_pos h, List.getLast?_cons]
    cases (List.filterMap (Deed.value? level) _).getLast? <;> rfl
  · simp [if_neg h]

@[simp] theorem levels_computed_ok (value : α) :
    levels (.computed level (.ok value) :: history) = insert level history.levels := by
  simp [levels, sinceReset, Deed.isEmptied, Deed.success?]

@[simp] theorem levels_computed_error (failure : Failure) :
    levels (.computed level (.error failure) :: history) = history.levels := rfl

theorem mem_levels_iff : level ∈ history.levels ↔ (history.first? level).isSome = true := by
  rw [levels, List.mem_toFinset, List.mem_filterMap, first?, List.getLast?_isSome,
    ← List.length_pos_iff, List.length_filterMap_pos_iff]
  simp only [Deed.success?_eq_some_iff, Option.isSome_iff_exists, exists_prop]

end History

namespace LevelStore

/-- A call on a store. Computations and release actions run in a state of the caller's choice. -/
inductive Call (α σ : Type)
  | ensure (level : Nat) (compute : σ → Except Failure α × σ)
  | get (level : Nat)
  | reset
  | resetWith (release : LevelStore α → σ → σ)

inductive Answer (α : Type)
  | value (result : Except Failure α)
  | held (value : Option α)
  | done

def Call.isReset : Call α σ → Bool
  | .reset | .resetWith _ => true
  | .ensure _ _ | .get _ => false

/-- A store in use, with the state that computations and release actions run in. -/
structure Session (α σ : Type) where
  store : LevelStore α
  state : σ
  history : History α

namespace Session

def start (levelCount : Nat) (state : σ) : Session α σ := ⟨.empty levelCount, state, []⟩

/-- A computation that is written down when it runs. -/
def noting (level : Nat) (compute : σ → Except Failure α × σ) :
    σ × History α → Except Failure α × σ × History α :=
  fun (state, history) =>
    let (result, state) := compute state
    (result, state, .computed level result :: history)

/-- A release action that is written down when it runs. -/
def notingRelease (release : LevelStore α → σ → σ) :
    LevelStore α → σ × History α → σ × History α :=
  fun store (state, history) => (release store state, .released store.get? :: history)

def serve (s : Session α σ) : Call α σ → Answer α × Session α σ
  | .ensure level compute =>
      let (result, store, state, history) :=
        s.store.ensure level (noting level compute) (s.state, s.history)
      (.value result, ⟨store, state, history⟩)
  | .get level => (.held (s.store.get? level), s)
  | .reset => (.done, ⟨s.store.reset, s.state, .emptied :: s.history⟩)
  | .resetWith release =>
      let (store, state, history) :=
        s.store.resetWith (notingRelease release) (s.state, s.history)
      (.done, ⟨store, state, .emptied :: history⟩)

def after (s : Session α σ) (calls : List (Call α σ)) : Session α σ :=
  calls.foldl (fun s call => (s.serve call).2) s

section Ensure
variable {s : Session α σ} {level : Nat} (compute : σ → Except Failure α × σ)

theorem serve_ensure_of_outside (outside : s.store.levelCount ≤ level) :
    s.serve (.ensure level compute) =
      (.value (.error (.error (.noSuchLevel level s.store.levelCount))), s) := by
  simp only [serve, ensure_of_outside outside]

theorem serve_ensure_of_held {value : α} (held : s.store.get? level = some value) :
    s.serve (.ensure level compute) = (.value (.ok value), s) := by
  simp only [serve, ensure_of_held held]

theorem serve_ensure_of_missing (inRange : level < s.store.levelCount)
    (missing : s.store.get? level = none) :
    ∃ store, s.serve (.ensure level compute) =
        (.value (compute s.state).1,
          ⟨store, (compute s.state).2, .computed level (compute s.state).1 :: s.history⟩) ∧
      (∀ value, (compute s.state).1 = .ok value → store = s.store.hold level value) ∧
      ∀ failure, (compute s.state).1 = .error failure → store = s.store := by
  cases computed : compute s.state with
  | mk result later =>
      have noted : noting level compute (s.state, s.history) =
          (result, later, .computed level result :: s.history) := by
        simp only [noting, computed]
      cases result with
      | ok value =>
          refine ⟨s.store.hold level value, ?_, ?_, nofun⟩
          · simp only [serve, ensure_of_ok inRange missing noted]
          · intro other same
            cases same
            rfl
      | error failure =>
          refine ⟨s.store, ?_, nofun, fun _ _ => rfl⟩
          simp only [serve, ensure_of_error inRange missing noted]

end Ensure

/-- That computations are written down shows nowhere but in the history. -/
theorem store_state_serve_ensure (s : Session α σ) (level : Nat)
    (compute : σ → Except Failure α × σ) :
    ((s.serve (.ensure level compute)).2.store, (s.serve (.ensure level compute)).2.state) =
      (s.store.ensure level compute s.state).2 := by
  by_cases inRange : level < s.store.levelCount
  · cases missing : s.store.get? level with
    | some value => rw [serve_ensure_of_held compute missing, ensure_of_held missing]
    | none =>
        obtain ⟨store, served, kept, dropped⟩ :=
          serve_ensure_of_missing compute inRange missing
        rw [served]
        cases computed : compute s.state with
        | mk result later =>
            rw [computed] at kept dropped
            cases result with
            | ok value => rw [ensure_of_ok inRange missing computed, kept value rfl]
            | error failure =>
                rw [ensure_of_error inRange missing computed, dropped failure rfl]
  · have outside := Nat.not_lt.mp inRange
    rw [serve_ensure_of_outside compute outside, ensure_of_outside outside]

/-- The store of a session holds first successes and nothing else. -/
structure Faithful (levelCount : Nat) (s : Session α σ) : Prop where
  levels : s.store.levelCount = levelCount
  first : ∀ level, s.store.get? level = s.history.first? level

namespace Faithful
variable {levelCount : Nat} {s : Session α σ}

theorem start (levelCount : Nat) (state : σ) :
    Faithful levelCount (start levelCount state : Session α σ) :=
  ⟨rfl, fun level => get?_empty levelCount level⟩

theorem serve (h : Faithful levelCount s) (call : Call α σ) :
    Faithful levelCount (s.serve call).2 := by
  cases call with
  | get level => exact h
  | reset => exact ⟨h.levels, get?_reset s.store⟩
  | resetWith release => exact ⟨h.levels, get?_reset s.store⟩
  | ensure level compute =>
      by_cases inRange : level < s.store.levelCount
      · cases missing : s.store.get? level with
        | some value => rwa [serve_ensure_of_held compute missing]
        | none =>
            obtain ⟨store, served, kept, dropped⟩ :=
              serve_ensure_of_missing compute inRange missing
            rw [served]
            cases computed : (compute s.state).1 with
            | error failure =>
                rw [dropped failure computed]
                exact ⟨h.levels, h.first⟩
            | ok value =>
                rw [kept value computed]
                refine ⟨h.levels, fun other => ?_⟩
                rw [get?_hold, History.first?_computed_ok, ← h.first]
                by_cases same : level = other
                · -- The slot was empty, so the value just held is the first one.
                  rw [if_pos ⟨same, inRange⟩, if_pos same, ← same, missing]
                  rfl
                · rw [if_neg fun both => same both.1, if_neg same, Option.or_none]
      · rwa [serve_ensure_of_outside compute (Nat.not_lt.mp inRange)]

theorem after (h : Faithful levelCount s) (calls : List (Call α σ)) :
    Faithful levelCount (s.after calls) := by
  induction calls generalizing s with
  | nil => exact h
  | cons call rest ih => exact ih (h.serve call)

theorem heldCount (h : Faithful levelCount s) :
    s.store.heldCount = s.history.levels.card := by
  apply heldCount_eq_card
  intro level
  rw [h.first, History.mem_levels_iff]

end Faithful

theorem generation_serve (s : Session α σ) (call : Call α σ) :
    (s.serve call).2.store.generation =
      s.store.generation + if call.isReset then 1 else 0 := by
  cases call with
  | get level => rfl
  | reset => rfl
  | resetWith release => rfl
  | ensure level compute => exact generation_ensure

theorem generation_after (s : Session α σ) (calls : List (Call α σ)) :
    (s.after calls).store.generation = s.store.generation + calls.countP Call.isReset := by
  induction calls generalizing s with
  | nil => rfl
  | cons call rest ih =>
      have hstep := generation_serve s call
      have hrest := ih (s.serve call).2
      rw [List.countP_cons]
      change ((s.serve call).2.after rest).store.generation = _
      omega

end Session

/-- Whatever is called on a store, and in whichever order: it holds for each level the value of
the first success since the last reset, runs a computation exactly when nothing is held for a
level it has, and hands on what that gives. A computation that fails leaves the store as it was,
and a release action runs once, while everything is still held. -/
theorem session_follows_history (levelCount : Nat) (state : σ) (calls : List (Call α σ)) :
    let s : Session α σ := (Session.start levelCount state).after calls
    (∀ level, s.store.get? level = s.history.first? level) ∧
    s.store.heldCount = s.history.levels.card ∧
    s.store.generation = calls.countP Call.isReset ∧
    (∀ level, s.serve (.get level) = (.held (s.history.first? level), s)) ∧
    (∀ level compute, levelCount ≤ level →
      s.serve (.ensure level compute) =
        (.value (.error (.error (.noSuchLevel level levelCount))), s)) ∧
    (∀ level compute value, s.history.first? level = some value →
      s.serve (.ensure level compute) = (.value (.ok value), s)) ∧
    (∀ level compute, level < levelCount → s.history.first? level = none →
      ∃ store, s.serve (.ensure level compute) =
          (.value (compute s.state).1,
            ⟨store, (compute s.state).2, .computed level (compute s.state).1 :: s.history⟩) ∧
        ∀ failure, (compute s.state).1 = .error failure → store = s.store) ∧
    s.serve .reset = (.done, ⟨s.store.reset, s.state, .emptied :: s.history⟩) ∧
    ∀ release, s.serve (.resetWith release) =
      (.done, ⟨s.store.reset, release s.store s.state,
        .emptied :: .released s.store.get? :: s.history⟩) := by
  intro s
  have faithful : s.Faithful levelCount := (Session.Faithful.start levelCount state).after calls
  refine ⟨faithful.first, faithful.heldCount, ?_, ?_, ?_, ?_, ?_, rfl, fun release => rfl⟩
  · rw [Session.generation_after]
    exact Nat.zero_add _
  · intro level
    rw [← faithful.first]
    rfl
  · intro level compute outside
    rw [← faithful.levels] at outside ⊢
    exact Session.serve_ensure_of_outside compute outside
  · intro level compute value first
    rw [← faithful.first] at first
    exact Session.serve_ensure_of_held compute first
  · intro level compute inRange first
    rw [← faithful.levels] at inRange
    rw [← faithful.first] at first
    obtain ⟨store, served, _, dropped⟩ :=
      Session.serve_ensure_of_missing compute inRange first
    exact ⟨store, served, dropped⟩

/-- Two calls for a level run one computation. -/
example :
    let draw : Nat → Except Failure Nat × Nat := fun state => (.ok state, state + 1)
    let s := (Session.start 2 5).after [.ensure 1 draw, .ensure 1 draw]
    s.state = 6 ∧ s.store.get? 1 = some 5 ∧ s.history.levels = {1} := by decide

end LevelStore
end RasterMosaic
