import RasterMosaic.Error

/-!
One held value per level. The first computation that succeeds for a level is kept until the
next reset; one that fails leaves everything as it was. The generation counts resets.
Computations run in a state `σ`, which tells whether and how they ran.
-/

namespace RasterMosaic

structure LevelStore (α : Type) where
  levelCount : Nat
  slots : Vector (Option α) levelCount
  generation : Nat

namespace LevelStore

variable {α σ : Type}

def empty (levelCount : Nat) : LevelStore α :=
  ⟨levelCount, .replicate levelCount none, 0⟩

def get? (store : LevelStore α) (level : Nat) : Option α := (store.slots[level]?).join

def hold (store : LevelStore α) (level : Nat) (value : α) : LevelStore α :=
  { store with slots := store.slots.setIfInBounds level (some value) }

/-- The value held for a level, or else the one computed now and kept. -/
def ensure (store : LevelStore α) (level : Nat) (compute : σ → Except Failure α × σ)
    (state : σ) : Except Failure α × LevelStore α × σ :=
  if level < store.levelCount then
    match store.get? level with
    | some value => (.ok value, store, state)
    | none =>
      match compute state with
      | (.ok value, later) => (.ok value, store.hold level value, later)
      | (.error failure, later) => (.error failure, store, later)
  else (.error (.error (.noSuchLevel level store.levelCount)), store, state)

def heldCount (store : LevelStore α) : Nat := store.slots.countP Option.isSome

def reset (store : LevelStore α) : LevelStore α :=
  ⟨store.levelCount, .replicate store.levelCount none, store.generation + 1⟩

/-- Drops what is held for every level but the finest. -/
def dropCoarser (store : LevelStore α) : LevelStore α :=
  { store with slots := store.slots.mapIdx fun level held => if level = 0 then held else none }

/-- Resets the store once `release` has run, which still meets everything that is held. -/
def resetWith (store : LevelStore α) (release : LevelStore α → σ → σ) (state : σ) :
    LevelStore α × σ :=
  let later := release store state
  (store.reset, later)

def resetAfter (store : LevelStore α) (release : σ → σ) (state : σ) : LevelStore α × σ :=
  store.resetWith (fun _ => release) state

end LevelStore

end RasterMosaic
