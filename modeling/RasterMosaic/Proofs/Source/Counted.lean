import RasterMosaic.Source.Basic

/-!
A source under watch. It answers as the source it wraps and writes down for which levels it was
fetched from and how often it was released.
-/

namespace RasterMosaic

structure Counted (S : Type) where
  source : S
  /-- The levels asked for, the latest first. -/
  fetches : List Nat := []
  releases : Nat := 0

namespace Counted

variable {S : Type} [LevelSource S]

instance : LevelSource (Counted S) where
  fetch s level :=
    let (image, source) := LevelSource.fetch s.source level
    (image, { s with source, fetches := level :: s.fetches })
  baseSize s := LevelSource.baseSize s.source
  tileSize s := LevelSource.tileSize s.source
  levelCount s := LevelSource.levelCount s.source
  noData s := LevelSource.noData s.source
  release s :=
    { s with source := LevelSource.release s.source, releases := s.releases + 1 }

@[simp] theorem fetches_fetch (s : Counted S) (level : Nat) :
    (LevelSource.fetch s level).2.fetches = level :: s.fetches := rfl

@[simp] theorem releases_fetch (s : Counted S) (level : Nat) :
    (LevelSource.fetch s level).2.releases = s.releases := rfl

@[simp] theorem fetches_release (s : Counted S) :
    (LevelSource.release s).fetches = s.fetches := rfl

@[simp] theorem releases_release (s : Counted S) :
    (LevelSource.release s).releases = s.releases + 1 := rfl

end Counted
end RasterMosaic
