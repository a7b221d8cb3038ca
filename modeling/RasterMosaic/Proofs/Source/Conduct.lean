import RasterMosaic.Pyramid.Scale
import RasterMosaic.Sample
import RasterMosaic.Source.Basic

/-!
How a source may behave over time. A source is judged by every state that fetching and releasing
can lead it to, whoever fetches and in whatever order, since several placements and several
mosaics may share one.
-/

namespace RasterMosaic
namespace LevelSource

@[simp] theorem get_put {S : Type} {n : Nat} (sources : Vector S n) (k i : Fin n) (source : S) :
    (put sources k source).get i = if k = i then source else sources.get i := by
  change (sources.set k source k.isLt)[i] = if k = i then source else sources[i]
  simp only [Fin.getElem_fin, Vector.getElem_set, Fin.ext_iff]

variable {S : Type} [LevelSource S]

/-- The states that fetches and releases lead a source to. -/
inductive Later (s : S) : S → Prop
  | refl : Later s s
  | fetch {t : S} (level : Nat) (before : Later s t) : Later s (LevelSource.fetch t level).2
  | release {t : S} (before : Later s t) : Later s (LevelSource.release t)

theorem Later.trans {s t u : S} (first : Later s t) (second : Later t u) : Later s u := by
  induction second with
  | refl => exact first
  | fetch level _ ih => exact .fetch level ih
  | release _ ih => exact .release ih

/-- Asked for a level now, the source answers, with an image or an error. -/
def Answers (s : S) (level : Nat) : Prop :=
  ∀ fault, (LevelSource.fetch s level).1 ≠ .error (.fault fault)

/-- Asked for a level now, the source answers with an error. -/
def Fails (s : S) (level : Nat) : Prop :=
  ∃ cause, (LevelSource.fetch s level).1 = .error (.error cause)

theorem Fails.answers {s : S} {level : Nat} (h : Fails s level) : Answers s level := by
  obtain ⟨cause, failed⟩ := h
  intro fault faulty
  cases failed.symm.trans faulty

/-- From now on every level is answered in one way, and so is the no-data value. -/
def Steady (s : S) : Prop :=
  ∀ t, Later s t → LevelSource.noData t = LevelSource.noData s ∧
    ∀ level, (LevelSource.fetch t level).1 = (LevelSource.fetch s level).1

/-- From now on the source fails for the level or answers with an image as large as its base is
there. -/
def KeepsSize (s : S) (level : Nat) : Prop :=
  ∀ t, Later s t → Answers t level ∧
    ∀ image, (LevelSource.fetch t level).1 = .ok image →
      image.size = (LevelSource.baseSize s).atLevel level

/-- From now on the source answers the level, with an image as large as its base is there. -/
def Furnishes (s : S) (level : Nat) : Prop :=
  ∀ t, Later s t → ∃ image, (LevelSource.fetch t level).1 = .ok image ∧
    image.size = (LevelSource.baseSize s).atLevel level

/-- From now on every sample in the source's answers for the level is data, to the source itself
and under the no-data value `whole`. -/
def Solid (s : S) (level : Nat) (whole : Option Float32) : Prop :=
  ∀ t, Later s t → ∀ image, (LevelSource.fetch t level).1 = .ok image →
    ∀ r c value, image.get? r c = some value →
      lacksData value
        ((LevelSource.noData (LevelSource.fetch t level).2).map Sample.narrow) = false ∧
      lacksData value whole = false

end LevelSource
end RasterMosaic
