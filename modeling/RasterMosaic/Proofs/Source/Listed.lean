import RasterMosaic.Proofs.Source.Conduct
import RasterMosaic.Source.Listed

/-!
A listed source never changes its mind: only its counters move, so what it answers now it answers
always.
-/

namespace RasterMosaic
namespace ListedSource

open LevelSource

variable {s t : ListedSource}

theorem eq_of_later (h : Later s t) :
    ∃ fetches releases, t = { s with fetches, releases } := by
  induction h with
  | refl => exact ⟨s.fetches, s.releases, rfl⟩
  | fetch level _ ih =>
      obtain ⟨fetches, releases, rfl⟩ := ih
      exact ⟨fetches + 1, releases, rfl⟩
  | release _ ih =>
      obtain ⟨fetches, releases, rfl⟩ := ih
      exact ⟨fetches, releases + 1, rfl⟩

variable {level : Nat} {image : Raster Float32}
  (answer : (LevelSource.fetch s level).1 = .ok image)

include answer

theorem fetch_of_later (h : Later s t) : (LevelSource.fetch t level).1 = .ok image := by
  obtain ⟨fetches, releases, rfl⟩ := eq_of_later h
  exact answer

theorem furnishes_of_fetch (hsize : image.size = s.baseSize.atLevel level) :
    Furnishes s level := by
  intro t later
  exact ⟨image, fetch_of_later answer later, hsize⟩

theorem solid_of_fetch {whole : Option Float32}
    (data : ∀ r c value, image.get? r c = some value →
      lacksData value (s.noData.map Sample.narrow) = false ∧ lacksData value whole = false) :
    Solid s level whole := by
  intro t later given same
  obtain rfl := Except.ok.inj ((fetch_of_later answer later).symm.trans same)
  obtain ⟨fetches, releases, rfl⟩ := eq_of_later later
  exact data

end ListedSource
end RasterMosaic
