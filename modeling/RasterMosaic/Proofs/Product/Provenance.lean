import RasterMosaic.Proofs.Mosaic.Provenance
import RasterMosaic.Proofs.Product.Requests

/-!
Products over time. They serve requests while others fetch from their sources and release them.
To a band the requests to all others are such doings elsewhere, so it comes to what its mosaic
alone would come to.
-/

namespace RasterMosaic

variable {K S : Type} {n : Nat} [LevelSource S]

/-- What has become of a band: its mosaic served requests, and all else is as it was. -/
structure Band.Reached (first : Band K n) (start : Vector S n) (band : Band K n)
    (sources : Vector S n) : Prop where
  same : band = { first with mosaic := band.mosaic }
  mosaic : Mosaic.Reached first.mosaic start band.mosaic sources

namespace Band.Reached
variable {first band : Band K n} {start sources later : Vector S n}

theorem serve (h : first.Reached start band sources) (request : Request) :
    first.Reached start { band with mosaic := (band.mosaic.serve sources request).2.1 }
      (band.mosaic.serve sources request).2.2 where
  same := by
    rw [h.same]
  mosaic := h.mosaic.serve request

theorem meanwhile (h : first.Reached start band sources) (elsewhere : AllLater sources later) :
    first.Reached start band later :=
  ⟨h.same, h.mosaic.meanwhile elsewhere⟩

end Band.Reached

namespace Product

/-- What a product and its sources come to by requests, and by what others do to the sources in
between. -/
inductive Reached (p : Product K n) (start : Vector S n) : Product K n → Vector S n → Prop
  | start : Reached p start p start
  | serve {now : Product K n} {sources : Vector S n} (before : Reached p start now sources)
      (request : ProductRequest) :
      Reached p start (now.serve sources request).2.1 (now.serve sources request).2.2
  | meanwhile {now : Product K n} {sources later : Vector S n}
      (before : Reached p start now sources) (elsewhere : AllLater sources later) :
      Reached p start now later

section Steps
variable (request : Request)

/-- One request to every band in turn. -/
def serveBands : List (Band K n) → Vector S n → List (Band K n) × Vector S n :=
  stepBands fun mosaic sources => (mosaic.serve sources request).2

theorem allLater_serveBands (bands : List (Band K n)) (sources : Vector S n) :
    AllLater sources (serveBands request bands sources).2 := by
  induction bands generalizing sources with
  | nil => exact .refl sources
  | cons band rest ih => exact (band.mosaic.allLater_serve sources request).trans (ih _)

/-- A band is served once, over the sources that those before it left, and before those after. -/
theorem getElem?_serveBands {bands : List (Band K n)} {sources : Vector S n} {index : Nat}
    {band : Band K n} (found : (serveBands request bands sources).1[index]? = some band) :
    ∃ before met, bands[index]? = some before ∧ AllLater sources met ∧
      band = { before with mosaic := (before.mosaic.serve met request).2.1 } ∧
      AllLater (before.mosaic.serve met request).2.2 (serveBands request bands sources).2 := by
  induction bands generalizing sources index with
  | nil => cases found
  | cons first rest ih =>
      cases index with
      | zero =>
          cases found
          exact ⟨first, sources, rfl, .refl sources, rfl, allLater_serveBands request rest _⟩
      | succ index =>
          obtain ⟨before, met, member, earlier, served, later⟩ := ih found
          exact ⟨before, met, member,
            (first.mosaic.allLater_serve sources request).trans earlier, served, later⟩

end Steps

/-- Every band of the product has become of the band that was there. -/
def BandsReached (p : Product K n) (start : Vector S n) (now : Product K n)
    (sources : Vector S n) : Prop :=
  ∀ (index : Nat) (band : Band K n), now.bands[index]? = some band →
    ∃ first : Band K n, p.bands[index]? = some first ∧ first.Reached start band sources

namespace BandsReached
variable {p now : Product K n} {start sources : Vector S n} (h : BandsReached p start now sources)

include h

theorem meanwhile {later : Vector S n} (elsewhere : AllLater sources later) :
    BandsReached p start now later := by
  intro index band found
  obtain ⟨first, member, reached⟩ := h index band found
  exact ⟨first, member, reached.meanwhile elsewhere⟩

theorem set {index : Nat} {band : Band K n} (found : now.bands[index]? = some band)
    (request : Request) :
    BandsReached p start
      { now with
        bands := now.bands.set index
          { band with mosaic := (band.mosaic.serve sources request).2.1 } }
      (band.mosaic.serve sources request).2.2 := by
  have elsewhere := band.mosaic.allLater_serve sources request
  intro other after member
  by_cases same : index = other
  · subst same
    obtain ⟨first, there, reached⟩ := h index band found
    have inside : index < now.bands.length := (List.getElem?_eq_some_iff.mp found).1
    rw [List.getElem?_set_self inside] at member
    cases member
    exact ⟨first, there, reached.serve request⟩
  · rw [List.getElem?_set_ne same] at member
    exact h.meanwhile elsewhere other after member

theorem serveBands (request : Request) :
    BandsReached p start { now with bands := (serveBands request now.bands sources).1 }
      (Product.serveBands request now.bands sources).2 := by
  intro index band found
  obtain ⟨before, met, member, earlier, rfl, later⟩ := getElem?_serveBands request found
  obtain ⟨first, there, reached⟩ := h index before member
  exact ⟨first, there, ((reached.meanwhile earlier).serve request).meanwhile later⟩

theorem serve (request : ProductRequest) :
    BandsReached p start (now.serve sources request).2.1 (now.serve sources request).2.2 := by
  cases request with
  | band index asked =>
      cases found : now.bands[index]? with
      | none => simpa only [Product.serve, found] using h
      | some band => simpa only [Product.serve, found] using h.set found asked
  | physical index level =>
      cases found : now.bands[index]? with
      | none => simpa only [Product.serve, found] using h
      | some band =>
          simp only [Product.serve, found]
          exact h.set found (.image level)
  | reset => exact h.serveBands .reset
  | dispose => exact h.serveBands .dispose

end BandsReached

theorem Reached.bands {p now : Product K n} {start sources : Vector S n}
    (h : Reached p start now sources) : BandsReached p start now sources := by
  induction h with
  | start => exact fun _ band found => ⟨band, found, rfl, .start⟩
  | serve _ request ih => exact ih.serve request
  | meanwhile _ elsewhere ih => exact ih.meanwhile elsewhere

end Product
end RasterMosaic
