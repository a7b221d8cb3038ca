import RasterMosaic.Proofs.Mosaic.Requests
import RasterMosaic.Proofs.Product.Building

/-!
Products under requests. A request is for one band or for all of them, and each band it is for takes
it to its mosaic. So whatever is served, every mosaic in a product is one that can be met alone.
-/

namespace RasterMosaic

inductive ProductRequest
  /-- A request to the mosaic of the band at an index. -/
  | band (index : Nat) (request : Request)
  /-- An image of that band in physical units. -/
  | physical (index level : Nat)
  | reset
  | dispose

namespace Product

variable {K S : Type} {n : Nat}

theorem mem_stepBands {step : Mosaic K n → Vector S n → Mosaic K n × Vector S n}
    {bands : List (Band K n)} {sources : Vector S n} {band : Band K n}
    (h : band ∈ (stepBands step bands sources).1) :
    ∃ before ∈ bands, ∃ met : Vector S n,
      band = { before with mosaic := (step before.mosaic met).1 } := by
  induction bands generalizing sources with
  | nil => cases h
  | cons first rest ih =>
      cases h with
      | head => exact ⟨first, List.mem_cons_self, sources, rfl⟩
      | tail _ htail =>
          obtain ⟨before, hmem, met, same⟩ := ih htail
          exact ⟨before, List.mem_cons_of_mem _ hmem, met, same⟩

variable [LevelSource S]

/-- Serves a request. There is no reply for a band that there is not. -/
def serve (p : Product K n) (sources : Vector S n) :
    ProductRequest → Option Reply × Product K n × Vector S n
  | .band index request =>
      match p.bands[index]? with
      | none => (none, p, sources)
      | some band =>
        let (reply, mosaic, sources) := band.mosaic.serve sources request
        (some reply, { p with bands := p.bands.set index { band with mosaic } }, sources)
  | .physical index level =>
      match p.bands[index]? with
      | none => (none, p, sources)
      | some band =>
        let (answer, band, sources) := band.physicalImage level sources
        (some (.raster answer), { p with bands := p.bands.set index band }, sources)
  | .reset =>
      let (p, sources) := p.reset sources
      (some .done, p, sources)
  | .dispose =>
      let (p, sources) := p.dispose sources
      (some .done, p, sources)

def serveAll (p : Product K n) (sources : Vector S n) :
    List ProductRequest → List (Option Reply) × Product K n × Vector S n
  | [] => ([], p, sources)
  | request :: rest =>
      let (reply, p, sources) := p.serve sources request
      let (replies, p, sources) := p.serveAll sources rest
      (reply :: replies, p, sources)

/-- The products there can be: those that are built and have served any requests, each over any
sources. -/
inductive Reachable (S : Type) [LevelSource S] [CrsRegistry] [Scalar K] [DecidableLT K] :
    Product K n → Prop
  | built {name : String} {scene : SceneReference K} {inputs : List (BandInput K n)}
      {config : Config} {sources : Vector S n} {p : Product K n}
      (new : build name scene inputs config sources = .ok p) : Reachable S p
  | serve {p : Product K n} (before : Reachable S p) (sources : Vector S n)
      (request : ProductRequest) : Reachable S (p.serve sources request).2.1

theorem built_of_build [CrsRegistry] [Scalar K] [DecidableLT K] {name : String}
    {scene : SceneReference K} {inputs : List (BandInput K n)} {config : Config}
    {sources : Vector S n} {p : Product K n}
    (h : build name scene inputs config sources = .ok p) :
    ∀ band ∈ p.bands, Mosaic.Built S band.mosaic := by
  intro band hmem
  have built := isBuiltFrom_of_build h
  obtain ⟨input, _, made⟩ := exists_of_mem_forall₂ built.bands.flip hmem
  exact made.built built.usable

/-- A request serves each mosaic at most once, and makes no new one. -/
theorem mem_bands_serve {p : Product K n} {sources : Vector S n} {request : ProductRequest}
    {band : Band K n} (h : band ∈ (p.serve sources request).2.1.bands) :
    ∃ before ∈ p.bands, band.mosaic = before.mosaic ∨
      ∃ (met : Vector S n) (asked : Request),
        band.mosaic = (before.mosaic.serve met asked).2.1 := by
  cases request with
  | band index asked =>
      simp only [serve] at h
      split at h
      · exact ⟨band, h, .inl rfl⟩
      · rename_i before found
        obtain hmem | rfl := List.mem_or_eq_of_mem_set h
        · exact ⟨band, hmem, .inl rfl⟩
        · exact ⟨before, List.mem_of_getElem? found, .inr ⟨sources, asked, rfl⟩⟩
  | physical index level =>
      simp only [serve] at h
      split at h
      · exact ⟨band, h, .inl rfl⟩
      · rename_i before found
        obtain hmem | rfl := List.mem_or_eq_of_mem_set h
        · exact ⟨band, hmem, .inl rfl⟩
        · exact ⟨before, List.mem_of_getElem? found, .inr ⟨sources, .image level, rfl⟩⟩
  | reset =>
      obtain ⟨before, hmem, met, rfl⟩ := mem_stepBands h
      exact ⟨before, hmem, .inr ⟨met, .reset, rfl⟩⟩
  | dispose =>
      obtain ⟨before, hmem, met, rfl⟩ := mem_stepBands h
      exact ⟨before, hmem, .inr ⟨met, .dispose, rfl⟩⟩

theorem Reachable.band [CrsRegistry] [Scalar K] [DecidableLT K] {p : Product K n}
    (h : Reachable S p) :
    ∀ band ∈ p.bands, Mosaic.Reachable S band.mosaic := by
  induction h with
  | built new => exact fun band hmem => .built (built_of_build new band hmem)
  | serve _ sources request ih =>
      intro band hmem
      obtain ⟨before, hbefore, same | ⟨met, asked, served⟩⟩ := mem_bands_serve hmem
      · rw [same]
        exact ih before hbefore
      · rw [served]
        exact (ih before hbefore).serve met asked

end Product
end RasterMosaic
