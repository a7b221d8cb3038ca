import RasterMosaic.Proofs.Option
import RasterMosaic.Proofs.Pyramid.Halving
import RasterMosaic.Proofs.Raster.Windows
import RasterMosaic.Proofs.Source.Decimated

/-!
Levels of a pyramid as deep as machine words go, and deeper. A level is decoded in machine words,
each step with a value, as long as the edge of its windows is a word. Sizes and offsets go on to the
levels after that, which a pyramid can have as well; but these are never decoded.
-/

namespace RasterMosaic
namespace Raster

/-- The raster with the samples at all its places, if there is one at each. -/
def ofFn? {α : Type} (rows cols : Nat) (f : Fin rows → Fin cols → Option α) :
    Option (Raster α) :=
  if h : ∀ r c, (f r c).isSome then some (.ofFn rows cols fun r c => (f r c).get (h r c))
  else none

theorem ofFn?_eq_some {α : Type} {rows cols : Nat} {f : Fin rows → Fin cols → Option α}
    {g : Fin rows → Fin cols → α} (h : ∀ r c, f r c = some (g r c)) :
    ofFn? rows cols f = some (.ofFn rows cols g) := by
  have found : ∀ r c, (f r c).isSome := fun r c => by rw [h r c]; rfl
  rw [ofFn?, dif_pos found]
  simp only [h, Option.get_some]

/-- The base rows or columns of a window with an edge of so many pixels, found in machine words. -/
def windowSpanInWords? (length edge k : Nat) : Option (List Nat) := do
  let next ← Word.add? k 1
  let stop ← Word.mul? next edge
  let first ← Word.mul? k edge
  return List.range' first (min stop length - first)

/-- The samples of a window, looked up one by one. -/
def windowSamplesInWords? (base : Raster Float32) (edge r c : Nat) : Option (List Float32) := do
  let rows ← windowSpanInWords? base.rows edge r
  let cols ← windowSpanInWords? base.cols edge c
  (rows ×ˢ cols).mapM fun p => base.get? p.1 p.2

/-- The raster at a level, decoded in machine words. -/
def decimateInWords? (base : Raster Float32) (noData : Option Float) (level : Nat) :
    Option (Raster Float32) := do
  let rows ← lengthInWords? base.rows level
  let cols ← lengthInWords? base.cols level
  let edge ← Word.shiftLeft? 1 level
  ofFn? rows cols fun r c => (windowSamplesInWords? base edge r c).map (meanOfValid noData)

section Decoding
variable {base : Raster Float32} {noData : Option Float} {level : Nat}

theorem windowSpanInWords?_eq_some {length k : Nat} (word : level < wordBits)
    (short : length < 2 ^ (wordBits - 1)) (inside : k < lengthAtLevel length level) :
    windowSpanInWords? length (2 ^ level) k = some (windowSpan length level k) := by
  have stop : (k + 1) * 2 ^ level < 2 ^ wordBits := window_end_lt word short inside
  have next : k + 1 < 2 ^ wordBits :=
    Nat.lt_of_le_of_lt (Nat.le_mul_of_pos_right _ (Nat.two_pow_pos level)) stop
  have first : k * 2 ^ level < 2 ^ wordBits :=
    Nat.lt_of_le_of_lt (Nat.mul_le_mul_right _ (Nat.le_succ k)) stop
  rw [windowSpanInWords?, Word.add?_eq_some next, Option.bind_eq_bind, Option.bind_some,
    Word.mul?_eq_some stop, Word.mul?_eq_some first, windowSpan, Nat.shiftLeft_eq,
    Nat.shiftLeft_eq]
  rfl

section Fitting
variable (word : level < wordBits) (rows : base.rows < 2 ^ (wordBits - 1))
  (cols : base.cols < 2 ^ (wordBits - 1))
include word rows cols

theorem windowSamplesInWords?_eq_some {r c : Nat} (hr : r < lengthAtLevel base.rows level)
    (hc : c < lengthAtLevel base.cols level) :
    windowSamplesInWords? base (2 ^ level) r c = some (base.windowSamples level r c) := by
  rw [windowSamplesInWords?, windowSpanInWords?_eq_some word rows hr, Option.bind_eq_bind,
    Option.bind_some, windowSpanInWords?_eq_some word cols hc, Option.bind_some,
    ← windowPixels_eq_product]
  exact mapM_eq_some map_some_windowSamples.symm

/-- Below the bits of a word no step of a decoding fails. -/
theorem decimateInWords?_eq_some :
    base.decimateInWords? noData level = some (base.decimate noData level) := by
  have whole : 2 ^ (wordBits - 1) < 2 ^ wordBits := by decide
  have edge : (1 : Nat) <<< level < 2 ^ wordBits := by
    rw [Nat.one_shiftLeft]
    exact Nat.pow_lt_pow_right Nat.one_lt_two word
  rw [decimateInWords?, lengthInWords?_eq_some (Nat.lt_trans rows whole),
    lengthInWords?_eq_some (Nat.lt_trans cols whole), Word.shiftLeft?_eq_some word edge,
    Nat.one_shiftLeft]
  refine ofFn?_eq_some fun r c => ?_
  rw [windowSamplesInWords?_eq_some word rows cols r.isLt c.isLt]
  rfl

end Fitting

/-- From the bits of a word on there is no edge of a window. -/
theorem decimateInWords?_eq_none (past : wordBits ≤ level) :
    base.decimateInWords? noData level = none := by
  have edge : Word.shiftLeft? 1 level = none := if_neg (Nat.not_lt.mpr past)
  simp [decimateInWords?, edge]

end Decoding
end Raster

/-- From the bits of a word on a side of a raster is one pixel long, found in machine words too. -/
theorem lengthInWords?_of_past {source level : Nat} (pixels : 0 < source)
    (past : wordBits ≤ level) : lengthInWords? source level = some 1 := by
  rw [lengthInWords?, if_pos past, if_pos pixels]

namespace DecimatedPyramid

variable {base : Raster Float32} {tileSize : Size} {levelCount : Nat} {noData : Option Float}
  {s : DecimatedPyramid}

theorem nonempty_of_create (created : create base tileSize levelCount noData = .ok s) :
    0 < base.rows ∧ 0 < base.cols := by
  simp only [create] at created
  split at created
  · cases created
  · rename_i full
    exact Raster.isEmpty_eq_false_iff.mp (Bool.eq_false_iff.mpr full)

section Answers
variable (created : create base tileSize levelCount noData = .ok s) {t : DecimatedPyramid}
  (later : LevelSource.Later s t) {level : Nat} (inside : level < levelCount)
include created later inside

theorem fst_fetch_of_word (held : base.rows * base.cols < 2 ^ (wordBits - 1))
    (word : level < wordBits) :
    ∃ image, (LevelSource.fetch t level).1 = .ok image ∧
      image.rows = lengthAtLevel base.rows level ∧ image.cols = lengthAtLevel base.cols level ∧
      (level = 0 → image = base) ∧
      (1 ≤ level → base.decimateInWords? noData level = some image) := by
  obtain ⟨rows, cols⟩ := nonempty_of_create created
  have start := redecoded_of_create created
  have answered : (LevelSource.fetch t level).1 = s.answer level :=
    (start.of_later later).fst_fetch level
  obtain ⟨positive, rfl⟩ := eq_of_create created
  by_cases finest : level = 0
  · subst finest
    rw [answer_zero positive] at answered
    exact ⟨base, answered, (lengthAtLevel_zero _).symm, (lengthAtLevel_zero _).symm,
      fun _ => rfl, nofun⟩
  · rw [answer, if_neg (Nat.not_le.mpr inside), if_neg finest, if_neg (Nat.not_le.mpr word)]
      at answered
    refine ⟨_, answered, rfl, rfl, fun first => absurd first finest, fun _ => ?_⟩
    exact Raster.decimateInWords?_eq_some word
      (Nat.lt_of_le_of_lt (Nat.le_mul_of_pos_right _ cols) held)
      (Nat.lt_of_le_of_lt (Nat.le_mul_of_pos_left _ rows) held)

theorem fst_fetch_of_past (past : wordBits ≤ level) :
    (LevelSource.fetch t level).1 = .error (.fault .shiftOverflow) := by
  have coarser : level ≠ 0 := Nat.ne_of_gt (Nat.lt_of_lt_of_le (by decide) past)
  have start := redecoded_of_create created
  have answered : (LevelSource.fetch t level).1 = s.answer level :=
    (start.of_later later).fst_fetch level
  obtain ⟨_, rfl⟩ := eq_of_create created
  rw [answered, answer, if_neg (Nat.not_le.mpr inside), if_neg coarser, if_pos past]

end Answers

/-- Whatever was fetched or released before, a level is decoded if the edge of its windows is a
machine word, and then no step of that leaves the words or misses a sample. The levels after that
have a size and offsets in machine words, but fetching one is a fault. -/
theorem level_decoded_iff_word (created : create base tileSize levelCount noData = .ok s)
    (held : base.rows * base.cols < 2 ^ (wordBits - 1)) {t : DecimatedPyramid}
    (later : LevelSource.Later s t) {level : Nat} (inside : level < levelCount) :
    ((∃ image, (LevelSource.fetch t level).1 = .ok image) ↔ level < wordBits) ∧
    (level < wordBits → ∃ image, (LevelSource.fetch t level).1 = .ok image ∧
      image.rows = lengthAtLevel base.rows level ∧ image.cols = lengthAtLevel base.cols level ∧
      (level = 0 → image = base) ∧
      (1 ≤ level → base.decimateInWords? noData level = some image)) ∧
    (wordBits ≤ level → (LevelSource.fetch t level).1 = .error (.fault .shiftOverflow) ∧
      base.decimateInWords? noData level = none ∧
      lengthInWords? base.rows level = some 1 ∧ lengthInWords? base.cols level = some 1 ∧
      ∀ offset, offsetAtLevel offset level = 0) := by
  obtain ⟨rows, cols⟩ := nonempty_of_create created
  refine ⟨⟨?_, fun word => ?_⟩, fst_fetch_of_word created later inside held, fun past => ?_⟩
  · rintro ⟨image, answered⟩
    refine Nat.not_le.mp fun past => ?_
    cases answered.symm.trans (fst_fetch_of_past created later inside past)
  · obtain ⟨image, answered, _⟩ := fst_fetch_of_word created later inside held word
    exact ⟨image, answered⟩
  · exact ⟨fst_fetch_of_past created later inside past, Raster.decimateInWords?_eq_none past,
      lengthInWords?_of_past rows past, lengthInWords?_of_past cols past, fun _ => if_pos past⟩

/-- A pyramid of one more level than a word has bits. -/
def deep : DecimatedPyramid :=
  ⟨.filled ⟨3, 2⟩ 7, ⟨2, 2⟩, 65, none, (LevelStore.empty 65).hold 0 (.filled ⟨3, 2⟩ 7), 0⟩

theorem create_deep : create (.filled ⟨3, 2⟩ 7) ⟨2, 2⟩ 65 none = .ok deep := rfl

/-- After a release, the last level but one is decoded to a single pixel. -/
theorem level_decoded_iff_word_deep :
    let now := LevelSource.release (LevelSource.fetch deep 1).2
    (∃ image, (LevelSource.fetch now 63).1 = .ok image ∧ image.rows = 1 ∧ image.cols = 1 ∧
      (Raster.filled ⟨3, 2⟩ 7).decimateInWords? none 63 = some image) ∧
    (LevelSource.fetch now 64).1 = .error (.fault .shiftOverflow) ∧
    ¬ ∃ image, (LevelSource.fetch now 64).1 = .ok image := by
  have later := LevelSource.Later.release (.fetch 1 (.refl (s := deep)))
  obtain ⟨_, decoded, _⟩ :=
    level_decoded_iff_word create_deep (by decide) later (by decide : 63 < 65)
  obtain ⟨iff_word, _, past⟩ :=
    level_decoded_iff_word create_deep (by decide) later (by decide : 64 < 65)
  obtain ⟨image, answered, rows, cols, _, inWords⟩ := decoded (by decide)
  exact ⟨⟨image, answered, rows, cols, inWords (by decide)⟩, (past (by decide)).1,
    fun found => absurd (iff_word.mp found) (by decide)⟩

/-- The last of 65 levels is one that the pyramid has, of a single pixel, and no image of it is ever
answered. -/
theorem last_level_of_deep_faults :
    create (.filled ⟨3, 2⟩ 7) ⟨2, 2⟩ 65 none = .ok deep ∧ 64 < deep.levelCount ∧
      (Raster.filled ⟨3, 2⟩ (7 : Float32)).size.atLevel 64 = ⟨1, 1⟩ ∧
      (LevelSource.fetch deep 64).1 = .error (.fault .shiftOverflow) :=
  ⟨create_deep, by decide, by decide, fst_fetch_of_past create_deep .refl (by decide) (by decide)⟩

end DecimatedPyramid
end RasterMosaic
