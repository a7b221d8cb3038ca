import RasterMosaic.Proofs.Pyramid.TileSize
import RasterMosaic.Proofs.Scalar.Words

/-!
The search for a tile edge. It ends, in machine words too, and finds of all edges allowed the
longest of those that leave the fewest pixels unused: an edge that is given up early is given up
because no shorter one can be better.
-/

namespace RasterMosaic

section Unused
variable {size tile : Nat} (pixels : 0 < tile)
include pixels

/-- The tiles reach over the raster, and beyond it by what is left unused. -/
theorem size_add_unusedEdge : size + unusedEdge size tile = size ⌈/⌉ tile * tile := by
  have reached : size ≤ size ⌈/⌉ tile * tile := by
    rw [Nat.mul_comm]
    exact le_smul_ceilDiv pixels
  rw [unusedEdge, ← Nat.ceilDiv_eq_add_pred_div]
  exact Nat.add_sub_of_le reached

theorem ceilDiv_mul_lt : size ⌈/⌉ tile * tile < size + tile := by
  have whole := Nat.div_mul_le_self (size + tile - 1) tile
  rw [Nat.ceilDiv_eq_add_pred_div]
  omega

end Unused

/-- The pixels left unused, found in machine words. -/
def unusedEdge? (size tile : Nat) : Option Nat := do
  let tiles ← Word.divUp? size tile
  let reached ← Word.mul? tiles tile
  reached.psub size

theorem unusedEdge?_eq_some {size tile : Nat} (pixels : 0 < tile)
    (word : size + tile < 2 ^ wordBits) :
    unusedEdge? size tile = some (unusedEdge size tile) := by
  have reached : size + unusedEdge size tile = size ⌈/⌉ tile * tile := size_add_unusedEdge pixels
  have product : size ⌈/⌉ tile * tile < 2 ^ wordBits := Nat.lt_trans (ceilDiv_mul_lt pixels) word
  have quotient := Word.divUp?_eq_some pixels (Nat.lt_of_add_right_lt word)
  simp only [unusedEdge?, quotient, Option.bind_eq_bind, Option.bind_some,
    Word.mul?_eq_some product]
  rw [← reached, Nat.psub_eq_sub (Nat.le_add_right _ _), Nat.add_sub_cancel_left]

namespace Config
variable {c : Config} {edge other : Nat}

/-- An edge so many steps below the longest. -/
def OnGrid (c : Config) (edge : Nat) : Prop :=
  ∃ steps, edge + steps * c.tileGranularity = c.maxTileSize

/-- An edge so many steps below the longest and not below the shortest. -/
def AllowsEdge (c : Config) (edge : Nat) : Prop := c.minTileSize ≤ edge ∧ c.OnGrid edge

theorem onGrid_maxTileSize (c : Config) : c.OnGrid c.maxTileSize :=
  ⟨0, by rw [Nat.zero_mul, Nat.add_zero]⟩

theorem OnGrid.le_max (grid : c.OnGrid edge) : edge ≤ c.maxTileSize := by
  obtain ⟨steps, place⟩ := grid
  exact Nat.le.intro place

theorem OnGrid.sub_step (grid : c.OnGrid edge) (room : c.tileGranularity ≤ edge) :
    c.OnGrid (edge - c.tileGranularity) := by
  obtain ⟨steps, place⟩ := grid
  refine ⟨steps + 1, ?_⟩
  rw [Nat.succ_mul]
  omega

/-- Between an edge and the next there is none. -/
theorem OnGrid.le_of_lt_add_step (grid : c.OnGrid edge) (other_grid : c.OnGrid other)
    (close : edge < other + c.tileGranularity) : edge ≤ other := by
  obtain ⟨fewer, above⟩ := grid
  obtain ⟨steps, place⟩ := other_grid
  refine Nat.not_lt.mp fun shorter => ?_
  have more : fewer < steps := by
    apply Nat.lt_of_mul_lt_mul_right (a := c.tileGranularity)
    omega
  have step := Nat.mul_le_mul_right c.tileGranularity more
  rw [Nat.succ_mul] at step
  omega

/-- The edges allowed that are tried before an edge. The longest is the best from the start. -/
def TriesBefore (c : Config) (edge other : Nat) : Prop :=
  c.AllowsEdge other ∧ (edge < other ∨ other = c.maxTileSize)

end Config

/-- Among some edges, the longest of those that leave the fewest pixels unused. -/
structure IsBestEdge (size : Nat) (among : Nat → Prop) (edge : Nat) : Prop where
  member : among edge
  least : ∀ other, among other → unusedEdge size edge ≤ unusedEdge size other
  longest : ∀ other, among other → unusedEdge size other = unusedEdge size edge → other ≤ edge

namespace IsBestEdge
variable {size best edge : Nat} {tried all : Nat → Prop}

theorem congr (kept : IsBestEdge size tried best) (same : ∀ e, tried e ↔ all e) :
    IsBestEdge size all best where
  member := (same best).mp kept.member
  least other mem := kept.least other ((same other).mpr mem)
  longest other mem := kept.longest other ((same other).mpr mem)

/-- A shorter edge takes the place of the best only when it leaves fewer pixels unused. -/
theorem insert (kept : IsBestEdge size tried best) (shorter : edge ≤ best) :
    IsBestEdge size (fun e => tried e ∨ e = edge)
      (if unusedEdge size edge < unusedEdge size best then edge else best) := by
  by_cases better : unusedEdge size edge < unusedEdge size best
  · rw [if_pos better]
    refine ⟨.inr rfl, fun other mem => ?_, fun other mem same => ?_⟩
    · cases mem with
      | inl mem => exact Nat.le_trans (Nat.le_of_lt better) (kept.least other mem)
      | inr mem => rw [mem]
    · cases mem with
      | inl mem =>
          have worse := kept.least other mem
          omega
      | inr mem => rw [mem]
  · rw [if_neg better]
    refine ⟨.inl kept.member, fun other mem => ?_, fun other mem same => ?_⟩
    · cases mem with
      | inl mem => exact kept.least other mem
      | inr mem =>
          rw [mem]
          exact Nat.not_lt.mp better
    · cases mem with
      | inl mem => exact kept.longest other mem same
      | inr mem =>
          rw [mem]
          exact shorter

/-- Where no pixel is left unused, the shorter edges need not be tried. -/
theorem extend (kept : IsBestEdge size tried best) (none : unusedEdge size best = 0)
    (mem : all best) (rest : ∀ e, all e → tried e ∨ e ≤ best) : IsBestEdge size all best := by
  refine ⟨mem, fun other _ => ?_, fun other within same => ?_⟩
  · rw [none]
    exact Nat.zero_le _
  · cases rest other within with
    | inl mem => exact kept.longest other mem same
    | inr below => exact below

end IsBestEdge

/-- Of the longest edge alone, it is the best. -/
theorem isBestEdge_maxTileSize {c : Config} (range : c.minTileSize ≤ c.maxTileSize) (size : Nat) :
    IsBestEdge size (c.TriesBefore c.maxTileSize) c.maxTileSize where
  member := ⟨⟨range, c.onGrid_maxTileSize⟩, .inr rfl⟩
  least other tried := by
    cases tried.2 with
    | inl longer => exact absurd tried.1.2.le_max (Nat.not_le.mpr longer)
    | inr same => rw [same]
  longest _ tried _ := tried.1.2.le_max

section Search
variable {c : Config} {size best edge : Nat}

/-- Trying an edge keeps the best of the edges tried, which are then those from this edge on. -/
theorem isBestEdge_of_tried (allowed : c.AllowsEdge edge)
    (tried : IsBestEdge size (c.TriesBefore edge) best) :
    IsBestEdge size (fun e => c.AllowsEdge e ∧ edge ≤ e)
      (if unusedEdge size edge < unusedEdge size best then edge else best) := by
  have top := allowed.2.le_max
  have shorter : edge ≤ best := by
    have := tried.member.2
    omega
  refine (tried.insert shorter).congr fun e => ⟨fun mem => ?_, fun mem => ?_⟩
  · cases mem with
    | inl before =>
        have := before.2
        exact ⟨before.1, by omega⟩
    | inr same => exact ⟨same ▸ allowed, Nat.le_of_eq same.symm⟩
  · by_cases same : e = edge
    · exact .inr same
    · exact .inl ⟨mem.1, .inl (by omega)⟩

/-- The invariant of the search is that the best is the best of the edges tried before. -/
theorem isBestEdge_searchTileEdge (smallest : 0 < c.minTileSize) (granular : 0 < c.tileGranularity)
    (grid : c.OnGrid edge) (tried : IsBestEdge size (c.TriesBefore edge) best) :
    IsBestEdge size c.AllowsEdge
      (searchTileEdge size c.minTileSize c.tileGranularity best edge) := by
  fun_induction searchTileEdge size c.minTileSize c.tileGranularity best edge with
  | case1 best edge outside =>
      refine tried.congr fun e => ⟨And.left, fun allowed => ⟨allowed, .inl ?_⟩⟩
      have := allowed.1
      omega
  | case2 best edge inside better stops =>
      have from_edge : IsBestEdge size _ better := isBestEdge_of_tried ⟨by omega, grid⟩ tried
      by_cases last : edge < c.tileGranularity
      · -- No edge allowed is shorter.
        refine from_edge.congr fun e => ⟨And.left, fun allowed => ⟨allowed, ?_⟩⟩
        exact grid.le_of_lt_add_step allowed.2 (by omega)
      · have none : unusedEdge size better = 0 := by
          have := from_edge.least edge ⟨⟨by omega, grid⟩, Nat.le_refl edge⟩
          omega
        refine from_edge.extend none from_edge.member.1 fun e allowed => ?_
        by_cases shorter : e < edge
        · have := from_edge.member.2
          exact .inr (by omega)
        · exact .inl ⟨allowed, Nat.not_lt.mp shorter⟩
  | case3 best edge inside better goesOn ih =>
      have from_edge : IsBestEdge size _ better := isBestEdge_of_tried ⟨by omega, grid⟩ tried
      have top := grid.le_max
      apply ih (grid.sub_step (by omega))
      refine from_edge.congr fun e => and_congr_right fun allowed => ⟨fun longer => ?_, ?_⟩
      · exact .inl (by omega)
      · intro before
        exact grid.le_of_lt_add_step allowed.2 (by omega)

end Search

/-- The state of the search in machine words, with the pixels that the best edge leaves unused. -/
structure EdgeSearch where
  best : Nat
  unused : Nat
  edge : Nat

namespace EdgeSearch

/-- The longest edge is the best so far and the first to be tried. -/
def start? (size : Nat) (config : Config) : Option EdgeSearch :=
  (unusedEdge? size config.maxTileSize).map fun unused =>
    ⟨config.maxTileSize, unused, config.maxTileSize⟩

/-- One turn of the search: how it goes on, or the edge it ends with. -/
def turn? (size : Nat) (config : Config) (s : EdgeSearch) : Option (EdgeSearch ⊕ Nat) :=
  if config.minTileSize ≤ s.edge ∧ 0 < s.edge then do
    let unused ← unusedEdge? size s.edge
    let better := if unused < s.unused then ⟨s.edge, unused, s.edge⟩ else s
    if unused = 0 ∨ s.edge < config.tileGranularity then return .inr better.best
    else
      let shorter ← s.edge.psub config.tileGranularity
      return .inl { better with edge := shorter }
  else return .inr s.best

/-- The search ends with an edge, after so many turns that each have a value. -/
inductive Ends (size : Nat) (config : Config) : EdgeSearch → Nat → Prop
  | found {s : EdgeSearch} {edge : Nat} (last : s.turn? size config = some (.inr edge)) :
      Ends size config s edge
  | goesOn {s later : EdgeSearch} {edge : Nat} (next : s.turn? size config = some (.inl later))
      (rest : Ends size config later edge) : Ends size config s edge

variable {size best edge : Nat} {config : Config}

/-- A turn within the edges allowed tries the edge, and keeps it if it is better than the best. -/
theorem turn?_of_inside (inside : config.minTileSize ≤ edge ∧ 0 < edge)
    (word : size + edge < 2 ^ wordBits) :
    let better := if unusedEdge size edge < unusedEdge size best then edge else best
    turn? size config ⟨best, unusedEdge size best, edge⟩ = some
      (if unusedEdge size edge = 0 ∨ edge < config.tileGranularity then .inr better
      else .inl ⟨better, unusedEdge size better, edge - config.tileGranularity⟩) := by
  simp only [turn?, if_pos inside, unusedEdge?_eq_some inside.2 word, Option.bind_eq_bind,
    Option.bind_some]
  by_cases stops : unusedEdge size edge = 0 ∨ edge < config.tileGranularity
  · rw [if_pos stops, if_pos stops]
    split <;> rfl
  · have shorter := Nat.psub_eq_sub (Nat.not_lt.mp (not_or.mp stops).2)
    rw [if_neg stops, if_neg stops, shorter]
    split <;> rfl

/-- In machine words the search ends, and with the edge it finds in the natural numbers. -/
theorem ends_searchTileEdge (granular : 0 < config.tileGranularity)
    (word : size + edge < 2 ^ wordBits) :
    Ends size config ⟨best, unusedEdge size best, edge⟩
      (searchTileEdge size config.minTileSize config.tileGranularity best edge) := by
  fun_induction searchTileEdge size config.minTileSize config.tileGranularity best edge with
  | case1 best edge outside =>
      apply Ends.found
      rw [turn?, if_neg (by simp only; omega)]
      rfl
  | case2 best edge inside better stops =>
      apply Ends.found
      rw [turn?_of_inside (by omega) word, if_pos (by omega)]
      rfl
  | case3 best edge inside better goesOn ih =>
      refine .goesOn ?_ (ih (by omega))
      rw [turn?_of_inside (by omega) word, if_neg (by omega)]
      rfl

end EdgeSearch

/-- Under usable settings every raster has a tile edge. A short raster is one tile. For a longer one
the search ends, with no fault in machine words, and with the longest of the edges allowed that
leave the fewest pixels unused; these are the pixels by which the tiles exceed the raster. -/
theorem bestTileEdge_leaves_least {config : Config} (usable : config.check = .ok ()) {size : Nat}
    (word : size + config.maxTileSize < 2 ^ wordBits) :
    ∃ edge, bestTileEdge size config = .ok edge ∧ 0 < edge ∧
      (size = 0 → edge = config.minTileSize) ∧
      (0 < size → size ≤ config.maxTileSize → edge = size) ∧
      (config.maxTileSize < size →
        (∃ start, EdgeSearch.start? size config = some start ∧ start.Ends size config edge) ∧
        IsBestEdge size config.AllowsEdge edge ∧
        ∀ other, config.AllowsEdge other →
          0 < other ∧ size + unusedEdge size other = size ⌈/⌉ other * other) := by
  obtain ⟨smallest, range, granular, _⟩ := Config.check_eq_ok_iff.mp usable
  have largest : 0 < config.maxTileSize := Nat.lt_of_lt_of_le smallest range
  obtain ⟨edge, found, positive⟩ := bestTileEdge_eq_ok usable size
  refine ⟨edge, found, positive, fun empty => ?_, fun pixels short => ?_, fun long => ?_⟩
  · rw [bestTileEdge, if_pos empty, Nat.max_eq_left smallest] at found
    exact (Except.ok.inj found).symm
  · rw [bestTileEdge, if_neg (Nat.ne_of_gt pixels), if_pos short] at found
    exact (Except.ok.inj found).symm
  · rw [bestTileEdge, if_neg (by omega), if_neg (Nat.not_le.mpr long),
      if_neg (Nat.ne_of_gt largest)] at found
    obtain rfl := Except.ok.inj found
    refine ⟨⟨_, ?_, EdgeSearch.ends_searchTileEdge granular word⟩, ?_, fun other allowed => ?_⟩
    · rw [EdgeSearch.start?, unusedEdge?_eq_some largest word, Option.map_some]
    · exact isBestEdge_searchTileEdge smallest granular config.onGrid_maxTileSize
        (isBestEdge_maxTileSize range size)
    · have pixels : 0 < other := Nat.lt_of_lt_of_le smallest allowed.1
      exact ⟨pixels, size_add_unusedEdge pixels⟩

/-- With the usual settings, 10980 pixels are 30 tiles of 366 and none is left unused. -/
theorem bestTileEdge_leaves_least_usual :
    ({} : Config).check = .ok () ∧ 10980 + ({} : Config).maxTileSize < 2 ^ wordBits ∧
    ∃ edge, bestTileEdge 10980 {} = .ok edge ∧ unusedEdge 10980 edge = 0 ∧ 366 ≤ edge ∧
      ∃ start, EdgeSearch.start? 10980 {} = some start ∧ start.Ends 10980 {} edge := by
  have usable : ({} : Config).check = .ok () := by decide +kernel
  have word : 10980 + ({} : Config).maxTileSize < 2 ^ wordBits := by decide
  obtain ⟨edge, found, _, _, _, searched⟩ := bestTileEdge_leaves_least usable word
  obtain ⟨ends, best, _⟩ := searched (by decide)
  have allowed : ({} : Config).AllowsEdge 366 := ⟨by decide, 146, by decide⟩
  have exact_tiles : unusedEdge 10980 366 = 0 := by decide
  have none : unusedEdge 10980 edge = 0 := by
    have := best.least 366 allowed
    omega
  exact ⟨usable, word, edge, found, none, best.longest 366 allowed (exact_tiles.trans none.symm),
    ends⟩

end RasterMosaic
