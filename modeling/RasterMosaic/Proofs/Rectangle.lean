import Mathlib.Data.Int.ConditionallyCompleteOrder
import Mathlib.Data.Nat.PSub
import Mathlib.Data.Set.Prod
import Mathlib.Order.ConditionallyCompleteLattice.Basic
import Mathlib.Order.Interval.Set.LinearOrder
import RasterMosaic.Proofs.Scalar.Words

/-!
Rectangles by their pixels. Intersections are intersections of pixel sets, and a rectangle contains
another that has pixels just when it has all of them. Unions are told by what encloses them, where
an empty rectangle is enclosed by any other; so they are associative, and commutative unless both
rectangles are empty. Where the edges of the operands are machine words so are those of both, and no
width or height is found as a difference below zero.
-/

namespace RasterMosaic
namespace Rectangle

variable {a b c d : Rectangle}

/-- The integer points from the upper left corner up to the right and bottom edges. -/
def pixels (a : Rectangle) : Set (Int × Int) :=
  Set.Ico (a.x : Int) a.maxX ×ˢ Set.Ico (a.y : Int) a.maxY

/-- The other rectangle has no pixel, or its edges lie within those of this one. -/
def Encloses (d a : Rectangle) : Prop := a.isEmpty = false → d.contains a = true

theorem isEmpty_eq_false_iff : a.isEmpty = false ↔ a.x < a.maxX ∧ a.y < a.maxY := by
  rw [isEmpty, Size.isEmpty_eq_false_iff, maxX, maxY, Nat.lt_add_right_iff_pos,
    Nat.lt_add_right_iff_pos]
  rfl

theorem contains_iff : d.contains a = true ↔
    d.x ≤ a.x ∧ d.y ≤ a.y ∧ a.maxX ≤ d.maxX ∧ a.maxY ≤ d.maxY := by
  simp [contains, and_assoc]

theorem contains_refl (a : Rectangle) : a.contains a = true :=
  contains_iff.mpr ⟨Nat.le_refl _, Nat.le_refl _, Nat.le_refl _, Nat.le_refl _⟩

theorem contains_antisymm (h : a.contains b = true) (h' : b.contains a = true) : a = b := by
  obtain ⟨left, top, right, bottom⟩ := contains_iff.mp h
  obtain ⟨left', top', right', bottom'⟩ := contains_iff.mp h'
  cases a
  cases b
  simp only [maxX, maxY] at *
  simp only [mk.injEq]
  omega

section Pixels

theorem pixels_nonempty_iff : a.pixels.Nonempty ↔ a.isEmpty = false := by
  rw [pixels, Set.prod_nonempty_iff, Set.nonempty_Ico, Set.nonempty_Ico, Int.ofNat_lt,
    Int.ofNat_lt, isEmpty_eq_false_iff]

theorem contains_iff_pixels_subset (full : b.isEmpty = false) :
    a.contains b = true ↔ b.pixels ⊆ a.pixels := by
  obtain ⟨wide, high⟩ := isEmpty_eq_false_iff.mp full
  have filled := pixels_nonempty_iff.mpr full
  rw [pixels] at filled
  rw [contains_iff, pixels, pixels, Set.prod_subset_prod_iff' filled,
    Set.Ico_subset_Ico_iff (Int.ofNat_lt.mpr wide), Set.Ico_subset_Ico_iff (Int.ofNat_lt.mpr high)]
  omega

theorem intersection_of_disjoint
    (apart : min a.maxX b.maxX ≤ max a.x b.x ∨ min a.maxY b.maxY ≤ max a.y b.y) :
    a.intersection b = ⟨max a.x b.x, max a.y b.y, 0, 0⟩ := by
  rw [intersection]
  refine if_pos ?_
  rwa [Bool.or_eq_true, decide_eq_true_iff, decide_eq_true_iff]

theorem intersection_of_meeting (wide : max a.x b.x < min a.maxX b.maxX)
    (high : max a.y b.y < min a.maxY b.maxY) :
    a.intersection b = ⟨max a.x b.x, max a.y b.y, min a.maxX b.maxX - max a.x b.x,
      min a.maxY b.maxY - max a.y b.y⟩ := by
  rw [intersection]
  refine if_neg ?_
  rw [Bool.or_eq_true, decide_eq_true_iff, decide_eq_true_iff]
  omega

theorem pixels_intersection (a b : Rectangle) :
    (a.intersection b).pixels = a.pixels ∩ b.pixels := by
  ext ⟨px, py⟩
  by_cases meeting : max a.x b.x < min a.maxX b.maxX ∧ max a.y b.y < min a.maxY b.maxY
  · rw [intersection_of_meeting meeting.1 meeting.2]
    simp only [pixels, Set.mem_inter_iff, Set.mem_prod, Set.mem_Ico, maxX, maxY] at *
    omega
  · rw [intersection_of_disjoint (by omega)]
    simp only [pixels, Set.mem_inter_iff, Set.mem_prod, Set.mem_Ico, maxX, maxY] at *
    omega

end Pixels

section Union

theorem union_of_isEmpty_left (empty : a.isEmpty = true) : a.union b = b := if_pos empty

theorem union_of_isEmpty_right (full : a.isEmpty = false) (empty : b.isEmpty = true) :
    a.union b = a := by
  rw [union, full, if_neg Bool.false_ne_true, if_pos empty]

/-- Two rectangles with pixels unite from the smaller corner to the larger edges. -/
theorem union_of_full (full : a.isEmpty = false) (full' : b.isEmpty = false) :
    a.union b = ⟨min a.x b.x, min a.y b.y, max a.maxX b.maxX - min a.x b.x,
      max a.maxY b.maxY - min a.y b.y⟩ := by
  rw [union, full, full', if_neg Bool.false_ne_true, if_neg Bool.false_ne_true]

theorem isEmpty_union (a b : Rectangle) : (a.union b).isEmpty = (a.isEmpty && b.isEmpty) := by
  cases empty : a.isEmpty with
  | true => rw [union_of_isEmpty_left empty, Bool.true_and]
  | false =>
      cases empty' : b.isEmpty with
      | true => rw [union_of_isEmpty_right empty empty', empty, Bool.false_and]
      | false =>
          have wide := isEmpty_eq_false_iff.mp empty
          rw [union_of_full empty empty', Bool.false_and, isEmpty_eq_false_iff]
          simp only [maxX, maxY] at *
          omega

/-- A union is enclosed by what encloses both operands, and by nothing else. -/
theorem encloses_union_iff : d.Encloses (a.union b) ↔ d.Encloses a ∧ d.Encloses b := by
  cases empty : a.isEmpty with
  | true => simp [Encloses, union_of_isEmpty_left, empty]
  | false =>
      cases empty' : b.isEmpty with
      | true => simp [Encloses, union_of_isEmpty_right empty empty', empty']
      | false =>
          have full := isEmpty_union a b
          rw [empty, empty', Bool.false_and] at full
          have wide := isEmpty_eq_false_iff.mp empty
          have wide' := isEmpty_eq_false_iff.mp empty'
          simp only [Encloses, full, empty, empty', forall_const]
          rw [union_of_full empty empty', contains_iff, contains_iff, contains_iff]
          simp only [maxX, maxY] at *
          omega

/-- Rectangles with pixels are equal if the same rectangles enclose them. -/
theorem eq_of_encloses_iff (full : a.isEmpty = false) (full' : b.isEmpty = false)
    (same : ∀ d : Rectangle, d.Encloses a ↔ d.Encloses b) : a = b :=
  contains_antisymm ((same a).mp (fun _ => contains_refl a) full')
    ((same b).mpr (fun _ => contains_refl b) full)

theorem union_assoc (a b c : Rectangle) : (a.union b).union c = a.union (b.union c) := by
  cases empty : (a.union b).isEmpty with
  | true =>
      rw [isEmpty_union, Bool.and_eq_true] at empty
      rw [union_of_isEmpty_left empty.1, union_of_isEmpty_left empty.2,
        union_of_isEmpty_left empty.1]
  | false =>
      have full : ((a.union b).union c).isEmpty = false := by
        rw [isEmpty_union, empty, Bool.false_and]
      apply eq_of_encloses_iff full
      · rwa [isEmpty_union, isEmpty_union, Bool.and_assoc, ← isEmpty_union, ← isEmpty_union] at full
      · intro d
        simp only [encloses_union_iff, and_assoc]

theorem union_comm (full : a.isEmpty = false ∨ b.isEmpty = false) : a.union b = b.union a := by
  have either : (a.isEmpty && b.isEmpty) = false := Bool.and_eq_false_iff.mpr full
  apply eq_of_encloses_iff
  · rw [isEmpty_union, either]
  · rw [isEmpty_union, Bool.and_comm, either]
  · intro d
    rw [encloses_union_iff, encloses_union_iff, and_comm]

end Union

section Words

/-- The right and the bottom edge are machine words. -/
def EndsInWords (a : Rectangle) : Prop := a.maxX < 2 ^ wordBits ∧ a.maxY < 2 ^ wordBits

/-- The right and the bottom edge, found in machine words. -/
def ends? (a : Rectangle) : Option (Nat × Nat) := do
  let right ← Word.add? a.x a.width
  let bottom ← Word.add? a.y a.height
  return (right, bottom)

/-- The rectangle between a corner and two edges, if these do not lie before the corner. -/
def between? (x y right bottom : Nat) : Option Rectangle := do
  let width ← right.psub x
  let height ← bottom.psub y
  return ⟨x, y, width, height⟩

/-- The union, found in machine words. -/
def unionInWords? (a b : Rectangle) : Option Rectangle :=
  if a.isEmpty then some b
  else if b.isEmpty then some a
  else do
    let (right, bottom) ← a.ends?
    let (right', bottom') ← b.ends?
    between? (min a.x b.x) (min a.y b.y) (max right right') (max bottom bottom')

/-- The intersection, found in machine words. -/
def intersectionInWords? (a b : Rectangle) : Option Rectangle := do
  let x := max a.x b.x
  let y := max a.y b.y
  let (right, bottom) ← a.ends?
  let (right', bottom') ← b.ends?
  if min right right' ≤ x || min bottom bottom' ≤ y then return ⟨x, y, 0, 0⟩
  else between? x y (min right right') (min bottom bottom')

theorem ends?_eq_some (word : a.EndsInWords) : a.ends? = some (a.maxX, a.maxY) := by
  rw [ends?, Word.add?_eq_some word.1, Word.add?_eq_some word.2]
  rfl

theorem between?_eq_some {x y right bottom : Nat} (wide : x ≤ right) (high : y ≤ bottom) :
    between? x y right bottom = some ⟨x, y, right - x, bottom - y⟩ := by
  rw [between?, Nat.psub_eq_sub wide, Nat.psub_eq_sub high]
  rfl

theorem unionInWords?_eq_some (word : a.EndsInWords) (word' : b.EndsInWords) :
    unionInWords? a b = some (a.union b) := by
  cases empty : a.isEmpty with
  | true => rw [unionInWords?, if_pos empty, union_of_isEmpty_left empty]
  | false =>
      cases empty' : b.isEmpty with
      | true =>
          rw [unionInWords?, empty, if_neg Bool.false_ne_true, if_pos empty',
            union_of_isEmpty_right empty empty']
      | false =>
          have wide := isEmpty_eq_false_iff.mp empty
          rw [unionInWords?, empty, empty', if_neg Bool.false_ne_true, if_neg Bool.false_ne_true,
            ends?_eq_some word, ends?_eq_some word', union_of_full empty empty']
          exact between?_eq_some (by omega) (by omega)

theorem intersectionInWords?_eq_some (word : a.EndsInWords) (word' : b.EndsInWords) :
    intersectionInWords? a b = some (a.intersection b) := by
  rw [intersectionInWords?, ends?_eq_some word, ends?_eq_some word']
  simp only [Option.bind_eq_bind, Option.bind_some, Bool.or_eq_true, decide_eq_true_iff]
  by_cases apart : min a.maxX b.maxX ≤ max a.x b.x ∨ min a.maxY b.maxY ≤ max a.y b.y
  · rw [intersection_of_disjoint apart, if_pos apart]
    rfl
  · obtain ⟨wide, high⟩ := not_or.mp apart
    rw [intersection_of_meeting (by omega) (by omega), if_neg apart]
    exact between?_eq_some (by omega) (by omega)

theorem endsInWords_union (word : a.EndsInWords) (word' : b.EndsInWords) :
    (a.union b).EndsInWords := by
  cases empty : a.isEmpty with
  | true => rwa [union_of_isEmpty_left empty]
  | false =>
      cases empty' : b.isEmpty with
      | true => rwa [union_of_isEmpty_right empty empty']
      | false =>
          have wide := isEmpty_eq_false_iff.mp empty
          rw [union_of_full empty empty']
          simp only [EndsInWords, maxX, maxY] at *
          omega

theorem endsInWords_intersection (word : a.EndsInWords) (word' : b.EndsInWords) :
    (a.intersection b).EndsInWords := by
  by_cases apart : min a.maxX b.maxX ≤ max a.x b.x ∨ min a.maxY b.maxY ≤ max a.y b.y
  · rw [intersection_of_disjoint apart]
    simp only [EndsInWords, maxX, maxY] at *
    omega
  · obtain ⟨wide, high⟩ := not_or.mp apart
    rw [intersection_of_meeting (by omega) (by omega)]
    simp only [EndsInWords, maxX, maxY] at *
    omega

end Words

/-- An intersection has the pixels that both rectangles have. A rectangle contains one with pixels
just when it has all of them. A union contains each operand with pixels and is contained in every
rectangle that does; it is associative, and commutative as soon as one operand has pixels. Where
the edges are machine words, both are found in machine words, without a difference below zero. -/
theorem operations_follow_pixels (a b c : Rectangle) :
    (a.intersection b).pixels = a.pixels ∩ b.pixels ∧
    (b.isEmpty = false → (a.contains b = true ↔ b.pixels ⊆ a.pixels)) ∧
    (a.isEmpty = false → (a.union b).contains a = true) ∧
    (b.isEmpty = false → (a.union b).contains b = true) ∧
    (a.isEmpty = false ∨ b.isEmpty = false → ∀ d : Rectangle,
      (a.isEmpty = false → d.contains a = true) → (b.isEmpty = false → d.contains b = true) →
        d.contains (a.union b) = true) ∧
    (a.union b).union c = a.union (b.union c) ∧
    (a.isEmpty = false ∨ b.isEmpty = false → a.union b = b.union a) ∧
    (a.EndsInWords → b.EndsInWords →
      unionInWords? a b = some (a.union b) ∧
      intersectionInWords? a b = some (a.intersection b) ∧
      (a.union b).EndsInWords ∧ (a.intersection b).EndsInWords) := by
  have least : (a.union b).Encloses a ∧ (a.union b).Encloses b :=
    encloses_union_iff.mp fun _ => contains_refl _
  refine ⟨pixels_intersection a b, contains_iff_pixels_subset, least.1, least.2,
    fun full d left right => ?_, union_assoc a b c, union_comm, fun word word' => ?_⟩
  · refine encloses_union_iff.mpr ⟨left, right⟩ ?_
    rw [isEmpty_union, Bool.and_eq_false_iff]
    exact full
  · exact ⟨unionInWords?_eq_some word word', intersectionInWords?_eq_some word word',
      endsInWords_union word word', endsInWords_intersection word word'⟩

/-- A rectangle at the far end of the machine words, one near the origin that it does not meet, and
one without width between them. -/
theorem operations_follow_pixels_far :
    let near : Rectangle := ⟨1, 2, 3, 4⟩
    let far : Rectangle := ⟨2 ^ 64 - 2, 3, 1, 6⟩
    let flat : Rectangle := ⟨5, 6, 0, 7⟩
    near.EndsInWords ∧ far.EndsInWords ∧
      unionInWords? near far = some ⟨1, 2, 2 ^ 64 - 2, 7⟩ ∧
      intersectionInWords? near far = some ⟨2 ^ 64 - 2, 3, 0, 0⟩ ∧
      near.pixels ∩ far.pixels = (⟨2 ^ 64 - 2, 3, 0, 0⟩ : Rectangle).pixels ∧
      (near.union far).contains far = true ∧ far.pixels ⊆ (near.union far).pixels ∧
      (near.union flat).union far = near.union (flat.union far) ∧
      near.union flat = flat.union near := by
  intro near far flat
  have word : near.EndsInWords := ⟨by decide, by decide⟩
  have word' : far.EndsInWords := ⟨by decide, by decide⟩
  obtain ⟨common, _, _, right, _, _, _, inWords⟩ := operations_follow_pixels near far flat
  obtain ⟨united, met, _⟩ := inWords word word'
  obtain ⟨_, subset, _⟩ := operations_follow_pixels (near.union far) far flat
  obtain ⟨_, _, _, _, _, assoc, _⟩ := operations_follow_pixels near flat far
  obtain ⟨_, _, _, _, _, _, comm, _⟩ := operations_follow_pixels near flat far
  have full : far.isEmpty = false := by decide
  exact ⟨word, word', united, met, common.symm, right full, (subset full).mp (right full), assoc,
    comm (.inl (by decide))⟩

end Rectangle
end RasterMosaic
