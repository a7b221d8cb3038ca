/-!
Sizes and integer rectangles of pixels. A rectangle holds the points from its upper left corner
up to, and not including, its right and bottom edges; one with no width or no height is empty
wherever it lies.
-/

namespace RasterMosaic

structure Size where
  width : Nat
  height : Nat
deriving DecidableEq, Repr, Inhabited

namespace Size

def isEmpty (s : Size) : Bool := s.width == 0 || s.height == 0

def text (s : Size) : String := toString s.width ++ "x" ++ toString s.height

theorem isEmpty_eq_false_iff (s : Size) : s.isEmpty = false ↔ 0 < s.width ∧ 0 < s.height := by
  simp [isEmpty, Nat.pos_iff_ne_zero]

end Size

structure Rectangle where
  x : Nat
  y : Nat
  width : Nat
  height : Nat
deriving DecidableEq, Repr, Inhabited

namespace Rectangle

/-- The rectangle of a size, anchored at the origin. -/
def sized (s : Size) : Rectangle := ⟨0, 0, s.width, s.height⟩

def maxX (a : Rectangle) : Nat := a.x + a.width

def maxY (a : Rectangle) : Nat := a.y + a.height

def size (a : Rectangle) : Size := ⟨a.width, a.height⟩

def isEmpty (a : Rectangle) : Bool := a.size.isEmpty

def Covers (a : Rectangle) (px py : Nat) : Prop :=
  a.x ≤ px ∧ px < a.maxX ∧ a.y ≤ py ∧ py < a.maxY

instance (a : Rectangle) (px py : Nat) : Decidable (a.Covers px py) := by
  unfold Covers
  infer_instance

theorem isEmpty_eq_false_of_covers {a : Rectangle} {px py : Nat} (covers : a.Covers px py) :
    a.isEmpty = false := by
  obtain ⟨left, right, top, bottom⟩ := covers
  exact (Size.isEmpty_eq_false_iff a.size).mpr
    ⟨Nat.pos_of_lt_add_right (Nat.lt_of_le_of_lt left right),
      Nat.pos_of_lt_add_right (Nat.lt_of_le_of_lt top bottom)⟩

/-- The smallest rectangle around both. An empty operand gives way to the other. -/
def union (a b : Rectangle) : Rectangle :=
  if a.isEmpty then b
  else if b.isEmpty then a
  else
    let x := min a.x b.x
    let y := min a.y b.y
    ⟨x, y, max a.maxX b.maxX - x, max a.maxY b.maxY - y⟩

/-- The common part; a disjoint pair leaves an empty rectangle at the larger corner. -/
def intersection (a b : Rectangle) : Rectangle :=
  let x := max a.x b.x
  let y := max a.y b.y
  let right := min a.maxX b.maxX
  let bottom := min a.maxY b.maxY
  if right ≤ x || bottom ≤ y then ⟨x, y, 0, 0⟩ else ⟨x, y, right - x, bottom - y⟩

/-- The edges of `b` lie within those of `a`. -/
def contains (a b : Rectangle) : Bool :=
  a.x ≤ b.x && a.y ≤ b.y && b.maxX ≤ a.maxX && b.maxY ≤ a.maxY

def text (a : Rectangle) : String :=
  "[" ++ toString a.x ++ "," ++ toString a.y ++ " " ++ a.size.text ++ "]"

end Rectangle

end RasterMosaic
