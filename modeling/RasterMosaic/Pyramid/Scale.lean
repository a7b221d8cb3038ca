import RasterMosaic.Rectangle

/-!
Lengths along a pyramid. Level `l` halves a raster `l` times, rounding sizes up and offsets
down. From the sixty-fourth level on, more halvings than a machine word has bits, every length
is one pixel and every offset is the origin.
-/

namespace RasterMosaic

def wordBits : Nat := 64

/-- A length at a level, rounded up. -/
def lengthAtLevel (source level : Nat) : Nat :=
  if wordBits ≤ level then if 0 < source then 1 else 0
  else
    let size := source >>> level
    if size <<< level < source then size + 1 else size

/-- An offset at a level, rounded down. -/
def offsetAtLevel (offset level : Nat) : Nat :=
  if wordBits ≤ level then 0 else offset >>> level

def Size.atLevel (s : Size) (level : Nat) : Size :=
  ⟨lengthAtLevel s.width level, lengthAtLevel s.height level⟩

end RasterMosaic
