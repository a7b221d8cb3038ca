import RasterMosaic.Geocoding.Basic

/-!
What geocodings are derived from: anchors in a map, and positions of corners.
-/

namespace RasterMosaic

structure CornerPositions (K : Type) where
  lats : Corners K
  lons : Corners K

/-- What a scene's geocoding is derived from. -/
structure SceneReference (K : Type) where
  size : Size
  systemCode : Option String
  anchor : Option (MapAnchor K)
  corners : Option (CornerPositions K)
  /-- The pixel position of the first tie point. -/
  gridOffset : PixelPoint K

/-- What a band's geocoding is derived from. -/
structure BandReference (K : Type) where
  size : Size
  /-- The scene's code stands in for an absent one. -/
  systemCode : Option String
  anchor : Option (MapAnchor K)
  gridOffset : PixelPoint K

variable {K : Type} [Scalar K]

/-- The corners of a raster from the position of its lower left one and the pixel steps. -/
def CornerPositions.ofLowerLeft (origin : MapAnchor K) (size : Size) : CornerPositions K :=
  let up := (size.height : K) * origin.stepY
  let right := (size.width : K) * origin.stepX
  { lats := ⟨origin.y + up, origin.y + up, origin.y, origin.y⟩
    lons := ⟨origin.x, origin.x + right, origin.x, origin.x + right⟩ }

/-- The offset of a tie-point grid, in steps, from the spread of anchors; none along an axis
without a step. -/
def gridOffsetOfExtent (minX maxX minY maxY stepX stepY : K) : PixelPoint K :=
  let zero : K := (0 : Nat)
  { x := if stepX == zero then zero else (maxX - minX) / stepX
    y := if stepY == zero then zero else (maxY - minY) / stepY }

end RasterMosaic
