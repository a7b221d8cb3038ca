import RasterMosaic.Config

/-!
The tile edge that suits a raster edge. A raster no longer than the longest edge allowed is one
tile. For a longer one the edges allowed are tried from the longest down, and the one that
leaves the fewest pixels of the last tile unused is taken, the longest of equals.
-/

namespace RasterMosaic

/-- Pixels of the last tile that lie beyond the raster. -/
def unusedEdge (size tile : Nat) : Nat := (size + tile - 1) / tile * tile - size

/-- The best of `best` and the edges `edge`, `edge - step`, … that are positive and not below
`lowest`. A tile without waste ends the search. -/
def searchTileEdge (size lowest step best edge : Nat) : Nat :=
  if edge < lowest ∨ edge = 0 then best
  else
    let better := if unusedEdge size edge < unusedEdge size best then edge else best
    if unusedEdge size edge = 0 ∨ step = 0 ∨ edge < step then better
    else searchTileEdge size lowest step better (edge - step)
termination_by edge
decreasing_by omega

/-- The tile edge for a raster edge. Without any tile edge allowed there is nothing to divide
a raster by. -/
def bestTileEdge (size : Nat) (config : Config) : Except ArithmeticFault Nat :=
  if size = 0 then .ok (max config.minTileSize 1)
  else if size ≤ config.maxTileSize then .ok size
  else if config.maxTileSize = 0 then .error .divisionByZero
  else
    .ok (searchTileEdge size config.minTileSize config.tileGranularity config.maxTileSize
      config.maxTileSize)

end RasterMosaic
