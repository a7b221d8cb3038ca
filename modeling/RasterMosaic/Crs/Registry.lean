import RasterMosaic.Crs.Code
import RasterMosaic.Text.Search

/-!
Coordinate reference systems and where they are found. The definition texts of the systems, and
the projections that such texts describe, are a registry's. Systems of longitude and latitude are
told by their texts and need no projection.
-/

namespace RasterMosaic

inductive Ellipsoid
  | wgs84
  | grs80
deriving DecidableEq, Repr

inductive Projection
  | utm (zone : Nat) (hemisphere : Hemisphere) (ellipsoid : Ellipsoid)
  | webMercator
deriving DecidableEq, Repr

/-- How map coordinates of a system relate to longitude and latitude. -/
inductive CoordinateKind
  | geographic
  | projected (projection : Projection)
  /-- The projection cannot be set up. -/
  | unavailable (cause : ProjectionError)

structure ReferenceSystem where
  epsg : Nat
  kind : CoordinateKind
  parameters : String

/-- A database of reference systems, and a library of the projections that its texts describe. -/
class CrsRegistry where
  /-- The definition text of the system with a number. -/
  parameters? : Nat → Option String
  /-- The projection that a definition text describes, if it can be set up. -/
  projection : String → Except ProjectionError Projection

namespace ReferenceSystem

def code (s : ReferenceSystem) : String := epsgCode s.epsg

def isGeographic (s : ReferenceSystem) : Bool := s.kind matches .geographic

/-- What the definition texts of systems of longitude and latitude say. -/
def geographicMark : String := "+proj=longlat"

/-- The system that a definition text describes. -/
def ofParameters [CrsRegistry] (epsg : Nat) (parameters : String) : ReferenceSystem where
  epsg := epsg
  kind :=
    if Text.mentions geographicMark.toList parameters.toList then .geographic
    else
      match CrsRegistry.projection parameters with
      | .ok projection => .projected projection
      | .error cause => .unavailable cause
  parameters := parameters

end ReferenceSystem

namespace Crs

/-- The system that a code names. -/
def find [CrsRegistry] (code : String) : Except CrsError ReferenceSystem := do
  let epsg ← epsgOfCode code
  match CrsRegistry.parameters? epsg with
  | some parameters => return .ofParameters epsg parameters
  | none => .error (.unknownSystem epsg)

end Crs

end RasterMosaic
