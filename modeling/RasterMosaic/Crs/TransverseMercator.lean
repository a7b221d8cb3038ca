import RasterMosaic.Crs.Registry
import RasterMosaic.Geometry.Point

/-!
The transverse Mercator projection of a zone, by sixth-order series in the third flattening of
the ellipsoid: between geographic and Gaussian latitude, and between the complex Gaussian
coordinates and the map plane. Series are summed backwards by Clenshaw's recurrence. Angles are
in radians.
-/

namespace RasterMosaic

namespace Angle

def pi : Float := 3.141592653589793

def ofDegrees (x : Float) : Float := x * (pi / 180)

def toDegrees (x : Float) : Float := x * 57.29577951308232

/-- A longitude brought within half a turn of zero, if it is not there already. -/
def adjusted (x : Float) : Float :=
  if x.abs >= pi + 1e-12 then
    let shifted := x + pi
    shifted - 2 * pi * (shifted / (2 * pi)).floor - pi
  else x

end Angle

namespace TransverseMercator

def flattening : Ellipsoid → Float
  | .wgs84 => 1 / 298.257223563
  | .grs80 => 1 / 298.257222101

/-- The semi-major axis, common to both ellipsoids. -/
def semiMajor : Float := 6378137

def centralScale : Float := 0.9996

/-- Series coefficients in powers of `n`, the term of the first harmonic first. -/
structure Series where
  toGaussian : List Float
  toGeographic : List Float
  toPlane : List Float
  fromPlane : List Float

/-- A polynomial by Horner's rule, lowest power first. -/
def horner (x : Float) : List Float → Float
  | [] => 0
  | [c] => c
  | c :: rest => c + x * horner x rest

def series (n : Float) : Series :=
  let terms (rows : List (List Float)) : List Float :=
    let n2 := n * n
    let powers := [n, n2, n2 * n, n2 * n2, n2 * n2 * n, n2 * n2 * n2]
    List.zipWith (fun power row => power * horner n row) powers rows
  { toGeographic := terms [
      [2, -2 / 3, -2, 116 / 45, 26 / 45, -2854 / 675],
      [7 / 3, -8 / 5, -227 / 45, 2704 / 315, 2323 / 945],
      [56 / 15, -136 / 35, -1262 / 105, 73814 / 2835],
      [4279 / 630, -332 / 35, -399572 / 14175],
      [4174 / 315, -144838 / 6237],
      [601676 / 22275]]
    toGaussian := terms [
      [-2, 2 / 3, 4 / 3, -82 / 45, 32 / 45, 4642 / 4725],
      [5 / 3, -16 / 15, -13 / 9, 904 / 315, -1522 / 945],
      [-26 / 15, 34 / 21, 8 / 5, -12686 / 2835],
      [1237 / 630, -12 / 5, -24832 / 14175],
      [-734 / 315, 109598 / 31185],
      [444337 / 155925]]
    fromPlane := terms [
      [-0.5, 2 / 3, -37 / 96, 1 / 360, 81 / 512, -96199 / 604800],
      [-1 / 48, -1 / 15, 437 / 1440, -46 / 105, 1118711 / 3870720],
      [-17 / 480, 37 / 840, 209 / 4480, -5569 / 90720],
      [-4397 / 161280, 11 / 504, 830251 / 7257600],
      [-4583 / 161280, 108847 / 3991680],
      [-20648693 / 638668800]]
    toPlane := terms [
      [0.5, -2 / 3, 5 / 16, 41 / 180, -127 / 288, 7891 / 37800],
      [13 / 48, -3 / 5, 557 / 1440, 281 / 630, -1983433 / 1935360],
      [61 / 240, -103 / 140, 15061 / 26880, 167603 / 181440],
      [49561 / 161280, -179 / 168, 6601661 / 7257600],
      [34729 / 80640, -3418889 / 1995840],
      [212378941 / 319334400]] }

def thirdFlattening (e : Ellipsoid) : Float := flattening e / (2 - flattening e)

/-- The radius of the rectifying circle in units of the semi-major axis, times the scale. -/
def meridianScale (n : Float) : Float :=
  let n2 := n * n
  centralScale / (1 + n) * (1 + n2 * (1 / 4 + n2 * (1 / 64 + n2 / 256)))

/-- `b` plus the sine series of its even multiples. -/
def addSines (coefficients : List Float) (b : Float) : Float :=
  let twiceCos := 2 * (2 * b).cos
  let zero : Float := 0
  let (h, _) := coefficients.foldr (fun c (h1, h2) => (-h2 + twiceCos * h1 + c, h1)) (zero, zero)
  b + h * (2 * b).sin

/-- A pair of coordinates on the Gaussian sphere or the rectified plane: along the central
meridian, and away from it. -/
structure Gaussian where
  north : Float
  east : Float

/-- The pair plus the complex sine series of its even multiples. -/
def addComplexSines (coefficients : List Float) (g : Gaussian) : Gaussian :=
  let (sinN, cosN) := ((2 * g.north).sin, (2 * g.north).cos)
  let (sinhE, coshE) := ((2 * g.east).sinh, (2 * g.east).cosh)
  let r := 2 * cosN * coshE
  let i := -2 * sinN * sinhE
  let zero : Float := 0
  let (hr, hi, _, _) := coefficients.foldr
    (fun c (hr1, hi1, hr2, hi2) =>
      (-hr2 + r * hr1 - i * hi1 + c, -hi2 + i * hr1 + r * hi1, hr1, hi1))
    (zero, zero, zero, zero)
  let r := sinN * coshE
  let i := cosN * sinhE
  ⟨g.north + (r * hr - i * hi), g.east + (r * hi + i * hr)⟩

/-- The distance from the central meridian within which the series holds. -/
def domainEdge : Float := 2.623395162778

def hypot (x y : Float) : Float := (x * x + y * y).sqrt

def falseEasting : Float := 500000

def falseNorthing : Hemisphere → Float
  | .north => 0
  | .south => 10000000

def centralMeridian (zone : Nat) : Float :=
  (Float.ofNat zone - 1 + 0.5) * Angle.pi / 30 - Angle.pi

def forward (zone : Nat) (hemisphere : Hemisphere) (ellipsoid : Ellipsoid) (lon lat : Float) :
    Except ProjectionError (MapPoint Float) :=
  let n := thirdFlattening ellipsoid
  let coefficients := series n
  let lam := Angle.adjusted (lon - centralMeridian zone)
  let phi := addSines coefficients.toGaussian lat
  let north := Float.atan2 phi.sin (lam.cos * phi.cos)
  let east := Float.atan2 (lam.sin * phi.cos) (hypot phi.sin (phi.cos * lam.cos))
  let g := addComplexSines coefficients.toPlane ⟨north, east.tan.asinh⟩
  if g.east.abs <= domainEdge then
    let radius := semiMajor * meridianScale n
    .ok ⟨radius * g.east + falseEasting, radius * g.north + falseNorthing hemisphere⟩
  else .error .outsideDomain

def backward (zone : Nat) (hemisphere : Hemisphere) (ellipsoid : Ellipsoid) (x y : Float) :
    Except ProjectionError (Float × Float) :=
  let n := thirdFlattening ellipsoid
  let coefficients := series n
  let north := (y - falseNorthing hemisphere) / semiMajor / meridianScale n
  let east := (x - falseEasting) / semiMajor / meridianScale n
  if east.abs <= domainEdge then
    let g := addComplexSines coefficients.fromPlane ⟨north, east⟩
    let (n, e) := (g.north, g.east.sinh.atan)
    let lam := Float.atan2 e.sin (e.cos * n.cos)
    let phi := Float.atan2 (n.sin * e.cos) (hypot e.sin (e.cos * n.cos))
    .ok (Angle.adjusted (lam + centralMeridian zone), addSines coefficients.toGeographic phi)
  else .error .inverseOutsideDomain

end TransverseMercator

end RasterMosaic
