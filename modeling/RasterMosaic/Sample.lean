/-!
Samples and their no-data values. A sample holds no data when it is NaN or equals the no-data
value, and a no-data value that is itself NaN adds nothing. `widen` and `narrow` pass between
the width samples are stored in and the width no-data values are given in; both are defined on
sign, significand and exponent, and `narrow` rounds to the nearest, a tie to the even neighbour.
-/

namespace RasterMosaic

class Sample (T : Type) extends BEq T where
  isNaN : T → Bool

instance : Sample Float where
  isNaN := Float.isNaN

instance : Sample Float32 where
  isNaN := Float32.isNaN

/-- The sample holds no data, under an optional no-data value. -/
def lacksData {T : Type} [Sample T] (value : T) (noData : Option T) : Bool :=
  Sample.isNaN value || noData.any fun mark => !Sample.isNaN mark && value == mark

namespace Sample

/-- The stored sample that is no number. -/
def notANumber : Float32 := 0 / 0

open Float.Model

/-- The multiple of `2 ^ shift` nearest to `m`, counted in units of `2 ^ shift`; a tie goes to
the even count. -/
def roundShift (m shift : Nat) : Nat :=
  let quotient := m >>> shift
  let rest := m - quotient <<< shift
  let unit := 1 <<< shift
  if 2 * rest < unit then quotient
  else if 2 * rest = unit then quotient + quotient % 2
  else quotient + 1

/-- The same number in the wider format. -/
def widen (x : Float32) : Float :=
  .ofModel <| .pack <|
    match x.toModel.unpack with
    | .finite sign m e pos =>
        let shift := 52 - m.log2
        .finite sign (m <<< shift) (e - shift) (by
          rw [Nat.shiftLeft_eq]; exact Nat.mul_pos pos (Nat.two_pow_pos _))
    | other => other

/-- The nearest number of the narrower format; infinite beyond its range. -/
def narrow (x : Float) : Float32 :=
  .ofModel <| .pack <|
    match x.toModel.unpack with
    | .finite sign m e _ =>
        let unit := max (m.log2 + e - 23) (-149)
        let rounded := roundShift m (unit - e).toNat
        if h : rounded = 0 then .zero sign
        else if rounded.log2 < 24 then .finite sign rounded unit (Nat.pos_of_ne_zero h)
        else .finite sign (2 ^ 23) (unit + 1) (Nat.two_pow_pos 23)
    | other => other

end Sample

end RasterMosaic
