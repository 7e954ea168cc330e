import EcpAgreement.Curve.BuiltIn
import EcpAgreement.Curve.Explicit
import EcpAgreement.Secret
import EcpAgreement.Text.Quoted

/-!
# Curve groups

The two kinds of groups under one interface: those with arithmetic of their own
and those computed from explicit parameters. Points cross it as octet strings
and scalars in the width of an order, so a caller need not know which kind it
has.

On the wire a public value is the two coordinates of a point one after the other,
each in the width of a field element, with nothing before, between or after them.
A shared secret has the same form, or is the first coordinate alone. The point at
infinity has no encoding.
-/

namespace EcpAgreement

/-- A group of curve points with a generator. -/
inductive CurveGroup where
  /-- A group with arithmetic of its own. -/
  | builtIn (group : BuiltInGroup)
  /-- A group computed from explicit parameters. -/
  | explicit (group : ExplicitGroup)

/-- The group of a standard curve, when the library has arithmetic for it. -/
def NamedCurve.group (curve : NamedCurve) : Except CurveError CurveGroup :=
  if curve.isBuiltIn then
    .ok (.builtIn curve.builtInGroup)
  else
    .error (.notImplemented "built-in Brainpool arithmetic")

namespace CurveGroup

def name : CurveGroup → String
  | builtIn group => group.params.name
  | explicit group => group.name

/-- The octets of one coordinate. -/
def fieldElementLength : CurveGroup → Nat
  | builtIn group => group.params.fieldElementLength
  | explicit group => group.fieldElementLength

/-- The bits of the order. -/
def orderBits : CurveGroup → Nat
  | builtIn group => group.orderBits
  | explicit group => group.orderBits

/-- The octets of a scalar. -/
def orderLength (group : CurveGroup) : Nat :=
  Octets.octetsFor group.orderBits

def generator : CurveGroup → Point
  | builtIn group => group.generator
  | explicit group => group.generator

/-- The point with the given coordinates, if it is on the curve. -/
def pointOfAffine : CurveGroup → Octets → Octets → Except CurveError Point
  | builtIn group => group.pointOfAffine
  | explicit group => group.pointOfAffine

/-- Whether a point is on the curve. The point at infinity is never counted,
since it is no public value. -/
def contains : CurveGroup → Point → Bool
  | builtIn group => group.contains
  | explicit group => group.contains

/-- The scalar that a string writes: at least one, below the order. The string
may have any length. -/
def scalar : CurveGroup → Octets → Except CurveError Scalar
  | builtIn group => group.scalar
  | explicit group => group.scalar

/-- The multiple of a point by a scalar. -/
def mul : CurveGroup → Point → Scalar → Except CurveError Point
  | builtIn group => group.mul
  | explicit group => group.mul

/-- The multiple of the generator by a scalar. -/
def mulGenerator : CurveGroup → Scalar → Except CurveError Point
  | builtIn group => group.mulGenerator
  | explicit group => group.mulGenerator

/-- A description that shows the name of a curve group and the size of its
coordinates. -/
def describe (group : CurveGroup) : String :=
  "CurveGroup \x7b name: " ++ Text.quoted group.name
    ++ ", field_element_len: " ++ toString group.fieldElementLength ++ " \x7d"

/-! ## Points on the wire -/

/-- Reads a public value. It must be two field elements long and hold the
coordinates of a point on the curve. -/
def decode (group : CurveGroup) (value : Octets) : Except ExchangeError Point := do
  ExchangeError.requireLength "ECDH public value" value.length (2 * group.fieldElementLength)
  let x := value.take group.fieldElementLength
  let y := value.drop group.fieldElementLength
  (group.pointOfAffine x y).mapError fun _ => .invalidPoint "ECDH public value"

/-- Writes a point, both coordinates or the first alone. -/
def encode (group : CurveGroup) (point : Point) (xOnly : Bool) :
    Except ExchangeError Secret := do
  let (x, y) ← point.coordinates.mapError CurveError.toExchange
  let first ← (Secret.leftPadded x group.fieldElementLength).mapError
    fun _ => .arithmeticFailure "x-coordinate wider than field"
  if xOnly then
    return first
  else
    let second ← (Secret.leftPadded y group.fieldElementLength).mapError
      fun _ => .arithmeticFailure "y-coordinate wider than field"
    return first.extend second.octets

end CurveGroup

end EcpAgreement
