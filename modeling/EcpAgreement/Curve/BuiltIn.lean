import EcpAgreement.Curve.Affine
import EcpAgreement.Curve.Point
import EcpAgreement.Curve.Standard

/-!
# Groups with arithmetic of their own

A group in which a fixed curve does the arithmetic and a table gives it a name,
a width, a generator and the order that bounds scalars. For the groups of this
library both describe the same curve. Nothing requires it: where they differ,
the curve decides which coordinates and multipliers it takes, and the table
decides everything else.
-/

namespace EcpAgreement

/-- A curve with the table that describes it. -/
structure BuiltInGroup where
  /-- The name, the width, the generator and the order. -/
  params : DomainParams
  /-- The arithmetic. -/
  curve : AffineCurve

theorem NamedCurve.modulus_pos (curve : NamedCurve) : 0 < curve.params.p.value := by
  cases curve <;> decide +kernel

def NamedCurve.affineCurve (curve : NamedCurve) : AffineCurve :=
  .ofParams curve.params curve.modulus_pos

/-- The group of a standard curve, which its own table describes. -/
def NamedCurve.builtInGroup (curve : NamedCurve) : BuiltInGroup where
  params := curve.params
  curve := curve.affineCurve

namespace BuiltInGroup

/-- The bits of the order in the table. -/
def orderBits (group : BuiltInGroup) : Nat :=
  group.params.q.bitLength

/-- The generator in the table. -/
def generator (group : BuiltInGroup) : Point :=
  .affine group.params.x group.params.y

/-- Requires a string in the width of the curve's coordinates. -/
def requireWidth (group : BuiltInGroup) (s : Octets) : Except CurveError Unit :=
  CurveError.requireLength group.params.name s.length group.curve.width

/-- The residues of a point. They must be below the modulus and satisfy the
curve equation. -/
def residues (group : BuiltInGroup) (point : Point) :
    Except CurveError (Fin group.curve.size × Fin group.curve.size) := do
  let (x, y) ← point.coordinates
  group.requireWidth x
  group.requireWidth y
  if h : x.value < group.curve.size ∧ y.value < group.curve.size then
    let pair := (⟨x.value, h.1⟩, ⟨y.value, h.2⟩)
    if group.curve.satisfies pair.1 pair.2 then
      return pair
  throw (.invalidPoint group.params.name)

/-- The number of a scalar. It must be written in the width of the curve's
coordinates, and lie from one to the curve's order less one. -/
def multiplier (group : BuiltInGroup) (k : Scalar) : Except CurveError Nat := do
  group.requireWidth k.octets
  if 0 < k.octets.value ∧ k.octets.value < group.curve.order then
    return k.octets.value
  else
    throw (.scalarRange group.params.name)

def ofAffine (group : BuiltInGroup) : group.curve.Point → Point
  | .infinity => .identity
  | .finite x y =>
      .affine (Octets.ofNat group.curve.width x.val) (Octets.ofNat group.curve.width y.val)

/-- The point with the given coordinates, if it is on the curve. -/
def pointOfAffine (group : BuiltInGroup) (x y : Octets) : Except CurveError Point := do
  let _ ← group.residues (.affine x y)
  return .affine x y

/-- Whether a point is on the curve. The point at infinity is never counted. -/
def contains (group : BuiltInGroup) (point : Point) : Bool :=
  (group.residues point).isOk

/-- The scalar that a string writes, below the order in the table. -/
def scalar (group : BuiltInGroup) (s : Octets) : Except CurveError Scalar :=
  Scalar.belowOrder s group.params.q group.params.name

/-- The multiple of a point by a scalar. The point at infinity is its own
multiple, whatever the scalar. -/
def mul (group : BuiltInGroup) (point : Point) (k : Scalar) : Except CurveError Point :=
  match point with
  | .identity => .ok .identity
  | .affine _ _ => do
      let (x, y) ← group.residues point
      let n ← group.multiplier k
      return group.ofAffine (group.curve.multiple n (.finite x y))

/-- The multiple of the curve's own generator by a scalar. -/
def mulGenerator (group : BuiltInGroup) (k : Scalar) : Except CurveError Point := do
  let n ← group.multiplier k
  return group.ofAffine (group.curve.multiple n group.curve.generator)

end BuiltInGroup

end EcpAgreement
