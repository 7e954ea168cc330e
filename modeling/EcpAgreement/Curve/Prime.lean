import EcpAgreement.Curve.Point
import EcpAgreement.Curve.Triple
import EcpAgreement.Field.Inverse
import EcpAgreement.Field.Prime

/-!
# Curves over a prime field

Curves `y² = x³ + ax + b` given by three octet strings, the test whether a
point is on one, and multiples of points. Points come in and go out as octet
strings. Between, they are triples of residues, to which the complete formulas
apply.

The modulus need not be prime. Over a modulus with factors a triple may end
with a scale that has no inverse though it is not zero; like a zero scale, it
is taken for the point at infinity.
-/

namespace EcpAgreement

/-- A field with the coefficients of a nonsingular curve. -/
structure PrimeCurve where
  field : PrimeField
  a : field.Element
  b : field.Element
  nonsingular : (4 * (a.val * a.val * a.val) + 27 * (b.val * b.val)) % field.size ≠ 0

namespace PrimeCurve

/-- The discriminant `4a³ + 27b²`, from zero on by repeated addition. -/
def discriminant {n : Nat} (zero a b : Fin n) : Fin n :=
  let a3 := a * a * a
  let b2 := b * b
  Nat.repeat (· + b2) 27 (Nat.repeat (· + a3) 4 zero)

theorem val_repeat_add {n : Nat} (s c : Fin n) (k : Nat) :
    (Nat.repeat (· + c) k s).val = (s.val + k * c.val) % n := by
  induction k with
  | zero => rw [Nat.repeat, Nat.zero_mul, Nat.add_zero, Nat.mod_eq_of_lt s.isLt]
  | succ k ih => rw [Nat.repeat, Fin.val_add, ih, Nat.mod_add_mod, Nat.add_assoc, Nat.succ_mul]

theorem discriminant_eq_zero_iff {field : PrimeField} {a b : field.Element} :
    discriminant field.zero a b = field.zero ↔
      (4 * (a.val * a.val * a.val) + 27 * (b.val * b.val)) % field.size = 0 := by
  have hzero : field.zero.val = 0 := rfl
  have hval : (discriminant field.zero a b).val =
      (4 * (a.val * a.val * a.val) + 27 * (b.val * b.val)) % field.size := by
    simp only [discriminant, val_repeat_add, Fin.val_mul, hzero, Nat.zero_add, Nat.add_mod,
      Nat.mul_mod, Nat.mod_mod]
  rw [← hval, ← hzero]
  exact Fin.ext_iff

/-- The curve with the given modulus and coefficients. The coefficients must be
written as elements of the field, and the discriminant must not vanish. -/
def ofOctets (p a b : Octets) : Except CurveError PrimeCurve := do
  let field ← PrimeField.ofOctets p
  let some a := field.element? a
    | throw (.parameter "a" "not a canonical field element")
  let some b := field.element? b
    | throw (.parameter "b" "not a canonical field element")
  if h : discriminant field.zero a b ≠ field.zero then
    return { field := field, a := a, b := b, nonsingular := mt discriminant_eq_zero_iff.mpr h }
  else
    throw (.parameter "a, b" "curve is singular")

def fieldElementLength (curve : PrimeCurve) : Nat :=
  curve.field.width

/-- Three times the constant coefficient. -/
def b3 (curve : PrimeCurve) : curve.field.Element :=
  curve.b + curve.b + curve.b

/-! ## Points of the curve -/

/-- Whether two residues satisfy the curve equation. -/
def satisfies (curve : PrimeCurve) (x y : curve.field.Element) : Bool :=
  y * y == x * x * x + curve.a * x + curve.b

/-- Whether a point is on the curve. The point at infinity is never counted. -/
def contains (curve : PrimeCurve) (point : Point) : Bool :=
  match point with
  | .identity => false
  | .affine x y =>
      match curve.field.element? x, curve.field.element? y with
      | some x, some y => curve.satisfies x y
      | _, _ => false

/-- The point with the given coordinates, if it is on the curve. -/
def point (curve : PrimeCurve) (x y : Octets) : Except CurveError Point := do
  CurveError.requireLength "affine x-coordinate" x.length curve.field.width
  CurveError.requireLength "affine y-coordinate" y.length curve.field.width
  CurveError.requireOnCurve (curve.contains (.affine x y)) "affine point"
  return .affine x y

/-! ## Multiples -/

/-- The triple of the point at infinity. -/
def infinity (curve : PrimeCurve) : Triple curve.field.Element where
  x := curve.field.zero
  y := curve.field.one
  z := curve.field.zero

/-- The triple of a point. An affine point is checked once more before anything
is computed from it. -/
def lift (curve : PrimeCurve) (point : Point) :
    Except CurveError (Triple curve.field.Element) :=
  match point with
  | .identity => .ok curve.infinity
  | .affine x y => do
      let some x := curve.field.element? x
        | throw (.invalidPoint "x-coordinate")
      let some y := curve.field.element? y
        | throw (.invalidPoint "y-coordinate")
      CurveError.requireOnCurve (curve.satisfies x y) "affine point"
      return { x := x, y := y, z := curve.field.one }

/-- The point of a triple: the coordinates divided by the scale, or the point at
infinity when the scale has no inverse. -/
def normalize (curve : PrimeCurve) (t : Triple curve.field.Element) : Point :=
  match inverse? t.z with
  | some w => .affine (curve.field.toOctets (t.x * w)) (curve.field.toOctets (t.y * w))
  | none => .identity

/-- The multiple of a point by the number that a string writes. All bits of the
string take part, leading zeros included. -/
def multiple (curve : PrimeCurve) (point : Point) (s : Octets) : Except CurveError Point := do
  let t ← curve.lift point
  return curve.normalize (t.multiple curve.a curve.b3 curve.infinity s.bits)

end PrimeCurve

end EcpAgreement
