import EcpAgreement.Curve.Standard
import EcpAgreement.Field.Inverse

/-!
# The chord and tangent law

The group law of a curve `y² = x³ + ax + b` in affine coordinates: the sum of
two points is found on the line through them, or on the tangent when they are
equal. Multiples are found by halving the multiplier.

This law shares nothing with the complete formulas but the inverse. Its slopes
are quotients of residues, and a quotient by a residue without an inverse is
zero; over a prime modulus only zero has none, and no slope divides by zero.
-/

namespace EcpAgreement

/-- The point at infinity, or a pair of residues. -/
inductive AffinePoint (m : Nat) where
  | infinity
  | finite (x y : Fin m)
  deriving DecidableEq

/-- A curve with a generator and its order, as numbers. -/
structure AffineCurve where
  /-- The octets of one coordinate. -/
  width : Nat
  size : Nat
  size_pos : 0 < size
  a : Fin size
  b : Fin size
  generatorX : Fin size
  generatorY : Fin size
  order : Nat

namespace AffineCurve

/-- The curve that a table describes. -/
def ofParams (params : DomainParams) (h : 0 < params.p.value) : AffineCurve where
  width := params.p.length
  size := params.p.value
  size_pos := h
  a := ⟨params.a.value % params.p.value, Nat.mod_lt _ h⟩
  b := ⟨params.b.value % params.p.value, Nat.mod_lt _ h⟩
  generatorX := ⟨params.x.value % params.p.value, Nat.mod_lt _ h⟩
  generatorY := ⟨params.y.value % params.p.value, Nat.mod_lt _ h⟩
  order := params.q.value

/-- The points that the law computes with. -/
abbrev Point (curve : AffineCurve) : Type :=
  AffinePoint curve.size

def generator (curve : AffineCurve) : curve.Point :=
  .finite curve.generatorX curve.generatorY

/-- Whether two residues satisfy the curve equation. -/
def satisfies (curve : AffineCurve) (x y : Fin curve.size) : Bool :=
  y * y == x * x * x + curve.a * x + curve.b

/-- The quotient of two residues, zero when the divisor has no inverse. -/
def quotient {m : Nat} (n d : Fin m) : Fin m :=
  match inverse? d with
  | some w => n * w
  | none => ⟨0, n.pos⟩

/-- The slope of the tangent at a point. -/
def tangent (curve : AffineCurve) (x y : Fin curve.size) : Fin curve.size :=
  quotient (x * x + x * x + x * x + curve.a) (y + y)

/-- The slope of the chord through two points. -/
def chord (curve : AffineCurve) (x y u v : Fin curve.size) : Fin curve.size :=
  quotient (v - y) (u - x)

/-- The reflected third intersection of the curve with the line of the given
slope through `(x, y)` and a point with first coordinate `u`. -/
def reflected (curve : AffineCurve) (slope x y u : Fin curve.size) : curve.Point :=
  let w := slope * slope - x - u
  .finite w (slope * (x - w) - y)

/-- The sum of two points. Points with one first coordinate are equal or
opposite; opposite ones sum to infinity. -/
def add (curve : AffineCurve) : curve.Point → curve.Point → curve.Point
  | .infinity, q => q
  | p, .infinity => p
  | .finite x y, .finite u v =>
      if x = u then
        if (y + v).val = 0 then .infinity
        else curve.reflected (curve.tangent x y) x y u
      else
        curve.reflected (curve.chord x y u v) x y u

/-- The multiple of a point by a number: the multiple of its double by half the
number, and the point once more when the number is odd. -/
def multiple (curve : AffineCurve) (n : Nat) (p : curve.Point) : curve.Point :=
  if h : n = 0 then
    .infinity
  else
    have _ : n / 2 < n := Nat.div_lt_self (Nat.pos_of_ne_zero h) (by decide)
    let rest := curve.multiple (n / 2) (curve.add p p)
    if n % 2 = 1 then curve.add p rest else rest
termination_by n

end AffineCurve

end EcpAgreement
