import EcpAgreement.Octets.Basic

/-!
# Complete formulas on projective triples

Addition and doubling of points `(x : y : z)` on `y²z = x³ + axz² + bz³`,
written with ring operations only, and multiplication by a string of bits. No
formula divides or asks which case it is in, so the same steps serve equal
points, opposite points and the point at infinity `(0 : 1 : 0)`.

The formulas take `b3`, which is three times `b`. They are those for curves
without points of order two; on other curves the sum of two points that differ
by such a point comes out as `(0, 0, 0)`.
-/

namespace EcpAgreement

/-- Homogeneous coordinates. -/
structure Triple (R : Type) where
  /-- The first coordinate, times `z`. -/
  x : R
  /-- The second coordinate, times `z`. -/
  y : R
  /-- The scale. -/
  z : R
  deriving DecidableEq

namespace Triple

variable {R : Type} [Add R] [Sub R] [Mul R]

def add (a b3 : R) (p q : Triple R) : Triple R :=
  let xx := p.x * q.x
  let yy := p.y * q.y
  let zz := p.z * q.z
  let xy := (p.x + p.y) * (q.x + q.y) - (xx + yy)
  let xz := (p.x + p.z) * (q.x + q.z) - (xx + zz)
  let yz := (p.y + p.z) * (q.y + q.z) - (yy + zz)
  let shift := b3 * zz + a * xz
  let lower := yy - shift
  let upper := yy + shift
  let azz := a * zz
  let m := xx + xx + xx + azz
  let n := b3 * xz + a * (xx - azz)
  { x := xy * lower - yz * n
    y := lower * upper + m * n
    z := yz * upper + xy * m }

def double (a b3 : R) (p : Triple R) : Triple R :=
  let xx := p.x * p.x
  let yy := p.y * p.y
  let zz := p.z * p.z
  let xy := p.x * p.y + p.x * p.y
  let xz := p.x * p.z + p.x * p.z
  let yz := p.y * p.z + p.y * p.z
  let shift := b3 * zz + a * xz
  let lower := yy - shift
  let upper := yy + shift
  let azz := a * zz
  let m := xx + xx + xx + azz
  let n := a * (xx - azz) + b3 * xz
  let yyyz := yz * yy + yz * yy
  { x := xy * lower - yz * n
    y := lower * upper + m * n
    z := yyyz + yyyz }

/-- One round of a multiplication: doubles what has been gathered, and adds the
point once more when the bit is set. -/
def round (a b3 : R) (p : Triple R) (gathered : Triple R) (bit : Bool) : Triple R :=
  let doubled := double a b3 gathered
  let sum := add a b3 doubled p
  if bit then sum else doubled

/-- The multiple of a point by the number whose bits are given, the most
significant one first. -/
def multiple (p : Triple R) (a b3 : R) (infinity : Triple R) (bits : List Bool) : Triple R :=
  bits.foldl (round a b3 p) infinity

end Triple

end EcpAgreement
