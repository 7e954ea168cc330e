import EcpAgreement.Curve.Triple
import Mathlib.Tactic.LinearCombination
import Mathlib.Tactic.Ring

/-!
# The complete formulas preserve the curve equation

Over every commutative ring, the sum of two triples that satisfy the
homogeneous curve equation satisfies it too, and doubling is adding a triple to
itself.  Nothing has to be invertible: the ring may have zero divisors, and the
triple `(0, 0, 0)` is no exception.

A sum depends on six products of the two triples, which do not change when the
triples are exchanged.  The two curve equations leave eight relations among
them (`Products.Lawful`), one for each monomial of degree three by which the
equations are multiplied crosswise.  The first and the last coordinate of the
sum arise from the vector `(xy, yz)` by the matrix `yy + K`, where `K` has
trace zero and square `spread`; so the cubic form of the curve is expanded
along that vector and its image under `K`, and each part is found from the
eight relations.
-/

namespace EcpAgreement.Triple

variable {R : Type} [CommRing R]

/-- The right-hand side of the curve equation, as a form of degree three. -/
def cubic (a b x z : R) : R :=
  x ^ 3 + a * x * z ^ 2 + b * z ^ 3

/-- The derivative of the cubic form at `(x, z)` in the direction `(u, w)`. -/
def polar (a b x z u w : R) : R :=
  (3 * x ^ 2 + a * z ^ 2) * u + (2 * a * x * z + 3 * b * z ^ 2) * w

theorem cubic_combination (a b c x z u w : R) :
    cubic a b (c * x + u) (c * z + w) =
      c ^ 3 * cubic a b x z + c ^ 2 * polar a b x z u w +
        c * polar a b u w x z + cubic a b u w := by
  simp only [cubic, polar]
  ring

/-- The homogeneous curve equation. -/
def OnCurve (a b : R) (t : Triple R) : Prop :=
  t.y ^ 2 * t.z = cubic a b t.x t.z

/-- Products of two triples that do not depend on their order. -/
structure Products (R : Type) where
  xx : R
  yy : R
  zz : R
  xy : R
  xz : R
  yz : R

/-- The symmetric products of two triples. -/
def products (p q : Triple R) : Products R where
  xx := p.x * q.x
  yy := p.y * q.y
  zz := p.z * q.z
  xy := p.x * q.y + q.x * p.y
  xz := p.x * q.z + q.x * p.z
  yz := p.y * q.z + q.y * p.z

namespace Products

def shift (a b : R) (s : Products R) : R :=
  3 * b * s.zz + a * s.xz

def tangent (a : R) (s : Products R) : R :=
  3 * s.xx + a * s.zz

def twist (a b : R) (s : Products R) : R :=
  a * s.xx + 3 * b * s.xz - a ^ 2 * s.zz

/-- The first coordinate of the image of `(xy, yz)` under the matrix of trace
zero with entries `-shift`, `-twist`, `tangent` and `shift`. -/
def turnX (a b : R) (s : Products R) : R :=
  -s.shift a b * s.xy - s.twist a b * s.yz

/-- The second coordinate of that image. -/
def turnZ (a b : R) (s : Products R) : R :=
  s.tangent a * s.xy + s.shift a b * s.yz

/-- The square of that matrix, which is a multiple of the identity. -/
def spread (a b : R) (s : Products R) : R :=
  s.shift a b ^ 2 - s.tangent a * s.twist a b

/-- The sum of two triples, computed from their symmetric products. -/
def sum (a b : R) (s : Products R) : Triple R where
  x := s.yy * s.xy + s.turnX a b
  y := s.yy ^ 2 - s.spread a b
  z := s.yy * s.yz + s.turnZ a b

/-- The relations that the curve equations leave among the products.  Each is
named for the monomial by which either equation is multiplied, evaluated at the
other triple. -/
structure Lawful (a b : R) (s : Products R) : Prop where
  yyy : cubic a b s.xy s.yz = s.yy * (s.sum a b).z
  yzz : s.yy * s.zz * s.yz =
    (s.xz ^ 2 - s.xx * s.zz + a * s.zz ^ 2) * s.xy +
      (b * s.zz ^ 2 - s.xx * s.xz) * s.yz
  xyz : s.yy * s.zz * s.xy =
    (s.xx * s.xz - b * s.zz ^ 2) * s.xy +
      (a * s.xx * s.zz + b * s.zz * s.xz - s.xx ^ 2) * s.yz
  xxy : s.yy * (s.xz * s.xy - s.xx * s.yz) =
    (s.xx ^ 2 - a * s.xx * s.zz - b * s.zz * s.xz) * s.xy +
      (a * s.xx * s.xz + b * (s.xz ^ 2 - s.xx * s.zz)) * s.yz
  yyz : 2 * s.yy ^ 2 * s.zz + s.yy * (s.xx * s.xz + a * s.zz * s.xz + 2 * b * s.zz ^ 2) =
    s.xz * s.xy ^ 2 + (a * s.zz - s.xx) * s.xy * s.yz + b * s.zz * s.yz ^ 2
  xyy : s.yy ^ 2 * s.xz + s.yy * (2 * s.xx ^ 2 + 2 * a * s.xx * s.zz + b * s.zz * s.xz) =
    s.xx * s.xy ^ 2 - b * s.zz * s.xy * s.yz + (a * s.xx + b * s.xz) * s.yz ^ 2
  zzz : s.zz * s.yz ^ 2 =
    s.xz ^ 3 - 3 * s.xx * s.xz * s.zz + a * s.xz * s.zz ^ 2 + 2 * b * s.zz ^ 3 +
      2 * s.yy * s.zz ^ 2
  xzz : s.zz * s.xy * s.yz =
    s.xx * (s.xz ^ 2 - 2 * s.xx * s.zz) + 2 * a * s.xx * s.zz ^ 2 + b * s.xz * s.zz ^ 2 +
      s.xz * s.yy * s.zz

end Products

theorem add_eq_sum (a b : R) (p q : Triple R) :
    add a (3 * b) p q = (products p q).sum a b := by
  simp only [add, products, Products.sum, Products.turnX, Products.turnZ,
    Products.spread, Products.shift, Products.tangent, Products.twist, mk.injEq]
  refine ⟨?_, ?_, ?_⟩
  · ring
  · ring
  · ring

theorem add_swap (a b : R) (p q : Triple R) :
    add a (3 * b) p q = add a (3 * b) q p := by
  simp only [add, mk.injEq]
  refine ⟨?_, ?_, ?_⟩
  · ring
  · ring
  · ring

theorem lawful_products {a b : R} {p q : Triple R}
    (hp : OnCurve a b p) (hq : OnCurve a b q) :
    (products p q).Lawful a b := by
  simp only [OnCurve, cubic] at hp hq
  constructor <;>
    simp only [cubic, products, Products.sum, Products.turnZ, Products.shift,
      Products.tangent]
  case yyy => linear_combination -q.y ^ 3 * hp - p.y ^ 3 * hq
  case yzz => linear_combination q.y * q.z ^ 2 * hp + p.y * p.z ^ 2 * hq
  case xyz => linear_combination q.x * q.y * q.z * hp + p.x * p.y * p.z * hq
  case xxy => linear_combination q.x ^ 2 * q.y * hp + p.x ^ 2 * p.y * hq
  case yyz => linear_combination q.y ^ 2 * q.z * hp + p.y ^ 2 * p.z * hq
  case xyy => linear_combination q.x * q.y ^ 2 * hp + p.x * p.y ^ 2 * hq
  case zzz => linear_combination q.z ^ 3 * hp + p.z ^ 3 * hq
  case xzz => linear_combination q.x * q.z ^ 2 * hp + p.x * p.z ^ 2 * hq

namespace Products

variable {a b : R} {s : Products R}

/-- The cubic form changes along the turned vector at the rate `spread` times
the last coordinate of the sum. -/
theorem Lawful.polar_turn (h : s.Lawful a b) :
    polar a b s.xy s.yz (s.turnX a b) (s.turnZ a b) =
      s.spread a b * (s.sum a b).z := by
  have hyyy := h.yyy
  simp only [cubic, polar, sum, spread, turnX, turnZ, shift, tangent, twist] at hyyy ⊢
  linear_combination
    (a * s.xz - 9 * b * s.zz) * hyyy +
    (a ^ 3 * s.zz - 12 * a ^ 2 * s.xx - 27 * a * b * s.xz - 27 * b * s.yy -
      27 * b ^ 2 * s.zz) * h.yzz +
    (6 * a ^ 2 * s.xz + 18 * a * b * s.zz - 8 * a * s.yy) * h.xyz -
    (9 * a * s.xx + 27 * b * s.xz) * h.xxy +
    (4 * a * s.xy + 9 * b * s.yz) * h.yyz +
    a * s.yz * h.xyy +
    (a ^ 3 * s.yz + 27 * a * b * s.xy + 27 * b ^ 2 * s.yz) * h.zzz +
    9 * a ^ 2 * s.xy * h.xzz

/-- What is left of the expansion of the cubic form at the sum. -/
theorem Lawful.cubic_turn (h : s.Lawful a b) :
    s.yy * (polar a b (s.turnX a b) (s.turnZ a b) s.xy s.yz +
        3 * s.spread a b * cubic a b s.xy s.yz) +
      cubic a b (s.turnX a b) (s.turnZ a b) =
        s.spread a b * polar a b s.xy s.yz (s.turnX a b) (s.turnZ a b) := by
  simp only [cubic, polar, spread, turnX, turnZ, shift, tangent, twist]
  linear_combination
    ((4 * a ^ 4 + 18 * a * b ^ 2) * s.zz * s.xy * s.yz -
      3 * a ^ 2 * b * s.zz * s.xy ^ 2 +
      (9 * a ^ 3 * b + 54 * b ^ 3) * s.zz * s.yz ^ 2 -
      2 * a ^ 3 * s.xz * s.xy ^ 2 - 6 * a ^ 2 * b * s.xz * s.xy * s.yz +
      (2 * a ^ 4 + 9 * a * b ^ 2) * s.xz * s.yz ^ 2) * h.yzz +
    (12 * a ^ 2 * s.xx * s.xy ^ 2 + 36 * a * b * s.xx * s.xy * s.yz -
      4 * a ^ 3 * s.xx * s.yz ^ 2 +
      (4 * a ^ 3 + 54 * b ^ 2) * s.zz * s.xy ^ 2 -
      12 * a ^ 2 * b * s.zz * s.xy * s.yz +
      (4 * a ^ 4 + 18 * a * b ^ 2) * s.zz * s.yz ^ 2 +
      27 * a * b * s.xz * s.xy ^ 2 +
      (4 * a ^ 3 + 108 * b ^ 2) * s.xz * s.xy * s.yz -
      9 * a ^ 2 * b * s.xz * s.yz ^ 2) * h.xyz +
    (12 * a ^ 2 * s.xx * s.xy * s.yz - 27 * b * s.xx * s.xy ^ 2 +
      9 * a * b * s.xx * s.yz ^ 2 -
      (8 * a ^ 3 + 54 * b ^ 2) * s.zz * s.xy * s.yz +
      6 * a ^ 2 * s.xz * s.xy ^ 2 + 18 * a * b * s.xz * s.xy * s.yz +
      (2 * a ^ 3 + 27 * b ^ 2) * s.xz * s.yz ^ 2) * h.xxy

theorem Lawful.onCurve_sum (h : s.Lawful a b) : OnCurve a b (s.sum a b) := by
  have hyyy := h.yyy
  have hpolar := h.polar_turn
  have hcubic := h.cubic_turn
  have hexpand := cubic_combination a b s.yy s.xy s.yz (s.turnX a b) (s.turnZ a b)
  have hz : (s.sum a b).z = s.yy * s.yz + s.turnZ a b := rfl
  have hy : (s.sum a b).y = s.yy ^ 2 - s.spread a b := rfl
  have hx : (s.sum a b).x = s.yy * s.xy + s.turnX a b := rfl
  rw [OnCurve, hx, hy]
  rw [← hz] at hexpand
  linear_combination
    -hexpand - (s.yy ^ 3 - 3 * s.yy * s.spread a b) * hyyy -
      (s.yy ^ 2 + s.spread a b) * hpolar - hcubic

end Products

/-- The sum of two triples on the curve is on the curve. -/
theorem onCurve_add {a b : R} {p q : Triple R}
    (hp : OnCurve a b p) (hq : OnCurve a b q) :
    OnCurve a b (add a (3 * b) p q) := by
  rw [add_eq_sum]
  exact (lawful_products hp hq).onCurve_sum

/-- The last coordinates of the two formulas agree only on the curve, the
others always. -/
theorem double_eq_add {a b : R} {t : Triple R} (h : OnCurve a b t) :
    double a (3 * b) t = add a (3 * b) t t := by
  simp only [OnCurve, cubic] at h
  simp only [double, add, mk.injEq]
  refine ⟨?_, ?_, ?_⟩
  · ring
  · ring
  · linear_combination 6 * t.y * h

theorem onCurve_double {a b : R} {t : Triple R} (h : OnCurve a b t) :
    OnCurve a b (double a (3 * b) t) := by
  rw [double_eq_add h]
  exact onCurve_add h h

end EcpAgreement.Triple
