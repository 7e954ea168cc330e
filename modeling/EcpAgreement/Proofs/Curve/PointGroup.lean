import EcpAgreement.Proofs.Curve.Products
import Mathlib.AlgebraicGeometry.EllipticCurve.Affine.Point
import Mathlib.GroupTheory.OrderOfElement
import Mathlib.Tactic.FieldSimp

/-!
# The complete formulas and the group of the curve

Over a field in which two is not zero, the complete formulas compute the group
law of the curve `y² = x³ + ax + b`.  A point is shown by every nonzero multiple
of its triple `(x, y, 1)`, the point at infinity by those of `(0, 1, 0)`.

The sum of the triples of two points is a multiple of the triple of their sum,
and the multiplier vanishes exactly when the difference of the points has order
two (`exists_scale_add`).  So the sum is then `(0, 0, 0)`, and in every other
case it shows the sum of the points, whether they are equal, opposite or at
infinity.
-/

namespace EcpAgreement

open WeierstrassCurve.Affine

/-- The curve `y² = x³ + ax + b`. -/
def shortWeierstrass {R : Type} [CommRing R] (a b : R) : WeierstrassCurve.Affine R where
  a₁ := 0
  a₂ := 0
  a₃ := 0
  a₄ := a
  a₆ := b

section Curve

variable {R : Type} [CommRing R] {a b x y : R}

theorem negY_shortWeierstrass : (shortWeierstrass a b).negY x y = -y := by
  simp [shortWeierstrass, negY]

theorem equation_shortWeierstrass :
    (shortWeierstrass a b).Equation x y ↔ y ^ 2 = x ^ 3 + a * x + b := by
  simp [equation_iff, shortWeierstrass]

theorem discriminant_shortWeierstrass :
    (shortWeierstrass a b).Δ = -16 * (4 * a ^ 3 + 27 * b ^ 2) := by
  simp only [WeierstrassCurve.Δ, WeierstrassCurve.b₂, WeierstrassCurve.b₄,
    WeierstrassCurve.b₆, WeierstrassCurve.b₈, shortWeierstrass]
  ring

end Curve

/-- Every solution of the equation is a point, when the curve is not singular. -/
theorem nonsingular_shortWeierstrass {F : Type} [Field F] {a b x y : F}
    (htwo : (2 : F) ≠ 0) (hdisc : 4 * a ^ 3 + 27 * b ^ 2 ≠ 0)
    (h : (shortWeierstrass a b).Equation x y) : (shortWeierstrass a b).Nonsingular x y := by
  have hdiscriminant : (shortWeierstrass a b).Δ ≠ 0 := by
    rw [discriminant_shortWeierstrass]
    have hsixteen : (-16 : F) = -2 ^ 4 := by norm_num
    rw [hsixteen]
    exact mul_ne_zero (neg_ne_zero.mpr (pow_ne_zero 4 htwo)) hdisc
  exact (equation_iff_nonsingular_of_Δ_ne_zero hdiscriminant).mp h

/-- Points with one first coordinate that are not opposite are the same, and not
on the first axis. -/
theorem eq_of_not_opposite {F : Type} [Field F] {a b x y v : F}
    (h : (shortWeierstrass a b).Equation x y) (k : (shortWeierstrass a b).Equation x v)
    (hopposite : y + v ≠ 0) : y = v ∧ y ≠ 0 := by
  have hyv : y = v := by
    rcases Y_eq_of_X_eq h k rfl with heq | hneg
    · exact heq
    · rw [negY_shortWeierstrass] at hneg
      exact absurd (by rw [hneg, neg_add_cancel]) hopposite
  subst hyv
  refine ⟨rfl, ?_⟩
  rintro rfl
  exact hopposite (add_zero 0)

section Order

variable {F : Type} [Field F] [DecidableEq F] {a b : F}

/-- A finite point has order two exactly when it is on the first axis. -/
theorem addOrderOf_some_eq_two_iff (htwo : (2 : F) ≠ 0) {x y : F}
    (h : (shortWeierstrass a b).Nonsingular x y) :
    addOrderOf (Point.some x y h) = 2 ↔ y = 0 := by
  rw [addOrderOf_eq_prime_iff, two_nsmul, add_eq_zero_iff_eq_neg, Point.neg_some,
    Point.some.injEq, negY_shortWeierstrass]
  constructor
  · rintro ⟨⟨-, hy⟩, -⟩
    have hdouble : 2 * y = 0 := by linear_combination hy
    exact (mul_eq_zero.mp hdouble).resolve_left htwo
  · rintro rfl
    exact ⟨⟨rfl, neg_zero.symm⟩, Point.some_ne_zero h⟩

theorem addOrderOf_zero_ne_two :
    addOrderOf (0 : (shortWeierstrass a b).Point) ≠ 2 := by
  rw [addOrderOf_zero]
  decide

end Order

namespace Triple

/-- The triple with all coordinates multiplied by one number. -/
def scale {R : Type} [Mul R] (c : R) (t : Triple R) : Triple R where
  x := c * t.x
  y := c * t.y
  z := c * t.z

section Scale

variable {R : Type} [CommRing R] {a b : R}

theorem scale_one (t : Triple R) : scale 1 t = t := by
  simp [scale]

theorem scale_scale (c d : R) (t : Triple R) :
    scale c (scale d t) = scale (c * d) t := by
  simp [scale, mul_assoc]

theorem scale_zero (t : Triple R) : scale 0 t = ⟨0, 0, 0⟩ := by
  simp [scale]

theorem add_scale (c d : R) (p q : Triple R) :
    add a b (scale c p) (scale d q) = scale ((c * d) ^ 2) (add a b p q) := by
  simp only [add, scale, mk.injEq]
  refine ⟨?_, ?_, ?_⟩
  · ring
  · ring
  · ring

theorem double_scale (c : R) (p : Triple R) :
    double a b (scale c p) = scale (c ^ 4) (double a b p) := by
  simp only [double, scale, mk.injEq]
  refine ⟨?_, ?_, ?_⟩
  · ring
  · ring
  · ring

end Scale

variable {F : Type} [Field F] {a b : F}

/-- The triple with scale one of a finite point, and `(0, 1, 0)` at infinity. -/
def ofPoint : (shortWeierstrass a b).Point → Triple F
  | .zero => ⟨0, 1, 0⟩
  | .some x y _ => ⟨x, y, 1⟩

theorem onCurve_ofPoint (P : (shortWeierstrass a b).Point) :
    OnCurve a b (ofPoint P) := by
  cases P with
  | zero => simp [OnCurve, cubic, ofPoint]
  | some x y h =>
      have heq := equation_shortWeierstrass.mp h.1
      simp only [OnCurve, cubic, ofPoint]
      linear_combination heq

/-! ## Sums of triples, by the position of the points -/

theorem add_infinity (Q : (shortWeierstrass a b).Point) :
    add a (3 * b) ⟨0, 1, 0⟩ (ofPoint Q) = scale (ofPoint Q).y (ofPoint Q) := by
  cases Q with
  | zero => simp [add, scale, ofPoint]
  | some x y h => simp [add, scale, ofPoint, mul_comm]

section Chord

variable {R : Type} [CommRing R] {a b x y u v : R}

theorem add_chord_x (hxy : y ^ 2 = x ^ 3 + a * x + b) (huv : v ^ 2 = u ^ 3 + a * u + b) :
    (x - u) ^ 2 * (add a (3 * b) ⟨x, y, 1⟩ ⟨u, v, 1⟩).x =
      ((y - v) ^ 2 - (x + u) * (x - u) ^ 2) * (add a (3 * b) ⟨x, y, 1⟩ ⟨u, v, 1⟩).z := by
  simp only [add]
  linear_combination
    (-3 * x ^ 2 * u * v - 3 * x * u ^ 2 * y + 3 * x * u ^ 2 * v + 2 * u ^ 3 * v -
        a * x * y - a * x * v - 2 * a * u * y + 3 * a * u * v - 3 * b * y + 2 * b * v -
        y ^ 2 * v + y * v ^ 2 + v ^ 3) * hxy +
      (3 * x ^ 3 * y + x ^ 3 * v + 3 * x ^ 2 * u * y - 3 * x ^ 2 * u * v -
        3 * x * u ^ 2 * y + 4 * a * x * y - a * x * v - a * u * y - a * u * v +
        3 * b * y - 2 * b * v - y * v ^ 2) * huv

/-- The two points and the negated sum are on one line. -/
theorem add_chord_y (hxy : y ^ 2 = x ^ 3 + a * x + b) (huv : v ^ 2 = u ^ 3 + a * u + b) :
    (x - u) * (add a (3 * b) ⟨x, y, 1⟩ ⟨u, v, 1⟩).y =
      -((y - v) * ((add a (3 * b) ⟨x, y, 1⟩ ⟨u, v, 1⟩).x -
          x * (add a (3 * b) ⟨x, y, 1⟩ ⟨u, v, 1⟩).z) +
        (x - u) * y * (add a (3 * b) ⟨x, y, 1⟩ ⟨u, v, 1⟩).z) := by
  simp only [add]
  linear_combination
    (-3 * x * u ^ 3 - 3 * a * x * u + 3 * x * v ^ 2 - 3 * b * x - 3 * a * u ^ 2 -
        3 * u * v ^ 2 - 9 * b * u + a ^ 2) * hxy +
      (3 * x ^ 4 + 6 * a * x ^ 2 + 12 * b * x - a ^ 2) * huv

end Chord

/-- A point on the first axis, which is its own opposite. -/
theorem add_axis {x : F} (h : x ^ 3 + a * x + b = 0) :
    add a (3 * b) ⟨x, 0, 1⟩ ⟨x, 0, 1⟩ = scale (-(3 * x ^ 2 + a) ^ 3) ⟨0, 1, 0⟩ := by
  simp only [add, scale, mk.injEq]
  refine ⟨?_, ?_, ?_⟩
  · ring
  · linear_combination (27 * x ^ 3 + 3 * a * x - 9 * b) * h
  · ring

theorem tangent_ne_zero (hdisc : 4 * a ^ 3 + 27 * b ^ 2 ≠ 0) {x : F}
    (h : x ^ 3 + a * x + b = 0) : 3 * x ^ 2 + a ≠ 0 := by
  intro hzero
  apply hdisc
  have ha : a = -3 * x ^ 2 := by linear_combination hzero
  have hb : b = 2 * x ^ 3 := by linear_combination h - x * hzero
  rw [ha, hb]
  ring

theorem ne_negY (htwo : (2 : F) ≠ 0) {x y : F} (hy : y ≠ 0) :
    y ≠ (shortWeierstrass a b).negY x y := by
  rw [negY_shortWeierstrass]
  intro heq
  have hdouble : 2 * y = 0 := by linear_combination heq
  exact mul_ne_zero htwo hy hdouble

theorem eight_ne_zero (htwo : (2 : F) ≠ 0) : (8 : F) ≠ 0 := by
  have hpow : (8 : F) = 2 ^ 3 := by norm_num
  rw [hpow]
  exact pow_ne_zero 3 htwo

variable [DecidableEq F]

/-- The multiplier has the second coordinate of the difference as a factor. -/
theorem add_chord {x y u v : F} (hxu : x ≠ u)
    (h : (shortWeierstrass a b).Nonsingular x y)
    (k : (shortWeierstrass a b).Nonsingular u v) :
    add a (3 * b) ⟨x, y, 1⟩ ⟨u, v, 1⟩ =
      scale (-(x - u) ^ 3 *
          (shortWeierstrass a b).addY x u y ((shortWeierstrass a b).slope x u y (-v)))
        (ofPoint (Point.some x y h + Point.some u v k)) := by
  have hne : x - u ≠ 0 := sub_ne_zero.mpr hxu
  have hxy := equation_shortWeierstrass.mp h.1
  have huv := equation_shortWeierstrass.mp k.1
  have hx := add_chord_x hxy huv
  have hy := add_chord_y hxy huv
  have hz : (add a (3 * b) ⟨x, y, 1⟩ ⟨u, v, 1⟩).z =
      -(x - u) ^ 3 *
        (shortWeierstrass a b).addY x u y ((shortWeierstrass a b).slope x u y (-v)) := by
    simp only [add, addY, negAddY, addX, negY_shortWeierstrass, slope_of_X_ne hxu]
    simp only [shortWeierstrass]
    field_simp
    linear_combination (-y - 2 * v) * hxy + (-2 * y - v) * huv
  rw [← hz]
  generalize add a (3 * b) ⟨x, y, 1⟩ ⟨u, v, 1⟩ = t at hx hy
  obtain ⟨tx, ty, tz⟩ := t
  rw [Point.add_of_X_ne hxu]
  simp only [scale, ofPoint, mk.injEq, addY, negAddY, addX, negY_shortWeierstrass,
    slope_of_X_ne hxu] at hx hy ⊢
  simp only [shortWeierstrass]
  refine ⟨?_, ?_, ?_⟩
  · field_simp
    linear_combination hx
  · field_simp
    linear_combination (x - u) ^ 2 * hy - (y - v) * hx
  · ring

theorem slope_self (htwo : (2 : F) ≠ 0) {x y : F} (hy : y ≠ 0) :
    (shortWeierstrass a b).slope x x y y = (3 * x ^ 2 + a) / (2 * y) := by
  rw [slope_of_Y_ne rfl (ne_negY htwo hy), negY_shortWeierstrass]
  simp only [shortWeierstrass]
  congr 1
  · ring
  · ring

/-- The tangent at a point that is not on the first axis. -/
theorem add_tangent (htwo : (2 : F) ≠ 0) {x y : F} (hy : y ≠ 0)
    (h : (shortWeierstrass a b).Nonsingular x y) :
    add a (3 * b) ⟨x, y, 1⟩ ⟨x, y, 1⟩ =
      scale (8 * y ^ 3) (ofPoint (Point.some x y h + Point.some x y h)) := by
  have hxy := equation_shortWeierstrass.mp h.1
  rw [Point.add_self_of_Y_ne (ne_negY htwo hy)]
  simp only [add, scale, ofPoint, mk.injEq, addY, negAddY, addX, negY_shortWeierstrass,
    slope_self htwo hy]
  simp only [shortWeierstrass]
  refine ⟨?_, ?_, ?_⟩
  · field_simp
    linear_combination 72 * x * y * hxy
  · field_simp
    linear_combination 8 * (-27 * x ^ 3 - 3 * a * x + 9 * y ^ 2 + 9 * b) * hxy
  · linear_combination -6 * y * hxy

/-- Opposite points that are not on the first axis.  The multiplier has the
second coordinate of their difference as a factor. -/
theorem add_opposite (htwo : (2 : F) ≠ 0) {x y : F} (hy : y ≠ 0)
    (h : (shortWeierstrass a b).Nonsingular x y) :
    add a (3 * b) ⟨x, y, 1⟩ ⟨x, -y, 1⟩ =
      scale (8 * y ^ 3 *
          (shortWeierstrass a b).addY x x y ((shortWeierstrass a b).slope x x y y))
        ⟨0, 1, 0⟩ := by
  have hxy := equation_shortWeierstrass.mp h.1
  simp only [add, scale, mk.injEq, addY, negAddY, addX, negY_shortWeierstrass,
    slope_self htwo hy]
  simp only [shortWeierstrass]
  refine ⟨?_, ?_, ?_⟩
  · ring
  · field_simp
    linear_combination 8 * (-27 * x ^ 3 - 3 * a * x + 9 * y ^ 2 + 9 * b) * hxy
  · ring

/-! ## Sums of triples, for all points -/

theorem ofPoint_y_eq_zero_iff (htwo : (2 : F) ≠ 0) (P : (shortWeierstrass a b).Point) :
    (ofPoint P).y = 0 ↔ addOrderOf P = 2 := by
  cases P with
  | zero =>
      constructor
      · intro hone
        exact absurd hone one_ne_zero
      · intro horder
        exact absurd horder addOrderOf_zero_ne_two
  | some x y h => exact (addOrderOf_some_eq_two_iff htwo h).symm

/-- A point of order two is its own opposite; any other one differs from its opposite
by twice itself. -/
theorem exists_scale_add_opposite (htwo : (2 : F) ≠ 0)
    (hdisc : 4 * a ^ 3 + 27 * b ^ 2 ≠ 0) {x y : F}
    (h : (shortWeierstrass a b).Nonsingular x y)
    (k : (shortWeierstrass a b).Nonsingular x (-y)) :
    ∃ c, add a (3 * b) ⟨x, y, 1⟩ ⟨x, -y, 1⟩ =
        scale c (ofPoint (Point.some x y h + Point.some x (-y) k)) ∧
      (c = 0 ↔ addOrderOf (Point.some x y h - Point.some x (-y) k) = 2) := by
  have hneg : Point.some x (-y) k = -Point.some x y h := by
    rw [Point.neg_some, Point.some.injEq, negY_shortWeierstrass]
    exact ⟨rfl, rfl⟩
  rw [hneg, add_neg_cancel, sub_neg_eq_add]
  by_cases hy : y = 0
  · subst hy
    have hroot : x ^ 3 + a * x + b = 0 := by
      have hxy := equation_shortWeierstrass.mp h.1
      linear_combination -hxy
    refine ⟨-(3 * x ^ 2 + a) ^ 3, ?_, ?_⟩
    · rw [neg_zero]
      exact add_axis hroot
    · have hself : Point.some x 0 h + Point.some x 0 h = 0 :=
        Point.add_self_of_Y_eq (by rw [negY_shortWeierstrass, neg_zero])
      rw [hself]
      constructor
      · intro hzero
        exact absurd hzero
          (neg_ne_zero.mpr (pow_ne_zero 3 (tangent_ne_zero hdisc hroot)))
      · intro horder
        exact absurd horder addOrderOf_zero_ne_two
  · refine ⟨_, add_opposite htwo hy h, ?_⟩
    rw [mul_eq_zero, or_iff_right (mul_ne_zero (eight_ne_zero htwo) (pow_ne_zero 3 hy)),
      Point.add_self_of_Y_ne (ne_negY htwo hy), addOrderOf_some_eq_two_iff htwo]

/-- The sum of the triples of two points is a multiple of the triple of their
sum.  It vanishes exactly when the difference of the points has order two, which
happens for opposite points and for chords, but not for a tangent. -/
theorem exists_scale_add (htwo : (2 : F) ≠ 0) (hdisc : 4 * a ^ 3 + 27 * b ^ 2 ≠ 0)
    (P Q : (shortWeierstrass a b).Point) :
    ∃ c, add a (3 * b) (ofPoint P) (ofPoint Q) = scale c (ofPoint (P + Q)) ∧
      (c = 0 ↔ addOrderOf (P - Q) = 2) := by
  cases P with
  | zero =>
      refine ⟨(ofPoint Q).y, ?_, ?_⟩
      · rw [← Point.zero_def, zero_add]
        exact add_infinity Q
      · rw [← Point.zero_def, zero_sub, addOrderOf_neg]
        exact ofPoint_y_eq_zero_iff htwo Q
  | some x y h =>
      cases Q with
      | zero =>
          refine ⟨y, ?_, ?_⟩
          · rw [← Point.zero_def, add_zero, add_swap]
            exact add_infinity (.some x y h)
          · rw [← Point.zero_def, sub_zero]
            exact ofPoint_y_eq_zero_iff htwo (.some x y h)
      | some u v k =>
          by_cases hxu : x = u
          · subst hxu
            by_cases hopposite : y + v = 0
            · obtain rfl := eq_neg_of_add_eq_zero_right hopposite
              exact exists_scale_add_opposite htwo hdisc h k
            · obtain ⟨rfl, hy⟩ := eq_of_not_opposite h.1 k.1 hopposite
              refine ⟨8 * y ^ 3, add_tangent htwo hy h, ?_⟩
              constructor
              · intro hzero
                exact absurd hzero (mul_ne_zero (eight_ne_zero htwo) (pow_ne_zero 3 hy))
              · intro horder
                rw [sub_self] at horder
                exact absurd horder addOrderOf_zero_ne_two
          · refine ⟨_, add_chord hxu h k, ?_⟩
            have hcube : -(x - u) ^ 3 ≠ 0 :=
              neg_ne_zero.mpr (pow_ne_zero 3 (sub_ne_zero.mpr hxu))
            rw [mul_eq_zero, or_iff_right hcube, sub_eq_add_neg, Point.neg_some,
              Point.add_of_X_ne hxu, addOrderOf_some_eq_two_iff htwo,
              negY_shortWeierstrass]

/-- Doubling has no exception. -/
theorem exists_scale_double (htwo : (2 : F) ≠ 0) (hdisc : 4 * a ^ 3 + 27 * b ^ 2 ≠ 0)
    (P : (shortWeierstrass a b).Point) :
    ∃ c, double a (3 * b) (ofPoint P) = scale c (ofPoint (P + P)) ∧ c ≠ 0 := by
  obtain ⟨c, hsum, hc⟩ := exists_scale_add htwo hdisc P P
  refine ⟨c, ?_, ?_⟩
  · rw [double_eq_add (onCurve_ofPoint P)]
    exact hsum
  · intro hzero
    have horder := hc.mp hzero
    rw [sub_self] at horder
    exact addOrderOf_zero_ne_two horder

end Triple

end EcpAgreement
