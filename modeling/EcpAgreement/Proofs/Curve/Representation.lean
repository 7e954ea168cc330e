import EcpAgreement.Proofs.Curve.Closure
import EcpAgreement.Proofs.Curve.Multiplication

/-!
# Triples and the points that they represent

Over a prime modulus a triple represents a point when it is a nonzero multiple
of the point's own triple.  The triples that represent one are the solutions of
the homogeneous equation other than `(0, 0, 0)`, and each of them represents one
point only.

On such triples doubling represents the double, and addition represents the sum
with one kind of exception: where two points differ by a point of order two, the
sum comes out as `(0, 0, 0)`.  From there no formula leads back.

The two formulas take different steps, and their last coordinates are different
polynomials.  On the homogeneous equation of a curve doubling a triple and adding
it to itself give the same triple nevertheless, coordinate by coordinate and not
only up to a multiple.  For this neither the modulus need be prime nor the curve
nonsingular, and the scale may be anything: zero, a zero divisor, or that of
`(0, 0, 0)`.
-/

namespace EcpAgreement

namespace Triple

section Field

variable {F : Type} [Field F] {a b : F} {t u : Triple F}
  {A B : (shortWeierstrass a b).Point}

/-- A triple represents a point if it is a multiple of the triple of that point,
and not by zero. -/
def Represents (t : Triple F) (A : (shortWeierstrass a b).Point) : Prop :=
  ∃ c, c ≠ 0 ∧ t = scale c (ofPoint A)

/-- Scale zero leaves the point at infinity alone. -/
theorem exists_represents_of_z_eq_zero (h : OnCurve a b t) (hne : t ≠ ⟨0, 0, 0⟩)
    (hz : t.z = 0) : ∃ A : (shortWeierstrass a b).Point, t.Represents A := by
  obtain ⟨x, y, z⟩ := t
  obtain rfl : z = 0 := hz
  have hcube : x ^ 3 = 0 := by
    simp only [OnCurve, cubic] at h
    linear_combination -h
  obtain rfl : x = 0 := pow_eq_zero_iff (by decide) |>.mp hcube
  refine ⟨0, y, ?_, ?_⟩
  · rintro rfl
    exact hne rfl
  · rw [WeierstrassCurve.Affine.Point.zero_def]
    simp [scale, ofPoint]

theorem exists_represents_of_z_ne_zero (htwo : (2 : F) ≠ 0)
    (hdisc : 4 * a ^ 3 + 27 * b ^ 2 ≠ 0) (h : OnCurve a b t) (hz : t.z ≠ 0) :
    ∃ A : (shortWeierstrass a b).Point, t.Represents A := by
  have hequation : (shortWeierstrass a b).Equation (t.x / t.z) (t.y / t.z) := by
    rw [equation_shortWeierstrass]
    simp only [OnCurve, cubic] at h
    field_simp
    linear_combination h
  refine ⟨.some _ _ (nonsingular_shortWeierstrass htwo hdisc hequation), t.z, hz, ?_⟩
  simp only [scale, ofPoint, mul_div_cancel₀ _ hz, mul_one]

theorem Represents.unique (h : t.Represents A) (k : t.Represents B) : A = B := by
  obtain ⟨c, hc, rfl⟩ := h
  obtain ⟨d, hd, heq⟩ := k
  have hz : c * (ofPoint A).z = d * (ofPoint B).z := congrArg Triple.z heq
  cases A with
  | zero =>
      cases B with
      | zero => rfl
      | some u v k =>
          simp only [ofPoint, mul_zero, mul_one] at hz
          exact absurd hz.symm hd
  | some x y h =>
      cases B with
      | zero =>
          simp only [ofPoint, mul_zero, mul_one] at hz
          exact absurd hz hc
      | some u v k =>
          simp only [ofPoint, mul_one] at hz
          subst hz
          have hx : x = u := mul_left_cancel₀ hc (congrArg Triple.x heq)
          have hy : y = v := mul_left_cancel₀ hc (congrArg Triple.y heq)
          subst hx hy
          rfl

theorem Represents.onCurve (h : t.Represents A) : OnCurve a b t := by
  obtain ⟨c, -, rfl⟩ := h
  have hpoint := onCurve_ofPoint A
  simp only [OnCurve, cubic, scale] at hpoint ⊢
  linear_combination c ^ 3 * hpoint

theorem Represents.ne_zero (h : t.Represents A) : t ≠ ⟨0, 0, 0⟩ := by
  obtain ⟨c, hc, rfl⟩ := h
  intro hzero
  cases A with
  | zero =>
      have hy : c * 1 = 0 := congrArg Triple.y hzero
      exact hc (by rw [← mul_one c, hy])
  | some x y k =>
      have hz : c * 1 = 0 := congrArg Triple.z hzero
      exact hc (by rw [← mul_one c, hz])

/-- The triples with a point are the solutions other than zero. -/
theorem exists_represents_iff (htwo : (2 : F) ≠ 0) (hdisc : 4 * a ^ 3 + 27 * b ^ 2 ≠ 0) :
    (∃ A : (shortWeierstrass a b).Point, t.Represents A) ↔
      OnCurve a b t ∧ t ≠ ⟨0, 0, 0⟩ := by
  constructor
  · rintro ⟨A, hA⟩
    exact ⟨hA.onCurve, hA.ne_zero⟩
  · rintro ⟨hcurve, hne⟩
    by_cases hz : t.z = 0
    · exact exists_represents_of_z_eq_zero hcurve hne hz
    · exact exists_represents_of_z_ne_zero htwo hdisc hcurve hz

variable [DecidableEq F]

theorem Represents.double (htwo : (2 : F) ≠ 0) (hdisc : 4 * a ^ 3 + 27 * b ^ 2 ≠ 0)
    (h : t.Represents A) : (t.double a (3 * b)).Represents (2 • A) := by
  obtain ⟨c, hc, rfl⟩ := h
  obtain ⟨d, hdouble, hd⟩ := exists_scale_double htwo hdisc A
  refine ⟨c ^ 4 * d, mul_ne_zero (pow_ne_zero 4 hc) hd, ?_⟩
  rw [double_scale, hdouble, scale_scale, two_nsmul]

theorem Represents.add (htwo : (2 : F) ≠ 0) (hdisc : 4 * a ^ 3 + 27 * b ^ 2 ≠ 0)
    (h : t.Represents A) (k : u.Represents B) (hdiff : addOrderOf (A - B) ≠ 2) :
    (t.add a (3 * b) u).Represents (A + B) := by
  obtain ⟨c, hc, rfl⟩ := h
  obtain ⟨d, hd, rfl⟩ := k
  obtain ⟨e, hadd, he⟩ := exists_scale_add htwo hdisc A B
  refine ⟨(c * d) ^ 2 * e, ?_, ?_⟩
  · exact mul_ne_zero (pow_ne_zero 2 (mul_ne_zero hc hd)) (mt he.mp hdiff)
  · rw [add_scale, hadd, scale_scale]

theorem Represents.add_exceptional (htwo : (2 : F) ≠ 0)
    (hdisc : 4 * a ^ 3 + 27 * b ^ 2 ≠ 0) (h : t.Represents A) (k : u.Represents B)
    (hdiff : addOrderOf (A - B) = 2) : t.add a (3 * b) u = ⟨0, 0, 0⟩ := by
  obtain ⟨c, -, rfl⟩ := h
  obtain ⟨d, -, rfl⟩ := k
  obtain ⟨e, hadd, he⟩ := exists_scale_add htwo hdisc A B
  rw [add_scale, hadd, he.mpr hdiff, scale_zero, scale, mul_zero]

end Field

section Zero

variable {R : Type} [CommRing R] (a b3 : R) (t : Triple R)

theorem double_zeros : double a b3 (⟨0, 0, 0⟩ : Triple R) = ⟨0, 0, 0⟩ := by
  simp [double]

theorem zeros_add : add a b3 ⟨0, 0, 0⟩ t = ⟨0, 0, 0⟩ := by
  simp [add]

theorem add_zeros : add a b3 t ⟨0, 0, 0⟩ = ⟨0, 0, 0⟩ := by
  simp [add]

end Zero

theorem residues_injective {m : ℕ} : Function.Injective (residues (m := m)) := by
  intro t u h
  obtain ⟨x, y, z⟩ := t
  obtain ⟨x', y', z'⟩ := u
  obtain ⟨hx, hy, hz⟩ := Triple.mk.inj h
  obtain rfl : x = x' := residue_injective hx
  obtain rfl : y = y' := residue_injective hy
  obtain rfl : z = z' := residue_injective hz
  rfl

end Triple

namespace PrimeCurve

variable {curve : PrimeCurve} {t u : Triple curve.field.Element}

/-- The triple `(0, 0, 0)`, which represents no point. -/
def zeroTriple (curve : PrimeCurve) : Triple curve.field.Element where
  x := curve.field.zero
  y := curve.field.zero
  z := curve.field.zero

theorem residues_zeroTriple : Triple.residues curve.zeroTriple = ⟨0, 0, 0⟩ := by
  simp only [Triple.residues, zeroTriple, residue_zero]

theorem residues_eq_zero_iff : Triple.residues t = ⟨0, 0, 0⟩ ↔ t = curve.zeroTriple := by
  rw [← residues_zeroTriple, Triple.residues_injective.eq_iff]

theorem residues_double_eq :
    Triple.residues (Triple.double curve.a curve.b3 t) =
      Triple.double (residue curve.a) (3 * residue curve.b) (Triple.residues t) := by
  rw [Triple.residues_double, residue_b3]

theorem residues_add_eq :
    Triple.residues (Triple.add curve.a curve.b3 t u) =
      Triple.add (residue curve.a) (3 * residue curve.b) (Triple.residues t)
        (Triple.residues u) := by
  rw [Triple.residues_add, residue_b3]

section Prime

variable [Fact curve.field.size.Prime]

/-- A triple of elements represents the point that its residues represent. -/
def Represents (curve : PrimeCurve) [Fact curve.field.size.Prime]
    (t : Triple curve.field.Element) (A : curve.law.Point) : Prop :=
  (Triple.residues t).Represents A

/-- What the formulas compute, told by the points that triples represent. -/
structure FormulasExact (curve : PrimeCurve) [Fact curve.field.size.Prime] : Prop where
  /-- The triples with a point. -/
  exists_point_iff : ∀ t, (∃ A, curve.Represents t A) ↔
    curve.OnCurve t ∧ t ≠ curve.zeroTriple
  point_unique : ∀ t A B, curve.Represents t A → curve.Represents t B → A = B
  double : ∀ t A, curve.Represents t A →
    curve.Represents (Triple.double curve.a curve.b3 t) (2 • A)
  add : ∀ t u A B, curve.Represents t A → curve.Represents u B →
    addOrderOf (A - B) ≠ 2 → curve.Represents (Triple.add curve.a curve.b3 t u) (A + B)
  add_exceptional : ∀ t u A B, curve.Represents t A → curve.Represents u B →
    addOrderOf (A - B) = 2 → Triple.add curve.a curve.b3 t u = curve.zeroTriple
  double_zero : Triple.double curve.a curve.b3 curve.zeroTriple = curve.zeroTriple
  zero_add : ∀ t, Triple.add curve.a curve.b3 curve.zeroTriple t = curve.zeroTriple
  add_zero : ∀ t, Triple.add curve.a curve.b3 t curve.zeroTriple = curve.zeroTriple
  /-- Without points of order two addition has no exception. -/
  add_complete : (∀ A : curve.law.Point, addOrderOf A ≠ 2) →
    ∀ t u A B, curve.Represents t A → curve.Represents u B →
      curve.Represents (Triple.add curve.a curve.b3 t u) (A + B)

theorem represents_add {A B : curve.law.Point} (h : curve.Represents t A)
    (k : curve.Represents u B) (hdiff : addOrderOf (A - B) ≠ 2) :
    curve.Represents (Triple.add curve.a curve.b3 t u) (A + B) := by
  rw [Represents, residues_add_eq]
  exact Triple.Represents.add curve.field.two_ne_zero curve.discriminant_ne_zero h k hdiff

/-- On every curve over a prime the formulas compute the group law, with one
kind of exception. -/
theorem formulas_exact (curve : PrimeCurve) [Fact curve.field.size.Prime] :
    curve.FormulasExact where
  exists_point_iff t := by
    rw [OnCurve, ne_eq, ← residues_eq_zero_iff]
    exact Triple.exists_represents_iff curve.field.two_ne_zero curve.discriminant_ne_zero
  point_unique t A B h k := Triple.Represents.unique h k
  double t A h := by
    rw [Represents, residues_double_eq]
    exact Triple.Represents.double curve.field.two_ne_zero curve.discriminant_ne_zero h
  add t u A B h k hdiff := represents_add h k hdiff
  add_exceptional t u A B h k hdiff := by
    rw [← residues_eq_zero_iff, residues_add_eq]
    exact Triple.Represents.add_exceptional curve.field.two_ne_zero
      curve.discriminant_ne_zero h k hdiff
  double_zero := by
    rw [← residues_eq_zero_iff, residues_double_eq, residues_zeroTriple, Triple.double_zeros]
  zero_add t := by
    rw [← residues_eq_zero_iff, residues_add_eq, residues_zeroTriple, Triple.zeros_add]
  add_zero t := by
    rw [← residues_eq_zero_iff, residues_add_eq, residues_zeroTriple, Triple.add_zeros]
  add_complete hodd t u A B h k := represents_add h k (hodd (A - B))

end Prime

/-- The curve `y² = x³ + x` over five elements, with three points of order
two. -/
def threeAxisPoints : PrimeCurve where
  field := ExplicitGroup.sevenPoints.curve.field
  a := ⟨1, by decide⟩
  b := ⟨0, by decide⟩
  nonsingular := by decide

instance : Fact threeAxisPoints.field.size.Prime :=
  ⟨Nat.prime_five⟩

/-- The exception occurs: the points `(0, 0)` and infinity differ by a point of
order two. -/
theorem formulas_exact_threeAxisPoints :
    threeAxisPoints.field.size.Prime ∧ threeAxisPoints.FormulasExact ∧
      Triple.add threeAxisPoints.a threeAxisPoints.b3
        (threeAxisPoints.flat ⟨0, by decide⟩ ⟨0, by decide⟩) threeAxisPoints.infinity =
          threeAxisPoints.zeroTriple :=
  ⟨Nat.prime_five, formulas_exact threeAxisPoints, by decide⟩

end PrimeCurve

/-! ## Doubling and adding -/

namespace Triple

variable {m : ℕ} {a b : Fin m} {t : Triple (Fin m)}

theorem onCurve_residues_iff :
    (residues t).OnCurve (residue a) (residue b) ↔
      t.y * t.y * t.z = t.x * t.x * t.x + a * t.x * (t.z * t.z) + b * (t.z * t.z * t.z) := by
  rw [← residue_injective.eq_iff]
  simp only [OnCurve, cubic, residues, residue_add, residue_mul, pow_succ, pow_zero, one_mul]

end Triple

/-- Over every odd modulus above three and for all coefficients, doubling a triple on
the curve is adding it to itself. -/
theorem PrimeField.double_eq_add_self (field : PrimeField) (a b : field.Element)
    (t : Triple field.Element)
    (h : t.y * t.y * t.z =
      t.x * t.x * t.x + a * t.x * (t.z * t.z) + b * (t.z * t.z * t.z)) :
    Triple.double a (b + b + b) t = Triple.add a (b + b + b) t t := by
  have hcurve := Triple.onCurve_residues_iff.mpr h
  apply Triple.residues_injective
  rw [Triple.residues_double, Triple.residues_add, residue_add_add_self]
  exact Triple.double_eq_add hcurve

/-- The residues modulo fifteen. -/
def PrimeField.fifteen : PrimeField where
  modulus := [15]
  size := 15
  value_modulus := rfl
  significantLength_modulus := by decide
  three_lt_size := by decide
  size_odd := rfl

/-- The triple `(5, 1, 5)` on the singular curve `y² = x³ + 3x + 6`, whose scale has no
inverse modulo fifteen. -/
theorem PrimeField.double_eq_add_self_fifteen :
    (1 : Fin 15) * 1 * 5 = 5 * 5 * 5 + 3 * 5 * (5 * 5) + 6 * (5 * 5 * 5) ∧
      (Triple.double 3 (6 + 6 + 6) ⟨5, 1, 5⟩ : Triple (Fin 15)) =
        Triple.add 3 (6 + 6 + 6) ⟨5, 1, 5⟩ ⟨5, 1, 5⟩ := by
  have h : (1 : Fin 15) * 1 * 5 = 5 * 5 * 5 + 3 * 5 * (5 * 5) + 6 * (5 * 5 * 5) := by decide
  exact ⟨h, PrimeField.fifteen.double_eq_add_self (3 : Fin 15) (6 : Fin 15)
    (⟨5, 1, 5⟩ : Triple (Fin 15)) h⟩

end EcpAgreement
