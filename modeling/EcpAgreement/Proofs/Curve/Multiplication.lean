import EcpAgreement.Curve.Explicit
import EcpAgreement.Proofs.Curve.Admission
import EcpAgreement.Proofs.Curve.Written

/-!
# Multiplication on curves over a prime

Over a prime modulus the points that a curve admits are the written points of
the group of `y² = x³ + ax + b` (`exists_write_of_lift`), and a multiplication
computes in that group.  The bits of a string gather a multiple of the triple of
the product, and normalizing writes the product itself unless that multiple is
the zero triple, which is taken for the point at infinity.  For a point of odd
order it never is.
-/

namespace EcpAgreement

theorem PrimeField.two_ne_zero (field : PrimeField) : (2 : ZMod field.size) ≠ 0 :=
  two_ne_zero_of_lt (by have := field.three_lt_size; omega)

namespace PrimeCurve

variable {curve : PrimeCurve}

theorem discriminant_ne_zero (curve : PrimeCurve) :
    4 * residue curve.a ^ 3 + 27 * residue curve.b ^ 2 ≠ 0 :=
  residue_discriminant_ne_zero curve.nonsingular

/-! ## The points of the group -/

/-- The curve over the residues. -/
abbrev law (curve : PrimeCurve) : WeierstrassCurve.Affine (ZMod curve.field.size) :=
  shortWeierstrass (residue curve.a) (residue curve.b)

/-- A point of the group as the curve writes it. -/
def write (curve : PrimeCurve) (A : curve.law.Point) : Point :=
  writePoint curve.field.width A

theorem write_eq_identity_iff {A : curve.law.Point} :
    curve.write A = .identity ↔ A = 0 :=
  writePoint_eq_identity_iff

variable [Fact curve.field.size.Prime]

theorem write_injective : Function.Injective curve.write :=
  writePoint_injective curve.field.size_lt.le

theorem nonsingular_of_satisfies {x y : curve.field.Element}
    (h : curve.satisfies x y = true) :
    curve.law.Nonsingular (residue x) (residue y) := by
  have hequation : curve.law.Equation (residue x) (residue y) :=
    equation_shortWeierstrass.mpr (satisfies_iff.mp h)
  exact nonsingular_shortWeierstrass curve.field.two_ne_zero curve.discriminant_ne_zero
    hequation

theorem write_some {x y : ZMod curve.field.size} (h : curve.law.Nonsingular x y) :
    curve.write (.some x y h) =
      .affine (curve.field.toOctets (represent x)) (curve.field.toOctets (represent y)) := by
  rw [PrimeField.toOctets_eq_ofNat, PrimeField.toOctets_eq_ofNat, residue_represent,
    residue_represent]
  rfl

theorem satisfies_of_nonsingular {x y : ZMod curve.field.size}
    (h : curve.law.Nonsingular x y) :
    curve.satisfies (represent x) (represent y) = true := by
  rw [satisfies_iff, residue_represent, residue_represent]
  exact equation_shortWeierstrass.mp h.1

/-- What a curve lifts is the written form of a point of the group. -/
theorem exists_write_of_lift {P : Point} {t : Triple curve.field.Element}
    (h : curve.lift P = .ok t) : ∃ A : curve.law.Point, P = curve.write A := by
  rcases lift_eq_ok_iff.mp h with ⟨rfl, rfl⟩ | ⟨x, y, hxy, rfl, rfl⟩
  · exact ⟨0, rfl⟩
  · refine ⟨.some _ _ (nonsingular_of_satisfies hxy), ?_⟩
    rw [write_some, represent_residue, represent_residue]

/-- Every point of the group is lifted to its triple. -/
theorem exists_lift_write (A : curve.law.Point) :
    ∃ t, curve.lift (curve.write A) = .ok t ∧ Triple.residues t = Triple.ofPoint A := by
  cases A with
  | zero => exact ⟨curve.infinity, rfl, residues_infinity⟩
  | some x y h =>
      refine ⟨curve.flat (represent x) (represent y), ?_, ?_⟩
      · rw [write_some]
        exact lift_affine (satisfies_of_nonsingular h)
      · rw [residues_flat, residue_represent, residue_represent]
        rfl

theorem contains_of_write {A : curve.law.Point} {x y : Octets}
    (h : curve.write A = .affine x y) : curve.contains (.affine x y) = true := by
  cases A with
  | zero => contradiction
  | some u v k =>
      rw [← h, write_some]
      exact contains_iff.mpr ⟨_, _, satisfies_of_nonsingular k, rfl⟩

/-! ## Normalizing -/

theorem normalize_of_scale {t : Triple curve.field.Element} {A : curve.law.Point}
    {c : ZMod curve.field.size} (hc : c ≠ 0)
    (h : Triple.residues t = Triple.scale c (Triple.ofPoint A)) :
    curve.normalize t = curve.write A := by
  cases A with
  | zero =>
      have hz : residue t.z = c * 0 := congrArg Triple.z h
      exact normalize_of_z_eq_zero (hz.trans (mul_zero c))
  | some x y k =>
      have hx : residue t.x = c * x := congrArg Triple.x h
      have hy : residue t.y = c * y := congrArg Triple.y h
      have hz : residue t.z = c * 1 := congrArg Triple.z h
      rw [mul_one] at hz
      cases hw : inverse? t.z with
      | none =>
          have hzero := inverse?_eq_none_iff_residue.mp hw
          exact absurd (hz.symm.trans hzero) hc
      | some w =>
          have hinverse : residue w = c⁻¹ := by rw [residue_inverse hw, hz]
          have hfirst : residue (t.x * w) = x := by
            rw [residue_mul, hx, hinverse, mul_right_comm, mul_inv_cancel₀ hc, one_mul]
          have hsecond : residue (t.y * w) = y := by
            rw [residue_mul, hy, hinverse, mul_right_comm, mul_inv_cancel₀ hc, one_mul]
          simp only [normalize, hw, PrimeField.toOctets_eq_ofNat, hfirst, hsecond]
          rfl

theorem normalize_of_scale_zero {t : Triple curve.field.Element} {A : curve.law.Point}
    (h : Triple.residues t = Triple.scale 0 (Triple.ofPoint A)) :
    curve.normalize t = .identity := by
  rw [Triple.scale_zero] at h
  have hz : residue t.z = 0 := congrArg Triple.z h
  exact normalize_of_z_eq_zero hz

/-! ## Products -/

/-- A result that writes `n • A`, or is the point at infinity in its place.  For
a point of odd order the product itself is written. -/
def Multiplies (curve : PrimeCurve) [Fact curve.field.size.Prime] (A : curve.law.Point)
    (n : ℕ) (result : Except CurveError Point) : Prop :=
  ∃ R, result = .ok R ∧
    (R = curve.write (n • A) ∨ R = .identity) ∧
    (Odd (addOrderOf A) → R = curve.write (n • A) ∧ (R = .identity ↔ n • A = 0))

theorem multiplies_multiple (A : curve.law.Point) (s : Octets) :
    curve.Multiplies A s.value (curve.multiple (curve.write A) s) := by
  obtain ⟨t, hlift, ht⟩ := exists_lift_write A
  obtain ⟨c, hgathered, hc⟩ := Triple.gathers_multiple curve.field.two_ne_zero
    curve.discriminant_ne_zero A s.bits
  rw [Octets.bitsValue_bits] at hgathered
  rw [← ht, ← residues_gather] at hgathered
  refine ⟨curve.normalize (curve.gather t s), multiple_of_lift hlift s, ?_, ?_⟩
  · by_cases hzero : c = 0
    · right
      rw [hzero] at hgathered
      exact normalize_of_scale_zero hgathered
    · left
      exact normalize_of_scale hzero hgathered
  · intro hodd
    have hwrite := normalize_of_scale (hc hodd) hgathered
    refine ⟨hwrite, ?_⟩
    rw [hwrite]
    exact write_eq_identity_iff

/-- A point of odd order multiplies without exception. -/
theorem multiple_write {A : curve.law.Point} (hodd : Odd (addOrderOf A)) (s : Octets) :
    curve.multiple (curve.write A) s = .ok (curve.write (s.value • A)) := by
  obtain ⟨R, hmultiple, -, hexact⟩ := multiplies_multiple A s
  rw [hmultiple, (hexact hodd).1]

/-- A point of order two is taken to infinity by the multiplier one. -/
example : ((PrimeCurve.ofOctets [5] [1] [0]).bind fun curve =>
    curve.multiple (.affine [0] [0]) [1]).toOption = some .identity := by
  decide +kernel

end PrimeCurve

namespace ExplicitGroup

/-- On a curve over a prime, every point that lifts is the one written form of a
point of the group, and both multiplications compute in that group. -/
theorem multiplies_in_group (group : ExplicitGroup) [Fact group.curve.field.size.Prime]
    {P : Point} (hP : ∃ t, group.curve.lift P = .ok t) :
    ∃ A : group.curve.law.Point,
      P = group.curve.write A ∧
        (∀ B, P = group.curve.write B → B = A) ∧
        (∀ k, group.curve.Multiplies A k.octets.value (group.mul P k)) ∧
        group.curve.Multiplies A group.order.value (group.mulByOrder P) := by
  obtain ⟨t, hlift⟩ := hP
  obtain ⟨A, rfl⟩ := PrimeCurve.exists_write_of_lift hlift
  refine ⟨A, rfl, ?_, ?_, ?_⟩
  · intro B hB
    exact PrimeCurve.write_injective hB.symm
  · intro k
    exact PrimeCurve.multiplies_multiple A k.octets
  · exact PrimeCurve.multiplies_multiple A group.order

/-- The seven points of `y² = x³ + 2x + 1` over five elements. -/
def sevenPoints : ExplicitGroup where
  name := "y² = x³ + 2x + 1"
  curve :=
    { field :=
        { modulus := [5]
          size := 5
          value_modulus := rfl
          significantLength_modulus := by decide
          three_lt_size := by decide
          size_odd := rfl }
      a := ⟨2, by decide⟩
      b := ⟨1, by decide⟩
      nonsingular := by decide }
  generator := .affine [0] [1]
  order := [7]
  cofactor := 1
  cofactor_eq_one := rfl
  contains_generator := by decide
  significantLength_order := by decide
  one_lt_bitLength_order := by decide
  order_odd := rfl

instance : Fact sevenPoints.curve.field.size.Prime :=
  ⟨Nat.prime_five⟩

theorem sevenPoints_multiplies :
    (∃ t, sevenPoints.curve.lift sevenPoints.generator = .ok t) ∧
      ∃ A : sevenPoints.curve.law.Point,
        sevenPoints.generator = sevenPoints.curve.write A ∧
          (∀ B, sevenPoints.generator = sevenPoints.curve.write B → B = A) ∧
          (∀ k, sevenPoints.curve.Multiplies A k.octets.value
            (sevenPoints.mul sevenPoints.generator k)) ∧
          sevenPoints.curve.Multiplies A sevenPoints.order.value
            (sevenPoints.mulByOrder sevenPoints.generator) := by
  have hlift : ∃ t, sevenPoints.curve.lift sevenPoints.generator = .ok t :=
    PrimeCurve.exists_lift_iff.mpr (Or.inr sevenPoints.contains_generator)
  exact ⟨hlift, multiplies_in_group sevenPoints hlift⟩

end ExplicitGroup

end EcpAgreement
