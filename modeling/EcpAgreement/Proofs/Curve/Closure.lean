import EcpAgreement.Curve.Explicit
import EcpAgreement.Proofs.Curve.Admission

/-!
# Results stay on the curve

Whatever the modulus, the triples of a multiplication satisfy the homogeneous
equation of the curve.  If the last scale has an inverse, then dividing by it
gives two elements that satisfy the equation itself, and if it has none the
result is the point at infinity.  So every result is a point that the curve
admits again, written in the one way in which it is admitted.
-/

namespace EcpAgreement.PrimeCurve

variable {curve : PrimeCurve}

/-- The point at infinity, or a point of the curve with both coordinates in the
width of the modulus and below it. -/
def Canonical (curve : PrimeCurve) : Point → Prop
  | .identity => True
  | .affine x y =>
      x.length = curve.field.width ∧
        y.length = curve.field.width ∧
        x.value < curve.field.size ∧
        y.value < curve.field.size ∧
        curve.contains (.affine x y) = true

theorem canonical_of_contains {P : Point} (h : curve.contains P = true) :
    curve.Canonical P := by
  obtain ⟨x, y, hxy, rfl⟩ := contains_iff.mp h
  refine ⟨?_, ?_, ?_, ?_, h⟩
  · exact PrimeField.length_toOctets curve.field x
  · exact PrimeField.length_toOctets curve.field y
  · rw [PrimeField.value_toOctets]
    exact x.isLt
  · rw [PrimeField.value_toOctets]
    exact y.isLt

theorem canonical_iff {P : Point} :
    curve.Canonical P ↔ P = .identity ∨ curve.contains P = true := by
  constructor
  · intro h
    cases P with
    | identity => exact Or.inl rfl
    | affine x y => exact Or.inr h.2.2.2.2
  · rintro (rfl | h)
    · trivial
    · exact canonical_of_contains h

/-! ## Triples on the curve -/

/-- A triple of elements that satisfies the homogeneous equation of the curve. -/
def OnCurve (curve : PrimeCurve) (t : Triple curve.field.Element) : Prop :=
  (Triple.residues t).OnCurve (residue curve.a) (residue curve.b)

theorem onCurve_infinity (curve : PrimeCurve) : curve.OnCurve curve.infinity := by
  rw [OnCurve, residues_infinity]
  simp [Triple.OnCurve, Triple.cubic]

theorem onCurve_flat {x y : curve.field.Element} (h : curve.satisfies x y = true) :
    curve.OnCurve (curve.flat x y) := by
  have hxy := satisfies_iff.mp h
  rw [OnCurve, residues_flat]
  simp only [Triple.OnCurve, Triple.cubic]
  linear_combination hxy

theorem onCurve_of_lift {P : Point} {t : Triple curve.field.Element}
    (h : curve.lift P = .ok t) : curve.OnCurve t := by
  rcases lift_eq_ok_iff.mp h with ⟨-, rfl⟩ | ⟨x, y, hxy, -, rfl⟩
  · exact onCurve_infinity curve
  · exact onCurve_flat hxy

theorem onCurve_gather {t : Triple curve.field.Element} (h : curve.OnCurve t)
    (s : Octets) : curve.OnCurve (curve.gather t s) := by
  have hinfinity := onCurve_infinity curve
  rw [OnCurve, residues_infinity] at hinfinity
  rw [OnCurve, residues_gather]
  exact Triple.onCurve_multiple h hinfinity s.bits

/-- Dividing by an invertible scale, whatever else the modulus divides. -/
theorem satisfies_of_inverse? {t : Triple curve.field.Element} {w : curve.field.Element}
    (h : curve.OnCurve t) (hw : inverse? t.z = some w) :
    curve.satisfies (t.x * w) (t.y * w) = true := by
  have hone : residue t.z * residue w = 1 := residue_mul_inverse hw
  have heq : residue t.y ^ 2 * residue t.z =
      Triple.cubic (residue curve.a) (residue curve.b) (residue t.x) (residue t.z) := h
  rw [Triple.cubic] at heq
  rw [satisfies_iff, residue_mul, residue_mul]
  linear_combination residue w ^ 3 * heq +
    (-(residue t.y * residue w) ^ 2 +
      residue curve.a * (residue t.x * residue w) * (1 + residue t.z * residue w) +
      residue curve.b *
        (1 + residue t.z * residue w + (residue t.z * residue w) ^ 2)) * hone

theorem canonical_normalize {t : Triple curve.field.Element} (h : curve.OnCurve t) :
    curve.Canonical (curve.normalize t) := by
  rw [normalize]
  split
  · rename_i w hw
    apply canonical_of_contains
    exact contains_iff.mpr ⟨_, _, satisfies_of_inverse? h hw, rfl⟩
  · trivial

/-! ## Results -/

theorem canonical_of_multiple {P R : Point} {s : Octets}
    (h : curve.multiple P s = .ok R) : curve.Canonical R := by
  obtain ⟨t, hlift⟩ := exists_lift_of_multiple h
  rw [multiple_of_lift hlift] at h
  rw [← Except.ok.inj h]
  exact canonical_normalize (onCurve_gather (onCurve_of_lift hlift) s)

theorem exists_canonical_multiple {P : Point} (hP : curve.Canonical P) (s : Octets) :
    ∃ R, curve.multiple P s = .ok R ∧ curve.Canonical R := by
  obtain ⟨t, hlift⟩ := exists_lift_iff.mpr (canonical_iff.mp hP)
  refine ⟨_, multiple_of_lift hlift s, ?_⟩
  exact canonical_normalize (onCurve_gather (onCurve_of_lift hlift) s)

theorem eq_affine_of_point {x y : Octets} {R : Point} (h : curve.point x y = .ok R) :
    R = .affine x y ∧ curve.contains R = true := by
  simp only [point, CurveError.requireLength, CurveError.requireOnCurve] at h
  split at h
  · split at h
    · split at h
      · rename_i hcontains
        have hR : Point.affine x y = R := Except.ok.inj h
        rw [← hR]
        exact ⟨rfl, hcontains⟩
      · contradiction
    · contradiction
  · contradiction

theorem point_of_contains {x y : Octets} (h : curve.contains (.affine x y) = true) :
    curve.point x y = .ok (.affine x y) := by
  obtain ⟨hx, hy, -, -, -⟩ := canonical_of_contains h
  simp only [point, CurveError.requireLength, CurveError.requireOnCurve, hx, hy, h, if_true]
  rfl

end EcpAgreement.PrimeCurve
