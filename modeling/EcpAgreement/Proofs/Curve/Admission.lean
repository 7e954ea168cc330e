import EcpAgreement.Curve.Prime
import EcpAgreement.Proofs.Curve.Ladder

/-!
# Points that a curve admits

An affine point is admitted when both strings write elements of the field that
satisfy the curve equation.  Since an element has exactly one string, such a
point is given by its two elements (`contains_iff`), or by two numbers below the
modulus (`contains_affine_iff`), and lifting succeeds on these points and on the
point at infinity, and on no others (`lift_eq_ok_iff`).

Nothing is assumed about the modulus in this file.
-/

namespace EcpAgreement

theorem PrimeField.toOctets_eq_ofNat (field : PrimeField) (e : field.Element) :
    field.toOctets e = Octets.ofNat field.width (residue e).val := by
  have hlt : e.val < 256 ^ field.width := e.isLt.trans field.size_lt
  apply Octets.eq_of_value_eq
  · rw [PrimeField.length_toOctets, Octets.length_ofNat]
  · rw [PrimeField.value_toOctets, val_residue, Octets.value_ofNat_of_lt hlt]

namespace PrimeCurve

variable {curve : PrimeCurve}

/-! ## The curve equation -/

theorem satisfies_iff {x y : curve.field.Element} :
    curve.satisfies x y = true ↔
      residue y ^ 2 =
        residue x ^ 3 + residue curve.a * residue x + residue curve.b := by
  rw [← equation_iff_residue, satisfies, beq_iff_eq]

theorem residue_b3 : residue curve.b3 = 3 * residue curve.b :=
  residue_add_add_self curve.b

theorem residues_infinity : Triple.residues curve.infinity = ⟨0, 1, 0⟩ := by
  simp only [Triple.residues, infinity, residue_zero, residue_one]

/-! ## Admitted points -/

theorem contains_iff {P : Point} :
    curve.contains P = true ↔
      ∃ x y, curve.satisfies x y = true ∧
        P = .affine (curve.field.toOctets x) (curve.field.toOctets y) := by
  constructor
  · intro h
    cases P with
    | identity => contradiction
    | affine s t =>
        rw [contains] at h
        split at h
        · rename_i x y hx hy
          refine ⟨x, y, h, ?_⟩
          rw [PrimeField.toOctets_of_element? hx, PrimeField.toOctets_of_element? hy]
        · contradiction
  · rintro ⟨x, y, h, rfl⟩
    simp only [contains, PrimeField.element?_toOctets]
    exact h

/-- Two strings in the width of the modulus that write a solution of the curve
equation in numbers below it. -/
structure Solution (curve : PrimeCurve) (x y : Octets) : Prop where
  length_x : x.length = curve.field.width
  length_y : y.length = curve.field.width
  x_lt : x.value < curve.field.size
  y_lt : y.value < curve.field.size
  equation : y.value ^ 2 ≡ x.value ^ 3 + curve.a.val * x.value + curve.b.val
    [MOD curve.field.size]

theorem contains_affine_iff {x y : Octets} :
    curve.contains (.affine x y) = true ↔ curve.Solution x y := by
  rw [contains_iff]
  constructor
  · rintro ⟨u, v, hsatisfies, hpoint⟩
    obtain ⟨rfl, rfl⟩ := Point.affine.inj hpoint
    have hequation := equation_iff_modEq.mp (beq_iff_eq.mp hsatisfies)
    refine ⟨PrimeField.length_toOctets _ u, PrimeField.length_toOctets _ v, ?_, ?_, ?_⟩
    all_goals simp only [PrimeField.value_toOctets]
    · exact u.isLt
    · exact v.isLt
    · exact hequation
  · intro h
    have hx : curve.field.element? x = some ⟨x.value, h.x_lt⟩ :=
      PrimeField.element?_eq_some_iff.mpr ⟨h.length_x, rfl⟩
    have hy : curve.field.element? y = some ⟨y.value, h.y_lt⟩ :=
      PrimeField.element?_eq_some_iff.mpr ⟨h.length_y, rfl⟩
    refine ⟨⟨x.value, h.x_lt⟩, ⟨y.value, h.y_lt⟩, ?_, ?_⟩
    · exact beq_iff_eq.mpr (equation_iff_modEq.mpr h.equation)
    · rw [PrimeField.toOctets_of_element? hx, PrimeField.toOctets_of_element? hy]

/-- The triple with scale one of two elements. -/
def flat (curve : PrimeCurve) (x y : curve.field.Element) : Triple curve.field.Element where
  x := x
  y := y
  z := curve.field.one

theorem lift_affine {x y : curve.field.Element} (h : curve.satisfies x y = true) :
    curve.lift (.affine (curve.field.toOctets x) (curve.field.toOctets y)) =
      .ok (curve.flat x y) := by
  simp only [lift, PrimeField.element?_toOctets, h, CurveError.requireOnCurve, if_true]
  rfl

theorem lift_eq_ok_iff {P : Point} {t : Triple curve.field.Element} :
    curve.lift P = .ok t ↔
      (P = .identity ∧ t = curve.infinity) ∨
        ∃ x y, curve.satisfies x y = true ∧
          P = .affine (curve.field.toOctets x) (curve.field.toOctets y) ∧
          t = curve.flat x y := by
  constructor
  · intro h
    cases P with
    | identity => exact Or.inl ⟨rfl, (Except.ok.inj h).symm⟩
    | affine s u =>
        right
        cases hx : curve.field.element? s with
        | none =>
            simp only [lift, hx] at h
            contradiction
        | some x =>
            cases hy : curve.field.element? u with
            | none =>
                simp only [lift, hx, hy] at h
                contradiction
            | some y =>
                by_cases hxy : curve.satisfies x y = true
                · have hs := PrimeField.toOctets_of_element? hx
                  have hu := PrimeField.toOctets_of_element? hy
                  rw [← hs, ← hu, lift_affine hxy] at h
                  refine ⟨x, y, hxy, ?_, (Except.ok.inj h).symm⟩
                  rw [hs, hu]
                · simp only [lift, hx, hy, CurveError.requireOnCurve, hxy] at h
                  contradiction
  · rintro (⟨rfl, rfl⟩ | ⟨x, y, hxy, rfl, rfl⟩)
    · rfl
    · exact lift_affine hxy

theorem exists_lift_iff {P : Point} :
    (∃ t, curve.lift P = .ok t) ↔ P = .identity ∨ curve.contains P = true := by
  simp only [lift_eq_ok_iff, contains_iff]
  constructor
  · rintro ⟨t, ⟨hP, -⟩ | ⟨x, y, hxy, hP, -⟩⟩
    · exact Or.inl hP
    · exact Or.inr ⟨x, y, hxy, hP⟩
  · rintro (hP | ⟨x, y, hxy, hP⟩)
    · exact ⟨curve.infinity, Or.inl ⟨hP, rfl⟩⟩
    · exact ⟨curve.flat x y, Or.inr ⟨x, y, hxy, hP, rfl⟩⟩

/-- The gathered triple of a multiplication that starts from nothing. -/
def gather (curve : PrimeCurve) (t : Triple curve.field.Element) (s : Octets) :
    Triple curve.field.Element :=
  t.multiple curve.a curve.b3 curve.infinity s.bits

theorem multiple_of_lift {P : Point} {t : Triple curve.field.Element}
    (h : curve.lift P = .ok t) (s : Octets) :
    curve.multiple P s = .ok (curve.normalize (curve.gather t s)) := by
  rw [multiple, h]
  rfl

theorem exists_lift_of_multiple {P R : Point} {s : Octets}
    (h : curve.multiple P s = .ok R) : ∃ t, curve.lift P = .ok t := by
  cases hlift : curve.lift P with
  | error e =>
      rw [multiple, hlift] at h
      contradiction
  | ok t => exact ⟨t, rfl⟩

theorem residues_gather (t : Triple curve.field.Element) (s : Octets) :
    Triple.residues (curve.gather t s) =
      Triple.multiple (Triple.residues t) (residue curve.a) (3 * residue curve.b) ⟨0, 1, 0⟩
        s.bits := by
  rw [gather, Triple.residues_multiple, residue_b3, residues_infinity]

theorem residues_flat (x y : curve.field.Element) :
    Triple.residues (curve.flat x y) = ⟨residue x, residue y, 1⟩ := by
  simp only [Triple.residues, flat, residue_one]

/-! ## The point at infinity -/

/-- A vanishing scale has no inverse, whatever the modulus. -/
theorem normalize_of_z_eq_zero {t : Triple curve.field.Element} (h : residue t.z = 0) :
    curve.normalize t = .identity := by
  have hone : Fact (1 < curve.field.size) := ⟨by have := curve.field.three_lt_size; omega⟩
  have hnone : inverse? t.z = none := by
    rw [inverse?_eq_none_iff_not_isUnit, h]
    exact not_isUnit_zero
  rw [normalize, hnone]

/-- The point at infinity is its own multiple. -/
theorem multiple_identity (curve : PrimeCurve) (s : Octets) :
    curve.multiple .identity s = .ok .identity := by
  have hlift : curve.lift .identity = .ok curve.infinity := rfl
  have hinfinity : (⟨0, 1, 0⟩ : Triple (ZMod curve.field.size)).AtInfinity := ⟨rfl, rfl⟩
  have hgather : (Triple.residues (curve.gather curve.infinity s)).AtInfinity := by
    rw [residues_gather, residues_infinity]
    exact Triple.atInfinity_multiple hinfinity hinfinity s.bits
  rw [multiple_of_lift hlift, normalize_of_z_eq_zero hgather.2]

end PrimeCurve

end EcpAgreement
