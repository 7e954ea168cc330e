import EcpAgreement.Proofs.Curve.Closure

/-!
# Multiples of opposite points

Negating the second coordinate of a point negates that of each of its multiples,
on every curve and over every modulus.  No group law is used for this: the
modulus may be composite, and the curve may have points of order two.

The complete formulas are even or odd in each of their products.  When the point
is replaced by its opposite, the gathered triple therefore changes the signs of
its first and last coordinates and nothing else (`round_turned`), and a whole
multiplication does what one round does.  Such a triple has a scale with an
inverse exactly when the original one does, and dividing by it gives the
opposite point.
-/

namespace EcpAgreement

/-! ## Opposite triples -/

namespace Triple

section Opposite

variable {R : Type} [CommRing R] {a b3 : R}

/-- The triple of the opposite point. -/
def opposite (t : Triple R) : Triple R where
  x := t.x
  y := -t.y
  z := t.z

/-- The triple of the opposite point with all signs changed. -/
def turned (t : Triple R) : Triple R where
  x := -t.x
  y := t.y
  z := -t.z

theorem double_turned (t : Triple R) : double a b3 (turned t) = turned (double a b3 t) := by
  simp only [double, turned, mk.injEq]
  refine ⟨?_, ?_, ?_⟩
  · ring
  · ring
  · ring

theorem add_turned (t p : Triple R) :
    add a b3 (turned t) (opposite p) = turned (add a b3 t p) := by
  simp only [add, turned, opposite, mk.injEq]
  refine ⟨?_, ?_, ?_⟩
  · ring
  · ring
  · ring

theorem round_turned (p gathered : Triple R) (bit : Bool) :
    round a b3 (opposite p) (turned gathered) bit = turned (round a b3 p gathered bit) := by
  have hdouble : double a b3 (turned gathered) = turned (double a b3 gathered) :=
    double_turned gathered
  cases bit with
  | false => exact hdouble
  | true =>
      have hsum : add a b3 (turned (double a b3 gathered)) (opposite p) =
          turned (add a b3 (double a b3 gathered) p) := add_turned (double a b3 gathered) p
      rw [← hdouble] at hsum
      exact hsum

theorem multiple_opposite (p : Triple R) (bits : List Bool) :
    multiple (opposite p) a b3 ⟨0, 1, 0⟩ bits = turned (multiple p a b3 ⟨0, 1, 0⟩ bits) := by
  have hinfinity : (⟨0, 1, 0⟩ : Triple R) = turned ⟨0, 1, 0⟩ := by
    simp only [turned, neg_zero]
  calc
    multiple (opposite p) a b3 ⟨0, 1, 0⟩ bits
        = bits.foldl (round a b3 (opposite p)) (turned ⟨0, 1, 0⟩) := by
      rw [multiple, ← hinfinity]
    _ = turned (multiple p a b3 ⟨0, 1, 0⟩ bits) :=
      List.foldl_hom turned (round_turned p)

end Opposite

end Triple

/-! ## Opposite numbers -/

namespace PrimeField

/-- The string of the number with the opposite residue. -/
def negated (field : PrimeField) (s : Octets) : Octets :=
  Octets.ofNat field.width ((field.size - s.value) % field.size)

variable {field : PrimeField}

@[simp]
theorem length_negated (s : Octets) : (field.negated s).length = field.width :=
  Octets.length_ofNat _ _

theorem value_negated (s : Octets) :
    (field.negated s).value = (field.size - s.value) % field.size := by
  have hpos : 0 < field.size := Nat.lt_trans (by decide) field.three_lt_size
  exact Octets.value_ofNat_of_lt ((Nat.mod_lt _ hpos).trans field.size_lt)

theorem residue_zero_sub (e : field.Element) : residue (field.zero - e) = -residue e := by
  rw [residue_sub, residue_zero, zero_sub]

/-- Negating the string of an element gives that of the opposite element. -/
theorem negated_toOctets (e : field.Element) :
    field.negated (field.toOctets e) = field.toOctets (field.zero - e) := by
  apply Octets.eq_of_value_eq
  · rw [length_negated, length_toOctets]
  · rw [value_negated, value_toOctets, value_toOctets, Fin.val_sub]
    rfl

end PrimeField

/-! ## Opposite points -/

namespace PrimeCurve

variable {curve : PrimeCurve}

/-- The point with the second coordinate negated. -/
def opposite (curve : PrimeCurve) : Point → Point
  | .identity => .identity
  | .affine x y => .affine x (curve.field.negated y)

theorem satisfies_zero_sub {x y : curve.field.Element} (h : curve.satisfies x y = true) :
    curve.satisfies x (curve.field.zero - y) = true := by
  rw [satisfies_iff, PrimeField.residue_zero_sub, neg_sq]
  exact satisfies_iff.mp h

theorem contains_opposite {x y : Octets} (h : curve.contains (.affine x y) = true) :
    curve.contains (.affine x (curve.field.negated y)) = true := by
  obtain ⟨u, v, hsatisfies, hpoint⟩ := contains_iff.mp h
  obtain ⟨rfl, rfl⟩ := Point.affine.inj hpoint
  rw [PrimeField.negated_toOctets]
  exact contains_iff.mpr ⟨_, _, satisfies_zero_sub hsatisfies, rfl⟩

theorem residues_flat_zero_sub (x y : curve.field.Element) :
    Triple.residues (curve.flat x (curve.field.zero - y)) =
      Triple.opposite (Triple.residues (curve.flat x y)) := by
  rw [residues_flat, residues_flat, PrimeField.residue_zero_sub]
  rfl

/-- The opposite scale has the opposite inverse, if it has one at all. -/
theorem normalize_of_turned {t u : Triple curve.field.Element}
    (h : Triple.residues u = Triple.turned (Triple.residues t)) :
    curve.normalize u = curve.opposite (curve.normalize t) := by
  have hx : residue u.x = -residue t.x := congrArg Triple.x h
  have hy : residue u.y = residue t.y := congrArg Triple.y h
  have hz : residue u.z = -residue t.z := congrArg Triple.z h
  cases hw : inverse? t.z with
  | none =>
      have hnone : inverse? u.z = none := by
        rw [inverse?_eq_none_iff_not_isUnit, hz, IsUnit.neg_iff]
        exact inverse?_eq_none_iff_not_isUnit.mp hw
      rw [normalize, normalize, hnone, hw]
      rfl
  | some w =>
      cases hv : inverse? u.z with
      | none =>
          have hunit : IsUnit (residue t.z) := IsUnit.of_mul_eq_one _ (residue_mul_inverse hw)
          rw [inverse?_eq_none_iff_not_isUnit, hz, IsUnit.neg_iff] at hv
          contradiction
      | some v =>
          have hone := residue_mul_inverse hw
          have hone' := residue_mul_inverse hv
          rw [hz] at hone'
          have hinverse : residue v = -residue w := by
            linear_combination (-residue v) * hone - residue w * hone'
          have hfirst : u.x * v = t.x * w := by
            apply residue_injective
            rw [residue_mul, residue_mul, hx, hinverse, neg_mul_neg]
          have hsecond : u.y * v = curve.field.zero - t.y * w := by
            apply residue_injective
            rw [PrimeField.residue_zero_sub, residue_mul, residue_mul, hy, hinverse, mul_neg]
          simp only [normalize, hw, hv, opposite, hfirst, hsecond, PrimeField.negated_toOctets]

/-- The multiples of the opposite point are the opposite multiples. -/
theorem multiple_opposite {x y : Octets} {R : Point} {s : Octets}
    (h : curve.multiple (.affine x y) s = .ok R) :
    curve.multiple (.affine x (curve.field.negated y)) s = .ok (curve.opposite R) := by
  obtain ⟨t, hlift⟩ := exists_lift_of_multiple h
  rw [multiple_of_lift hlift] at h
  obtain rfl := Except.ok.inj h
  rcases lift_eq_ok_iff.mp hlift with ⟨hidentity, -⟩ | ⟨u, v, hsatisfies, hpoint, rfl⟩
  · contradiction
  · obtain ⟨rfl, rfl⟩ := Point.affine.inj hpoint
    have hgather : Triple.residues (curve.gather (curve.flat u (curve.field.zero - v)) s) =
        Triple.turned (Triple.residues (curve.gather (curve.flat u v) s)) := by
      rw [residues_gather, residues_gather, residues_flat_zero_sub, Triple.multiple_opposite]
    rw [PrimeField.negated_toOctets, multiple_of_lift (lift_affine (satisfies_zero_sub hsatisfies)),
      normalize_of_turned hgather]

end PrimeCurve

end EcpAgreement
