import EcpAgreement.Curve.BuiltIn
import EcpAgreement.Proofs.Curve.ChordTangent
import EcpAgreement.Proofs.Curve.Ladder
import EcpAgreement.Proofs.Curve.Written

/-!
# Multiplication in groups with arithmetic of their own

A built-in group is coherent when its table and its curve describe the same
curve: the widths, the orders and the generators agree, and the curve is not
singular.  The standard tables are.  Over a prime modulus a coherent group takes
and gives written points of the group of its curve, and multiplies in it.
-/

namespace EcpAgreement

namespace BuiltInGroup

/-- The table and the curve of a group describe the same curve. -/
structure Coherent (group : BuiltInGroup) : Prop where
  width_eq : group.params.p.length = group.curve.width
  order_eq : group.params.q.value = group.curve.order
  orderLength_eq : Octets.octetsFor group.orderBits = group.curve.width
  size_lt : group.curve.size < 256 ^ group.curve.width
  two_lt_size : 2 < group.curve.size
  nonsingular : (4 * (group.curve.a.val * group.curve.a.val * group.curve.a.val) +
    27 * (group.curve.b.val * group.curve.b.val)) % group.curve.size ≠ 0
  generator_eq : group.generator = group.ofAffine group.curve.generator
  satisfies_generator : group.curve.satisfies group.curve.generatorX group.curve.generatorY = true

theorem coherent_builtInGroup (curve : NamedCurve) : curve.builtInGroup.Coherent where
  width_eq := rfl
  order_eq := rfl
  orderLength_eq := by cases curve <;> decide +kernel
  size_lt := by cases curve <;> decide +kernel
  two_lt_size := by cases curve <;> decide +kernel
  nonsingular := by cases curve <;> decide +kernel
  generator_eq := by cases curve <;> decide +kernel
  satisfies_generator := by cases curve <;> decide +kernel

variable {group : BuiltInGroup}

theorem Coherent.two_ne_zero (h : group.Coherent) : (2 : ZMod group.curve.size) ≠ 0 :=
  two_ne_zero_of_lt h.two_lt_size

theorem Coherent.discriminant_ne_zero (h : group.Coherent) :
    4 * residue group.curve.a ^ 3 + 27 * residue group.curve.b ^ 2 ≠ 0 :=
  residue_discriminant_ne_zero h.nonsingular

theorem multiplier_eq {k : Scalar} (hlength : k.octets.length = group.curve.width)
    (hpos : 0 < k.octets.value) (hlt : k.octets.value < group.curve.order) :
    group.multiplier k = .ok k.octets.value := by
  simp only [multiplier, requireWidth, CurveError.requireLength, hlength, if_true,
    if_pos (And.intro hpos hlt)]
  rfl

variable [Fact group.curve.size.Prime]

/-- A computed point is written as the point of the group that it is. -/
theorem ofAffine_ofPoint (A : group.curve.law.Point) :
    group.ofAffine (group.curve.ofPoint A) = writePoint group.curve.width A := by
  cases A with
  | zero => rfl
  | some x y h => rfl

/-- A written point is read as the point of the group that it is. -/
theorem Coherent.residues_write (h : group.Coherent) {x y : ZMod group.curve.size}
    (k : group.curve.law.Nonsingular x y) :
    group.residues (.affine (Octets.ofNat group.curve.width x.val)
      (Octets.ofNat group.curve.width y.val)) = .ok (represent x, represent y) := by
  have hx := Octets.value_ofNat_of_lt ((ZMod.val_lt x).trans h.size_lt)
  have hy := Octets.value_ofNat_of_lt ((ZMod.val_lt y).trans h.size_lt)
  have hcurve : group.curve.satisfies (represent x) (represent y) = true := by
    rw [AffineCurve.satisfies_iff, residue_represent, residue_represent]
    exact k.1
  have hlt : x.val < group.curve.size ∧ y.val < group.curve.size :=
    ⟨ZMod.val_lt x, ZMod.val_lt y⟩
  simp only [residues, Point.coordinates, requireWidth, CurveError.requireLength,
    Octets.length_ofNat, if_true, bind, Except.bind, hx, hy, dif_pos hlt]
  rw [represent, represent] at hcurve
  simp only [hcurve, if_true]
  rfl

theorem Coherent.pointOfAffine_write (h : group.Coherent) {A : group.curve.law.Point}
    {x y : Octets} (hA : writePoint group.curve.width A = .affine x y) :
    group.pointOfAffine x y = .ok (.affine x y) := by
  cases A with
  | zero => contradiction
  | some u v k =>
      obtain ⟨rfl, rfl⟩ := Point.affine.inj hA
      rw [pointOfAffine, h.residues_write k]
      rfl

theorem Coherent.mul_write (h : group.Coherent) (A : group.curve.law.Point) {k : Scalar}
    (hlength : k.octets.length = group.curve.width)
    (hpos : 0 < k.octets.value) (hlt : k.octets.value < group.curve.order) :
    group.mul (writePoint group.curve.width A) k =
      .ok (writePoint group.curve.width (k.octets.value • A)) := by
  cases A with
  | zero =>
      rw [← WeierstrassCurve.Affine.Point.zero_def, nsmul_zero]
      rfl
  | some x y k' =>
      have hmultiple := AffineCurve.multiple_ofPoint h.two_ne_zero k.octets.value
        (WeierstrassCurve.Affine.Point.some x y k')
      rw [← ofAffine_ofPoint (k.octets.value • _), ← hmultiple]
      simp only [writePoint, mul, h.residues_write k', multiplier_eq hlength hpos hlt]
      rfl

/-! ## The generator -/

/-- The generator as a point of the group. -/
def Coherent.point (h : group.Coherent) : group.curve.law.Point :=
  .some (residue group.curve.generatorX) (residue group.curve.generatorY)
    (nonsingular_shortWeierstrass h.two_ne_zero h.discriminant_ne_zero
      (AffineCurve.satisfies_iff.mp h.satisfies_generator))

theorem Coherent.ofPoint_point (h : group.Coherent) :
    group.curve.ofPoint h.point = group.curve.generator := by
  simp only [AffineCurve.ofPoint, point, represent_residue]
  rfl

theorem Coherent.write_point (h : group.Coherent) :
    writePoint group.curve.width h.point = group.generator := by
  rw [h.generator_eq, ← h.ofPoint_point, ofAffine_ofPoint]

theorem Coherent.mulGenerator_eq (h : group.Coherent) {k : Scalar}
    (hlength : k.octets.length = group.curve.width)
    (hpos : 0 < k.octets.value) (hlt : k.octets.value < group.curve.order) :
    group.mulGenerator k = .ok (writePoint group.curve.width (k.octets.value • h.point)) := by
  rw [← ofAffine_ofPoint, ← AffineCurve.multiple_ofPoint h.two_ne_zero, h.ofPoint_point]
  simp only [mulGenerator, multiplier_eq hlength hpos hlt]
  rfl

/-- The multiple of the generator by a string, as the complete formulas gather
it. -/
def gather (group : BuiltInGroup) (s : Octets) : Triple (Fin group.curve.size) :=
  Triple.multiple
    ⟨group.curve.generatorX, group.curve.generatorY, group.curve.constant 1⟩
    group.curve.a (group.curve.b + group.curve.b + group.curve.b)
    ⟨group.curve.constant 0, group.curve.constant 1, group.curve.constant 0⟩ s.bits

/-- The generator has the order in the table if that is prime and the complete
formulas take the multiple by it to infinity. -/
theorem Coherent.addOrderOf_point (h : group.Coherent)
    (hprime : group.params.q.value.Prime)
    (hz : (group.gather group.params.q).z.val = 0)
    (hy : (group.gather group.params.q).y.val ≠ 0) :
    addOrderOf h.point = group.params.q.value := by
  have hgather : Triple.residues (group.gather group.params.q) =
      Triple.multiple (Triple.ofPoint h.point) (residue group.curve.a)
        (3 * residue group.curve.b) ⟨0, 1, 0⟩ group.params.q.bits := by
    rw [gather, Triple.residues_multiple, residue_add_add_self]
    simp only [Triple.residues, AffineCurve.residue_constant, Nat.cast_zero, Nat.cast_one]
    rfl
  have hfact : Fact group.params.q.value.Prime := ⟨hprime⟩
  apply addOrderOf_eq_prime
  · rw [← Octets.bitsValue_bits]
    apply Triple.nsmul_eq_zero_of_multiple h.two_ne_zero h.discriminant_ne_zero
    · rw [← hgather]
      rw [← val_residue, ZMod.val_eq_zero] at hz
      exact hz
    · rw [← hgather]
      intro hzero
      apply hy
      rw [← val_residue, ZMod.val_eq_zero]
      exact hzero
  · exact WeierstrassCurve.Affine.Point.some_ne_zero _

end BuiltInGroup

end EcpAgreement
