import EcpAgreement.Proofs.Curve.Multiplication
import EcpAgreement.Proofs.Group.Stages
import EcpAgreement.Proofs.Random.Attempts

/-!
# Scalars are numbers below the order

A group reads a string as a scalar exactly when the string writes a number from
one to the order less one.  Leading zeros count neither in the string nor in the
order that the group was made with, and the scalar is the one string in the width
of the order that writes the number.  So a scalar stands for a number, and it is
what is read from its own octets.
-/

namespace EcpAgreement

namespace CurveGroup

variable {group : CurveGroup} {s t : Octets} {k : Scalar}

/-- How a group with a name and an order reads scalars, told by numbers. -/
structure ReadsBelow (group : CurveGroup) (name : String) (q : Octets) : Prop where
  accepted_iff : ∀ s, (∃ k, group.scalar s = .ok k) ↔
    1 ≤ Octets.value s ∧ Octets.value s ≤ q.value - 1
  refused_iff : ∀ s, group.scalar s = .error (.scalarRange name) ↔
    ¬(1 ≤ Octets.value s ∧ Octets.value s ≤ q.value - 1)
  written : ∀ s k, group.scalar s = .ok k →
    k.octets.length = group.orderLength ∧ k.octets.value = Octets.value s
  same_iff : ∀ s t k, group.scalar s = .ok k →
    (group.scalar t = .ok k ↔ Octets.value t = Octets.value s)
  reread : ∀ s k, group.scalar s = .ok k → group.scalar k.octets = .ok k

theorem range_iff (n order : ℕ) : 1 ≤ n ∧ n ≤ order - 1 ↔ 0 < n ∧ n < order := by
  omega

/-- Reading asks for the number alone. -/
theorem scalar_of_value_eq (hs : group.scalar s = .ok k)
    (h : Octets.value t = Octets.value s) : group.scalar t = .ok k := by
  rw [scalar_eq_ok_iff] at hs ⊢
  rwa [h]

theorem value_eq_of_scalar (hs : group.scalar s = .ok k) (ht : group.scalar t = .ok k) :
    Octets.value t = Octets.value s := by
  obtain ⟨-, -, hsvalue⟩ := scalar_eq_ok_iff.mp hs
  obtain ⟨-, -, htvalue⟩ := scalar_eq_ok_iff.mp ht
  exact htvalue.symm.trans hsvalue

theorem scalar_eq_error_iff :
    group.scalar s = .error (.scalarRange group.name) ↔
      ¬(0 < Octets.value s ∧ Octets.value s < group.order) := by
  rw [← exists_scalar_iff]
  cases h : group.scalar s with
  | ok k => simp
  | error e => simp [eq_scalarRange_of_scalar h]

theorem readsBelow_of_order {name : String} {q : Octets} (hname : group.name = name)
    (horder : group.order = q.value) : group.ReadsBelow name q := by
  constructor
  case accepted_iff =>
    intro s
    rw [range_iff, ← horder]
    exact exists_scalar_iff
  case refused_iff =>
    intro s
    rw [range_iff, ← horder, ← hname]
    exact scalar_eq_error_iff
  case written =>
    intro s k hs
    exact (scalar_eq_ok_iff.mp hs).2
  case same_iff =>
    intro s t k hs
    exact ⟨value_eq_of_scalar hs, scalar_of_value_eq hs⟩
  case reread =>
    intro s k hs
    exact scalar_of_value_eq hs (scalar_eq_ok_iff.mp hs).2.2

end CurveGroup

/-- A group on an explicit curve has the order that it was made with. -/
theorem PrimeCurve.order_of_withGenerator {curve : PrimeCurve} {name : String} {P : Point}
    {q : Octets} {cofactor : ℕ} {group : ExplicitGroup}
    (h : curve.withGenerator name P q cofactor = .ok group) :
    (CurveGroup.explicit group).order = q.value := by
  obtain ⟨-, -, -, horder, -⟩ := PrimeCurve.withGenerator_eq_ok_iff.mp h
  rw [CurveGroup.order, horder, Octets.value_significant]

/-- Whatever its order, a group reads the numbers from one to the order less one,
and no others. -/
theorem CurveGroup.reads_numbers :
    (∀ group : BuiltInGroup,
        (CurveGroup.builtIn group).ReadsBelow group.params.name group.params.q) ∧
      ∀ (curve : PrimeCurve) (name : String) (P : Point) (q : Octets) (cofactor : ℕ)
        (group : ExplicitGroup), curve.withGenerator name P q cofactor = .ok group →
        (CurveGroup.explicit group).ReadsBelow name q := by
  constructor
  · intro group
    exact readsBelow_of_order rfl rfl
  · intro curve name P q cofactor group h
    obtain ⟨hname, -⟩ := PrimeCurve.withGenerator_eq_ok_iff.mp h
    exact readsBelow_of_order hname (PrimeCurve.order_of_withGenerator h)

/-- The order of the seven points, written with a zero in front. -/
theorem CurveGroup.reads_numbers_sevenPoints :
    ExplicitGroup.sevenPoints.curve.withGenerator ExplicitGroup.sevenPoints.name
        ExplicitGroup.sevenPoints.generator [0, 7] 1 = .ok ExplicitGroup.sevenPoints ∧
      (CurveGroup.explicit ExplicitGroup.sevenPoints).ReadsBelow
        ExplicitGroup.sevenPoints.name [0, 7] := by
  have h : ExplicitGroup.sevenPoints.curve.withGenerator ExplicitGroup.sevenPoints.name
      ExplicitGroup.sevenPoints.generator [0, 7] 1 = .ok ExplicitGroup.sevenPoints :=
    PrimeCurve.withGenerator_eq_ok_iff.mpr ⟨rfl, rfl, rfl, rfl, rfl⟩
  exact ⟨h, CurveGroup.reads_numbers.2 _ _ _ _ _ _ h⟩

/-- Six, one below the order, and the order itself, both with zeros in front. -/
example : (CurveGroup.explicit ExplicitGroup.sevenPoints).scalar [0, 0, 6] = .ok ⟨[6]⟩ ∧
    (CurveGroup.explicit ExplicitGroup.sevenPoints).scalar [0, 7] =
      .error (.scalarRange ExplicitGroup.sevenPoints.name) := by
  decide

end EcpAgreement
