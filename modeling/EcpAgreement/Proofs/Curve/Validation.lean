import EcpAgreement.Proofs.Group.Stages

/-!
# One notion of a valid point

A point is checked where it is read, where it is attached to a curve as the
generator of a group, and once more before each multiplication.  The checks are
written apart from each other and ask for lengths, ranges and the curve equation
in different orders.  They nevertheless let the same points through, the
solutions of the curve equation in their one written form.  The point at
infinity passes none of them, but it may be multiplied and is then its own
multiple.

Nothing is assumed about the modulus, and nothing about the strings of a point.
-/

namespace EcpAgreement.PrimeCurve

variable {curve : PrimeCurve} {P : Point}

/-- An affine point whose coordinates are a solution of the curve equation. -/
def Admits (curve : PrimeCurve) : Point → Prop
  | .identity => False
  | .affine x y => curve.Solution x y

theorem contains_iff_admits : curve.contains P = true ↔ curve.Admits P := by
  cases P with
  | identity =>
      constructor
      · intro h
        contradiction
      · intro h
        exact h.elim
  | affine x y => exact contains_affine_iff

/-! ## Reading a point -/

theorem exists_point_iff :
    (∃ x y R, P.coordinates = .ok (x, y) ∧ curve.point x y = .ok R) ↔ curve.Admits P := by
  constructor
  · rintro ⟨x, y, R, hP, hR⟩
    cases P with
    | identity => contradiction
    | affine u v =>
        obtain ⟨rfl, rfl⟩ := Prod.mk.inj (Except.ok.inj hP)
        obtain ⟨rfl, hcontains⟩ := eq_affine_of_point hR
        exact contains_iff_admits.mp hcontains
  · intro h
    cases P with
    | identity => exact h.elim
    | affine x y => exact ⟨x, y, _, rfl, point_of_contains (contains_affine_iff.mpr h)⟩

/-! ## Multiplying a point -/

/-- An affine point that is not admitted is refused as invalid, whichever check it
fails. -/
theorem lift_of_not_contains (hP : P ≠ .identity) (h : ¬curve.contains P = true) :
    ∃ context, curve.lift P = .error (.invalidPoint context) := by
  cases P with
  | identity => contradiction
  | affine s u =>
      cases hx : curve.field.element? s with
      | none =>
          simp only [lift, hx]
          exact ⟨_, rfl⟩
      | some x =>
          cases hy : curve.field.element? u with
          | none =>
              simp only [lift, hx, hy]
              exact ⟨_, rfl⟩
          | some y =>
              simp only [contains, hx, hy, Bool.not_eq_true] at h
              simp only [lift, hx, hy, h, CurveError.requireOnCurve, Bool.false_eq_true, if_false]
              exact ⟨_, rfl⟩

theorem multiple_of_not_contains (hP : P ≠ .identity) (h : ¬curve.contains P = true)
    (s : Octets) : ∃ context, curve.multiple P s = .error (.invalidPoint context) := by
  obtain ⟨context, hlift⟩ := lift_of_not_contains hP h
  refine ⟨context, ?_⟩
  rw [multiple, hlift]
  rfl

/-- What a multiplication of a point comes to, as far as the checks of the point
decide it. -/
structure Guarded (curve : PrimeCurve) (P : Point) (result : Except CurveError Point) :
    Prop where
  of_identity : P = .identity → result = .ok .identity
  exists_ok_iff : P ≠ .identity → ((∃ R, result = .ok R) ↔ curve.Admits P)
  of_rejected : P ≠ .identity → ¬curve.Admits P →
    ∃ context, result = .error (.invalidPoint context)

theorem guarded_multiple (curve : PrimeCurve) (P : Point) (s : Octets) :
    curve.Guarded P (curve.multiple P s) := by
  have hrejected : P ≠ .identity → ¬curve.Admits P →
      ∃ context, curve.multiple P s = .error (.invalidPoint context) := by
    intro hP hadmits
    exact multiple_of_not_contains hP (mt contains_iff_admits.mp hadmits) s
  refine ⟨?_, ?_, hrejected⟩
  · rintro rfl
    exact multiple_identity curve s
  · intro hP
    constructor
    · rintro ⟨R, hR⟩
      by_contra hadmits
      obtain ⟨context, herror⟩ := hrejected hP hadmits
      rw [hR] at herror
      contradiction
    · intro hadmits
      have hcanonical := canonical_of_contains (contains_iff_admits.mpr hadmits)
      obtain ⟨R, hR, -⟩ := exists_canonical_multiple hcanonical s
      exact ⟨R, hR⟩

/-! ## All checks together -/

/-- What every check of a point amounts to, on the curve and in each group on
it. -/
structure ChecksAgree (curve : PrimeCurve) (P : Point) : Prop where
  contains_iff : curve.contains P = true ↔ curve.Admits P
  point_iff :
    (∃ x y R, P.coordinates = .ok (x, y) ∧ curve.point x y = .ok R) ↔ curve.Admits P
  withGenerator_iff : ∀ name q, Octets.value q % 2 = 1 → 3 ≤ Octets.value q →
    ((∃ group, curve.withGenerator name P q 1 = .ok group) ↔ curve.Admits P)
  pointOfAffine_iff : ∀ group : ExplicitGroup, group.curve = curve →
    ((∃ x y R, P.coordinates = .ok (x, y) ∧ group.pointOfAffine x y = .ok R) ↔ curve.Admits P)
  group_contains_iff : ∀ group : ExplicitGroup, group.curve = curve →
    (group.contains P = true ↔ curve.Admits P)
  mul_guarded : ∀ group : ExplicitGroup, group.curve = curve →
    ∀ k, curve.Guarded P (group.mul P k)
  mulByOrder_guarded : ∀ group : ExplicitGroup, group.curve = curve →
    curve.Guarded P (group.mulByOrder P)

/-- Whatever its strings hold, a point passes all checks of a curve and of the
groups on it or none, and it is multiplied only if it passes or is at infinity. -/
theorem checks_agree (curve : PrimeCurve) (P : Point) : curve.ChecksAgree P := by
  constructor
  case contains_iff => exact contains_iff_admits
  case point_iff => exact exists_point_iff
  case withGenerator_iff =>
    intro name q hodd hthree
    rw [exists_withGenerator_iff, ← contains_iff_admits]
    constructor
    · rintro ⟨-, hcontains, -, -⟩
      exact hcontains
    · intro hcontains
      exact ⟨rfl, hcontains, hodd, hthree⟩
  case pointOfAffine_iff =>
    rintro group rfl
    exact exists_point_iff
  case group_contains_iff =>
    rintro group rfl
    exact contains_iff_admits
  case mul_guarded =>
    rintro group rfl k
    exact guarded_multiple group.curve P k.octets
  case mulByOrder_guarded =>
    rintro group rfl
    exact guarded_multiple group.curve P group.order

end EcpAgreement.PrimeCurve
