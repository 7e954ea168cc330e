import EcpAgreement.Proofs.Group.Genuine

/-!
# Coordinates of points

Two octet strings are the coordinates of a point when both have the width of a
field element and write a solution of the curve equation, that is, two numbers
below the modulus that satisfy it.  A group admits exactly these pairs
(`Coherent.pointOfAffine_eq_ok_iff`), whichever kind it is and whatever its
modulus.  Over a prime they are the written forms of the finite points of the
curve (`Coherent.coordinates_iff_exists_write`).
-/

namespace EcpAgreement

theorem CurveError.eq_of_requireLength {context : String} {actual expected : ℕ} {u : Unit}
    (h : CurveError.requireLength context actual expected = .ok u) : actual = expected := by
  by_contra hne
  rw [requireLength, if_neg hne] at h
  contradiction

namespace CurveGroup

/-- The coefficient of `x`, as a number. -/
def a : CurveGroup → ℕ
  | builtIn group => group.curve.a.val
  | explicit group => group.curve.a.val

/-- The constant coefficient, as a number. -/
def b : CurveGroup → ℕ
  | builtIn group => group.curve.b.val
  | explicit group => group.curve.b.val

/-- Two numbers below the modulus that satisfy the curve equation. -/
structure Solves (group : CurveGroup) (x y : ℕ) : Prop where
  x_lt : x < group.modulus
  y_lt : y < group.modulus
  equation : y ^ 2 ≡ x ^ 3 + group.a * x + group.b [MOD group.modulus]

instance (group : CurveGroup) (x y : ℕ) : Decidable (group.Solves x y) :=
  decidable_of_iff
    (x < group.modulus ∧ y < group.modulus ∧
      y ^ 2 ≡ x ^ 3 + group.a * x + group.b [MOD group.modulus])
    ⟨fun h => ⟨h.1, h.2.1, h.2.2⟩, fun h => ⟨h.x_lt, h.y_lt, h.equation⟩⟩

/-- Two strings in the width of a field element that write a solution. -/
structure Coordinates (group : CurveGroup) (x y : Octets) : Prop where
  length_x : x.length = group.fieldElementLength
  length_y : y.length = group.fieldElementLength
  solves : group.Solves x.value y.value

/-- The arithmetic of the group is that of the curve in its table.  A group
computed from explicit parameters has no other arithmetic. -/
def Coherent : CurveGroup → Prop
  | builtIn group => group.Coherent
  | explicit _ => True

theorem coherent_of_named {named : NamedCurve} {group : CurveGroup}
    (h : named.group = .ok group) : group.Coherent := by
  rw [NamedCurve.group] at h
  split at h
  · rw [← Except.ok.inj h]
    exact BuiltInGroup.coherent_builtInGroup named
  · contradiction

/-! ## What a group admits -/

theorem contains_explicit_iff {group : ExplicitGroup} {x y : Octets} :
    group.contains (.affine x y) = true ↔ (explicit group).Coordinates x y := by
  rw [ExplicitGroup.contains, PrimeCurve.contains_affine_iff]
  constructor
  · rintro ⟨hx, hy, hxlt, hylt, hequation⟩
    exact ⟨hx, hy, hxlt, hylt, hequation⟩
  · rintro ⟨hx, hy, hxlt, hylt, hequation⟩
    exact ⟨hx, hy, hxlt, hylt, hequation⟩

theorem pointOfAffine_explicit_iff {group : ExplicitGroup} {x y : Octets} {P : Point} :
    group.pointOfAffine x y = .ok P ↔
      P = .affine x y ∧ (explicit group).Coordinates x y := by
  rw [← contains_explicit_iff]
  constructor
  · intro h
    obtain ⟨rfl, hcontains⟩ := PrimeCurve.eq_affine_of_point h
    exact ⟨rfl, hcontains⟩
  · rintro ⟨rfl, hcontains⟩
    exact PrimeCurve.point_of_contains hcontains

end CurveGroup

namespace BuiltInGroup

variable {group : BuiltInGroup} {x y : Octets}

theorem residues_of_satisfies (hx : x.length = group.curve.width)
    (hy : y.length = group.curve.width) {u v : Fin group.curve.size} (hu : u.val = x.value)
    (hv : v.val = y.value) (h : group.curve.satisfies u v = true) :
    group.residues (.affine x y) = .ok (u, v) := by
  have hlt : x.value < group.curve.size ∧ y.value < group.curve.size :=
    ⟨hu ▸ u.isLt, hv ▸ v.isLt⟩
  obtain rfl : u = ⟨x.value, hlt.1⟩ := Fin.ext hu
  obtain rfl : v = ⟨y.value, hlt.2⟩ := Fin.ext hv
  simp only [residues, Point.coordinates, requireWidth, CurveError.requireLength, hx, hy,
    if_true, bind, Except.bind, dif_pos hlt, h]
  rfl

theorem satisfies_of_residues {u v : Fin group.curve.size}
    (h : group.residues (.affine x y) = .ok (u, v)) :
    x.length = group.curve.width ∧ y.length = group.curve.width ∧
      u.val = x.value ∧ v.val = y.value ∧ group.curve.satisfies u v = true := by
  simp only [residues, Point.coordinates, requireWidth, bind, Except.bind] at h
  split at h
  · contradiction
  · rename_i hx
    split at h
    · contradiction
    · rename_i hy
      split at h
      · split at h
        · rename_i hsatisfies
          obtain ⟨rfl, rfl⟩ := Prod.mk.inj (Except.ok.inj h)
          exact ⟨CurveError.eq_of_requireLength hx, CurveError.eq_of_requireLength hy, rfl,
            rfl, hsatisfies⟩
        · contradiction
      · contradiction

theorem Coherent.exists_residues_iff (h : group.Coherent) :
    (∃ pair, group.residues (.affine x y) = .ok pair) ↔
      (CurveGroup.builtIn group).Coordinates x y := by
  have hwidth : (CurveGroup.builtIn group).fieldElementLength = group.curve.width := h.width_eq
  constructor
  · rintro ⟨⟨u, v⟩, hpair⟩
    obtain ⟨hx, hy, hu, hv, hsatisfies⟩ := satisfies_of_residues hpair
    have hequation := equation_iff_modEq.mp (beq_iff_eq.mp hsatisfies)
    refine ⟨hx.trans hwidth.symm, hy.trans hwidth.symm, ?_⟩
    rw [← hu, ← hv]
    exact ⟨u.isLt, v.isLt, hequation⟩
  · intro k
    refine ⟨(⟨x.value, k.solves.x_lt⟩, ⟨y.value, k.solves.y_lt⟩), ?_⟩
    apply residues_of_satisfies (k.length_x.trans hwidth) (k.length_y.trans hwidth) rfl rfl
    exact beq_iff_eq.mpr (equation_iff_modEq.mpr k.solves.equation)

theorem Coherent.contains_iff (h : group.Coherent) :
    group.contains (.affine x y) = true ↔ (CurveGroup.builtIn group).Coordinates x y := by
  rw [← h.exists_residues_iff, contains]
  constructor
  · exact exists_of_isOk
  · rintro ⟨pair, hpair⟩
    rw [hpair]
    rfl

theorem Coherent.pointOfAffine_iff (h : group.Coherent) {P : Point} :
    group.pointOfAffine x y = .ok P ↔
      P = .affine x y ∧ (CurveGroup.builtIn group).Coordinates x y := by
  rw [← h.exists_residues_iff, pointOfAffine]
  cases hresidues : group.residues (.affine x y) with
  | error e =>
      constructor
      · intro hpoint
        contradiction
      · rintro ⟨-, pair, hpair⟩
        contradiction
  | ok pair =>
      constructor
      · intro hpoint
        exact ⟨(Except.ok.inj hpoint).symm, pair, rfl⟩
      · rintro ⟨rfl, -⟩
        rfl

end BuiltInGroup

namespace CurveGroup

variable {group : CurveGroup}

theorem Coherent.pointOfAffine_eq_ok_iff (h : group.Coherent) {x y : Octets} {P : Point} :
    group.pointOfAffine x y = .ok P ↔ P = .affine x y ∧ group.Coordinates x y := by
  cases group with
  | builtIn group => exact BuiltInGroup.Coherent.pointOfAffine_iff h
  | explicit group => exact pointOfAffine_explicit_iff

theorem Coherent.contains_iff (h : group.Coherent) {P : Point} :
    group.contains P = true ↔ ∃ x y, P = .affine x y ∧ group.Coordinates x y := by
  have haffine : ∀ x y, group.contains (.affine x y) = true ↔ group.Coordinates x y := by
    intro x y
    cases group with
    | builtIn group => exact BuiltInGroup.Coherent.contains_iff h
    | explicit group => exact contains_explicit_iff
  cases P with
  | identity =>
      constructor
      · intro hcontains
        cases group <;> contradiction
      · rintro ⟨x, y, hpoint, -⟩
        contradiction
  | affine x y =>
      rw [haffine]
      constructor
      · intro k
        exact ⟨x, y, rfl, k⟩
      · rintro ⟨u, v, hpoint, k⟩
        obtain ⟨rfl, rfl⟩ := Point.affine.inj hpoint
        exact k

/-! ## Finite points of the curve -/

theorem Coherent.size_le (h : group.Coherent) :
    group.modulus ≤ 256 ^ group.fieldElementLength := by
  cases group with
  | builtIn group =>
      have hlt := BuiltInGroup.Coherent.size_lt h
      rw [← BuiltInGroup.Coherent.width_eq h] at hlt
      exact hlt.le
  | explicit group => exact group.curve.field.size_lt.le

theorem Coherent.two_ne_zero (h : group.Coherent) : (2 : ZMod group.modulus) ≠ 0 := by
  cases group with
  | builtIn group => exact BuiltInGroup.Coherent.two_ne_zero h
  | explicit group => exact group.curve.field.two_ne_zero

theorem Coherent.discriminant_ne_zero (h : group.Coherent) :
    4 * group.coefficients.1 ^ 3 + 27 * group.coefficients.2 ^ 2 ≠ 0 := by
  cases group with
  | builtIn group => exact BuiltInGroup.Coherent.discriminant_ne_zero h
  | explicit group => exact group.curve.discriminant_ne_zero

theorem coefficients_eq :
    group.coefficients = ((group.a : ZMod group.modulus), (group.b : ZMod group.modulus)) := by
  cases group with
  | builtIn group => rfl
  | explicit group => rfl

theorem solves_iff_equation {x y : ℕ} :
    group.Solves x y ↔
      x < group.modulus ∧ y < group.modulus ∧
        group.law.Equation (x : ZMod group.modulus) (y : ZMod group.modulus) := by
  have hequation : group.law.Equation (x : ZMod group.modulus) (y : ZMod group.modulus) ↔
      y ^ 2 ≡ x ^ 3 + group.a * x + group.b [MOD group.modulus] := by
    rw [equation_shortWeierstrass, coefficients_eq, ← ZMod.natCast_eq_natCast_iff]
    simp only [Nat.cast_add, Nat.cast_mul, Nat.cast_pow]
  rw [hequation]
  constructor
  · intro h
    exact ⟨h.x_lt, h.y_lt, h.equation⟩
  · rintro ⟨hx, hy, h⟩
    exact ⟨hx, hy, h⟩

/-- Over a prime the coordinates of points are those that the group writes for
the finite points of its curve. -/
theorem Coherent.coordinates_iff_exists_write (h : group.Coherent)
    [Fact group.modulus.Prime] {x y : Octets} :
    group.Coordinates x y ↔ ∃ A : group.law.Point, group.write A = .affine x y := by
  constructor
  · rintro ⟨hx, hy, hsolves⟩
    obtain ⟨hxlt, hylt, hequation⟩ := solves_iff_equation.mp hsolves
    refine ⟨.some _ _ (nonsingular_shortWeierstrass h.two_ne_zero h.discriminant_ne_zero
      hequation), ?_⟩
    simp only [write, writePoint, ZMod.val_cast_of_lt hxlt, ZMod.val_cast_of_lt hylt]
    rw [← hx, Octets.ofNat_value, hx, ← hy, Octets.ofNat_value]
  · rintro ⟨A, hA⟩
    cases A with
    | zero => contradiction
    | some u v k =>
        obtain ⟨rfl, rfl⟩ := Point.affine.inj hA
        refine ⟨Octets.length_ofNat _ _, Octets.length_ofNat _ _, ?_⟩
        rw [Octets.value_ofNat_of_lt ((ZMod.val_lt u).trans_le h.size_le),
          Octets.value_ofNat_of_lt ((ZMod.val_lt v).trans_le h.size_le), solves_iff_equation,
          ZMod.natCast_zmod_val, ZMod.natCast_zmod_val]
        exact ⟨ZMod.val_lt u, ZMod.val_lt v, k.1⟩

end CurveGroup

end EcpAgreement
