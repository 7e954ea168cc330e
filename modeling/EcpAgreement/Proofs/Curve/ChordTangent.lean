import EcpAgreement.Curve.Affine
import EcpAgreement.Proofs.Curve.PointGroup
import EcpAgreement.Proofs.Field.Residue

/-!
# The chord and tangent law and the group of the curve

Over a prime modulus the law in bounded numbers is the group law of the curve
`y² = x³ + ax + b`.  A quotient is the quotient of the residues, also where the
divisor has no inverse, and so the slopes agree; the two definitions then
distinguish the same positions of the points (`add_ofPoint`).  Halving the
multiplier computes a multiple in the group (`multiple_ofPoint`).
-/

namespace EcpAgreement

namespace AffineCurve

variable {curve : AffineCurve}

/-- The curve over the residues. -/
abbrev law (curve : AffineCurve) : WeierstrassCurve.Affine (ZMod curve.size) :=
  shortWeierstrass (residue curve.a) (residue curve.b)

theorem satisfies_iff {x y : Fin curve.size} :
    curve.satisfies x y = true ↔ curve.law.Equation (residue x) (residue y) := by
  rw [equation_shortWeierstrass, ← equation_iff_residue, satisfies, beq_iff_eq]

/-- The bounded number of a small constant. -/
def constant (curve : AffineCurve) (n : ℕ) : Fin curve.size :=
  ⟨n % curve.size, Nat.mod_lt n curve.size_pos⟩

theorem residue_constant (n : ℕ) : residue (curve.constant n) = n :=
  ZMod.natCast_mod n curve.size

variable [Fact curve.size.Prime]

/-- The bounded numbers of a point of the group. -/
def ofPoint (curve : AffineCurve) [Fact curve.size.Prime] : curve.law.Point → curve.Point
  | .zero => .infinity
  | .some x y _ => .finite (represent x) (represent y)

/-! ## Slopes -/

theorem residue_quotient {m : ℕ} [Fact m.Prime] (n d : Fin m) :
    residue (quotient n d) = residue n / residue d := by
  cases hw : inverse? d with
  | none =>
      have hzero := inverse?_eq_none_iff_residue.mp hw
      have hquotient : quotient n d = ⟨0, n.pos⟩ := by simp only [quotient, hw]
      rw [hzero, div_zero, hquotient, residue, Nat.cast_zero]
  | some w =>
      have hquotient : quotient n d = n * w := by simp only [quotient, hw]
      rw [hquotient, residue_mul, residue_inverse hw, div_eq_mul_inv]

theorem residue_chord {x y u v : Fin curve.size} (hxu : residue x ≠ residue u) :
    residue (curve.chord x y u v) =
      curve.law.slope (residue x) (residue u) (residue y) (residue v) := by
  rw [chord, residue_quotient, residue_sub, residue_sub,
    WeierstrassCurve.Affine.slope_of_X_ne hxu, ← neg_div_neg_eq, neg_sub, neg_sub]

theorem residue_tangent (htwo : (2 : ZMod curve.size) ≠ 0) {x y : Fin curve.size}
    (hy : residue y ≠ 0) :
    residue (curve.tangent x y) =
      curve.law.slope (residue x) (residue x) (residue y) (residue y) := by
  rw [tangent, residue_quotient, Triple.slope_self htwo hy]
  simp only [residue_add, residue_mul]
  ring

/-- The reflected point of a line with the slope of the group law. -/
theorem reflected_eq {slope x y u : Fin curve.size} {s : ZMod curve.size}
    (hs : residue slope = s) :
    curve.reflected slope x y u =
      .finite (represent (curve.law.addX (residue x) (residue u) s))
        (represent (curve.law.addY (residue x) (residue u) (residue y) s)) := by
  rw [reflected, AffinePoint.finite.injEq]
  constructor
  · apply residue_injective
    rw [residue_represent, residue_sub, residue_sub, residue_mul, hs]
    simp only [WeierstrassCurve.Affine.addX, shortWeierstrass]
    ring
  · apply residue_injective
    rw [residue_represent]
    simp only [residue_sub, residue_mul, hs, WeierstrassCurve.Affine.addY,
      WeierstrassCurve.Affine.negAddY, WeierstrassCurve.Affine.addX, negY_shortWeierstrass]
    simp only [shortWeierstrass]
    ring

/-! ## Sums -/

theorem val_add_eq_zero_iff (x y : ZMod curve.size) :
    (represent x + represent y).val = 0 ↔ x + y = 0 := by
  rw [← val_residue, ZMod.val_eq_zero, residue_add, residue_represent, residue_represent]

theorem add_finite_of_ne {x y u v : ZMod curve.size} (hxu : x ≠ u) :
    curve.add (.finite (represent x) (represent y)) (.finite (represent u) (represent v)) =
      .finite (represent (curve.law.addX x u (curve.law.slope x u y v)))
        (represent (curve.law.addY x u y (curve.law.slope x u y v))) := by
  have hne : represent x ≠ represent u := fun h => hxu (represent_injective h)
  have hslope := residue_chord (x := represent x) (y := represent y) (u := represent u)
    (v := represent v) (by rw [residue_represent, residue_represent]; exact hxu)
  have hsum := reflected_eq (x := represent x) (y := represent y) (u := represent u) hslope
  simp only [residue_represent] at hsum
  rw [add, if_neg hne]
  exact hsum

theorem add_finite_self (htwo : (2 : ZMod curve.size) ≠ 0) {x y : ZMod curve.size}
    (hy : y ≠ 0) :
    curve.add (.finite (represent x) (represent y)) (.finite (represent x) (represent y)) =
      .finite (represent (curve.law.addX x x (curve.law.slope x x y y)))
        (represent (curve.law.addY x x y (curve.law.slope x x y y))) := by
  have hsum : ¬(represent y + represent y).val = 0 := by
    rw [val_add_eq_zero_iff, ← two_mul]
    exact mul_ne_zero htwo hy
  have hslope := residue_tangent htwo (x := represent x) (y := represent y)
    (by rw [residue_represent]; exact hy)
  have hpoint := reflected_eq (x := represent x) (y := represent y) (u := represent x) hslope
  simp only [residue_represent] at hpoint
  rw [add, if_pos rfl, if_neg hsum]
  exact hpoint

theorem add_ofPoint (htwo : (2 : ZMod curve.size) ≠ 0) (A B : curve.law.Point) :
    curve.add (curve.ofPoint A) (curve.ofPoint B) = curve.ofPoint (A + B) := by
  cases A with
  | zero =>
      rw [← WeierstrassCurve.Affine.Point.zero_def, zero_add]
      rfl
  | some x y h =>
      cases B with
      | zero =>
          rw [← WeierstrassCurve.Affine.Point.zero_def, add_zero]
          rfl
      | some u v k =>
          by_cases hxu : x = u
          · subst hxu
            by_cases hopposite : y + v = 0
            · have hneg : y = curve.law.negY x v := by
                rw [negY_shortWeierstrass]
                exact eq_neg_of_add_eq_zero_left hopposite
              rw [WeierstrassCurve.Affine.Point.add_of_Y_eq rfl hneg]
              simp only [ofPoint, add, if_true,
                if_pos ((val_add_eq_zero_iff y v).mpr hopposite)]
            · obtain ⟨rfl, hy⟩ := eq_of_not_opposite h.1 k.1 hopposite
              rw [WeierstrassCurve.Affine.Point.add_self_of_Y_ne (Triple.ne_negY htwo hy)]
              exact add_finite_self htwo hy
          · rw [WeierstrassCurve.Affine.Point.add_of_X_ne hxu]
            exact add_finite_of_ne hxu

/-! ## Multiples -/

theorem multiple_ofPoint (htwo : (2 : ZMod curve.size) ≠ 0) (n : ℕ)
    (A : curve.law.Point) :
    curve.multiple n (curve.ofPoint A) = curve.ofPoint (n • A) := by
  induction n using Nat.strong_induction_on generalizing A with
  | _ n ih =>
      rw [multiple]
      by_cases hzero : n = 0
      · rw [dif_pos hzero, hzero, zero_nsmul]
        rfl
      · have hlt : n / 2 < n := Nat.div_lt_self (Nat.pos_of_ne_zero hzero) (by decide)
        have hhalf := ih (n / 2) hlt (A + A)
        have hsplit : n = 2 * (n / 2) + n % 2 := (Nat.div_add_mod n 2).symm
        have hdouble : (n / 2) • (A + A) = (2 * (n / 2)) • A := by
          rw [← two_nsmul, smul_smul, mul_comm]
        rw [dif_neg hzero]
        simp only [add_ofPoint htwo, hhalf, hdouble]
        by_cases hodd : n % 2 = 1
        · have hsucc : n = 2 * (n / 2) + 1 := by omega
          rw [if_pos hodd, ← succ_nsmul', ← hsucc]
        · have heven : n = 2 * (n / 2) := by omega
          rw [if_neg hodd, ← heven]

end AffineCurve

end EcpAgreement
