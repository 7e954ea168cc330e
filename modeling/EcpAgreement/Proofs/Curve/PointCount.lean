import EcpAgreement.Proofs.Curve.PointGroup
import EcpAgreement.Proofs.Field.Residue
import Mathlib.GroupTheory.Perm.Cycle.Type

/-!
# How many points a curve has

Over the residues modulo an odd prime `p`, a finite point is given by its first
coordinate and the parity of its second one, so that a curve has at most
`2 * p + 1` points.  If their number is even, then one of them has order two and
lies on the first axis.  A curve without a root of `x³ + ax + b` therefore has
an odd number of points, and it has no more of them than the order of any one
that is above two thirds of `p` (`card_points_eq`).
-/

namespace EcpAgreement

variable {p : ℕ} [Fact p.Prime] {a b : ZMod p}

/-- The first coordinate of a finite point, and whether the second one is odd. -/
def compress : (shortWeierstrass a b).Point → Option (ZMod p × Bool)
  | .zero => none
  | .some x y _ => some (x, decide (y.val % 2 = 1))

/-- Opposite residues modulo an odd number differ in parity, unless they are
zero. -/
theorem eq_zero_of_neg_parity (hodd : p % 2 = 1) {y : ZMod p}
    (h : decide ((-y).val % 2 = 1) = decide (y.val % 2 = 1)) : y = 0 := by
  by_contra hy
  have hne : NeZero y := ⟨hy⟩
  have hlt := ZMod.val_lt y
  rw [ZMod.val_neg_of_ne_zero, decide_eq_decide] at h
  omega

theorem compress_injective (hodd : p % 2 = 1) :
    Function.Injective (compress : (shortWeierstrass a b).Point → Option (ZMod p × Bool)) := by
  intro A B h
  cases A with
  | zero =>
      cases B with
      | zero => rfl
      | some u v k => contradiction
  | some x y h' =>
      cases B with
      | zero => contradiction
      | some u v k =>
          obtain ⟨hx, hparity⟩ := Prod.mk.inj (Option.some.inj h)
          subst hx
          rcases WeierstrassCurve.Affine.Y_eq_of_X_eq h'.1 k.1 rfl with heq | hneg
          · subst heq
            rfl
          · rw [negY_shortWeierstrass] at hneg
            subst hneg
            have hzero := eq_zero_of_neg_parity hodd hparity
            subst hzero
            simp only [neg_zero]

theorem finite_points (hodd : p % 2 = 1) : Finite (shortWeierstrass a b).Point :=
  Finite.of_injective compress (compress_injective hodd)

theorem card_points_le (hodd : p % 2 = 1) :
    Nat.card (shortWeierstrass a b).Point ≤ 2 * p + 1 := by
  have hle := Nat.card_le_card_of_injective compress
    (compress_injective (a := a) (b := b) hodd)
  rw [Nat.card_eq_fintype_card (α := Option (ZMod p × Bool)), Fintype.card_option,
    Fintype.card_prod, Fintype.card_bool, ZMod.card] at hle
  omega

theorem odd_card_points (hodd : p % 2 = 1)
    (hroot : ∀ x, x ^ 3 + a * x + b ≠ 0) :
    Odd (Nat.card (shortWeierstrass a b).Point) := by
  have hfinite : Finite (shortWeierstrass a b).Point := finite_points hodd
  have hle : 2 ≤ p := (Fact.out : p.Prime).two_le
  have htwo : (2 : ZMod p) ≠ 0 := two_ne_zero_of_lt (by omega)
  rw [← Nat.not_even_iff_odd, even_iff_two_dvd]
  intro hdvd
  obtain ⟨A, hA⟩ := exists_prime_addOrderOf_dvd_card' 2 hdvd
  cases A with
  | zero => exact addOrderOf_zero_ne_two hA
  | some x y h =>
      have hy := (addOrderOf_some_eq_two_iff htwo h).mp hA
      have hequation := equation_shortWeierstrass.mp h.1
      apply hroot x
      rw [← hequation, hy, zero_pow two_ne_zero]

theorem card_points_eq (hodd : p % 2 = 1)
    (hcard : Odd (Nat.card (shortWeierstrass a b).Point))
    {G : (shortWeierstrass a b).Point} (hbound : 2 * p + 1 < 3 * addOrderOf G) :
    Nat.card (shortWeierstrass a b).Point = addOrderOf G := by
  obtain ⟨k, hk⟩ := addOrderOf_dvd_natCard G
  have hle := card_points_le (a := a) (b := b) hodd
  rw [hk] at hle hcard
  have hlt : k < 3 := by
    by_contra hge
    have hmul : addOrderOf G * 3 ≤ addOrderOf G * k := Nat.mul_le_mul_left _ (not_lt.mp hge)
    omega
  obtain ⟨-, hkodd⟩ := Nat.odd_mul.mp hcard
  have hone : k = 1 := by
    obtain ⟨l, hl⟩ := hkodd
    omega
  rw [hk, hone, mul_one]

end EcpAgreement
