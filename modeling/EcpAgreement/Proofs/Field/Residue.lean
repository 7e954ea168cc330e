import EcpAgreement.Field.Prime
import EcpAgreement.Field.Inverse
import Mathlib.Algebra.Field.ZMod
import Mathlib.Tactic.Ring

/-!
# Elements as residues

The elements of a field compute with bounded numbers.  This file reads each of
them as a residue, so that sums, differences and products become those of a
commutative ring, and shows that the inverse found by Euclid's algorithm is the
inverse of that ring.  Nothing is assumed about the modulus until the last
section, where it is prime.
-/

namespace EcpAgreement

variable {m : ℕ}

/-- The residue class of a bounded number. -/
def residue (e : Fin m) : ZMod m :=
  (e.val : ZMod m)

theorem residue_add (e f : Fin m) :
    residue (e + f) = residue e + residue f := by
  rw [residue, Fin.val_add, ZMod.natCast_mod, Nat.cast_add, residue, residue]

theorem residue_mul (e f : Fin m) :
    residue (e * f) = residue e * residue f := by
  rw [residue, Fin.val_mul, ZMod.natCast_mod, Nat.cast_mul, residue, residue]

theorem residue_sub (e f : Fin m) :
    residue (e - f) = residue e - residue f := by
  have hle : f.val ≤ m := f.isLt.le
  simp only [residue, Fin.val_sub, ZMod.natCast_mod]
  push_cast [hle, ZMod.natCast_self]
  ring

theorem val_residue (e : Fin m) : (residue e).val = e.val :=
  ZMod.val_cast_of_lt e.isLt

theorem residue_injective : Function.Injective (residue (m := m)) := by
  intro e f h
  apply Fin.ext
  rw [← val_residue e, ← val_residue f, h]

/-! ## Representatives -/

section Represent

variable [NeZero m]

/-- The bounded number of a residue class. -/
def represent (x : ZMod m) : Fin m :=
  ⟨x.val, ZMod.val_lt x⟩

theorem residue_represent (x : ZMod m) : residue (represent x) = x :=
  ZMod.natCast_zmod_val x

theorem represent_residue (e : Fin m) : represent (residue e) = e :=
  residue_injective (residue_represent (residue e))

theorem represent_injective : Function.Injective (represent (m := m)) := by
  intro x y h
  rw [← residue_represent x, h, residue_represent]

end Represent

/-! ## The curve equation -/

theorem equation_iff_residue {a b x y : Fin m} :
    y * y = x * x * x + a * x + b ↔
      residue y ^ 2 = residue x ^ 3 + residue a * residue x + residue b := by
  rw [← residue_injective.eq_iff]
  simp only [residue_add, residue_mul]
  ring_nf

theorem equation_iff_modEq {a b x y : Fin m} :
    y * y = x * x * x + a * x + b ↔
      y.val ^ 2 ≡ x.val ^ 3 + a.val * x.val + b.val [MOD m] := by
  rw [equation_iff_residue, ← ZMod.natCast_eq_natCast_iff]
  simp only [residue, Nat.cast_add, Nat.cast_mul, Nat.cast_pow]

theorem residue_add_add_self (e : Fin m) : residue (e + e + e) = 3 * residue e := by
  rw [residue_add, residue_add]
  ring

theorem residue_discriminant_ne_zero {a b : Fin m}
    (h : (4 * (a.val * a.val * a.val) + 27 * (b.val * b.val)) % m ≠ 0) :
    4 * residue a ^ 3 + 27 * residue b ^ 2 ≠ 0 := by
  intro hzero
  apply h
  apply Nat.mod_eq_zero_of_dvd
  rw [← ZMod.natCast_eq_zero_iff]
  push_cast
  rw [← hzero, residue, residue]
  ring

theorem two_ne_zero_of_lt (h : 2 < m) : (2 : ZMod m) ≠ 0 := by
  intro hzero
  have hcast : ((2 : ℕ) : ZMod m) = 0 := by
    rw [Nat.cast_ofNat]
    exact hzero
  have hle := Nat.le_of_dvd (by decide) ((ZMod.natCast_eq_zero_iff 2 m).mp hcast)
  omega

/-! ## Inverses -/

theorem residue_mul_inverse {e w : Fin m} (h : inverse? e = some w) :
    residue e * residue w = 1 := by
  have hdvd := dvd_of_inverse? h
  have hcast : ((w.val * e.val - 1 : ℤ) : ZMod m) = 0 :=
    (ZMod.intCast_zmod_eq_zero_iff_dvd _ m).mpr hdvd
  push_cast at hcast
  rw [mul_comm]
  exact sub_eq_zero.mp hcast

theorem inverse?_eq_none_iff_not_isUnit {e : Fin m} :
    inverse? e = none ↔ ¬IsUnit (residue e) := by
  rw [inverse?_eq_none_iff, residue, ne_eq, ← Nat.coprime_iff_gcd_eq_one,
    ← ZMod.isUnit_iff_coprime]

/-- Over a prime modulus only zero has no inverse. -/
theorem inverse?_eq_none_iff_residue [Fact m.Prime] {e : Fin m} :
    inverse? e = none ↔ residue e = 0 := by
  rw [inverse?_eq_none_iff_not_isUnit, isUnit_iff_ne_zero, not_not]

theorem residue_inverse [Fact m.Prime] {e w : Fin m} (h : inverse? e = some w) :
    residue w = (residue e)⁻¹ :=
  eq_inv_of_mul_eq_one_right (residue_mul_inverse h)

/-! ## The elements of a field -/

theorem residue_zero (field : PrimeField) : residue field.zero = 0 := by
  simp [residue, PrimeField.zero]

theorem residue_one (field : PrimeField) : residue field.one = 1 := by
  simp [residue, PrimeField.one]

end EcpAgreement
