import EcpAgreement.Curve.Point
import EcpAgreement.Octets.Lemmas
import EcpAgreement.Proofs.Curve.PointGroup
import Mathlib.Data.ZMod.Basic

/-!
# Points of the curve as octet strings

Every point of a curve over the residues modulo `m` is written in one way once
a width is fixed.  If the width holds the modulus, then no two points are
written alike.
-/

namespace EcpAgreement

variable {m : ℕ} {a b : ZMod m} {width : ℕ}

/-- The octets of a point of the curve, each coordinate in the given width. -/
def writePoint (width : ℕ) : (shortWeierstrass a b).Point → Point
  | .zero => .identity
  | .some x y _ => .affine (Octets.ofNat width x.val) (Octets.ofNat width y.val)

theorem ofNat_val_injective [NeZero m] (hwidth : m ≤ 256 ^ width) {x y : ZMod m}
    (h : Octets.ofNat width x.val = Octets.ofNat width y.val) : x = y := by
  have hx : x.val < 256 ^ width := (ZMod.val_lt x).trans_le hwidth
  have hy : y.val < 256 ^ width := (ZMod.val_lt y).trans_le hwidth
  have hvalue := congrArg Octets.value h
  rw [Octets.value_ofNat_of_lt hx, Octets.value_ofNat_of_lt hy] at hvalue
  exact ZMod.val_injective m hvalue

theorem writePoint_injective [NeZero m] (hwidth : m ≤ 256 ^ width) :
    Function.Injective (writePoint width : (shortWeierstrass a b).Point → Point) := by
  intro A B h
  cases A with
  | zero =>
      cases B with
      | zero => rfl
      | some u v k => contradiction
  | some x y h' =>
      cases B with
      | zero => contradiction
      | some u v k =>
          obtain ⟨hx, hy⟩ := Point.affine.inj h
          obtain rfl := ofNat_val_injective hwidth hx
          obtain rfl := ofNat_val_injective hwidth hy
          rfl

theorem writePoint_eq_identity_iff {A : (shortWeierstrass a b).Point} :
    writePoint width A = .identity ↔ A = 0 := by
  constructor
  · intro h
    cases A with
    | zero => rfl
    | some x y k => contradiction
  · rintro rfl
    rfl

end EcpAgreement
