import EcpAgreement.Curve.Group
import Mathlib.Data.Nat.Notation

/-!
# Wire forms of points

Coordinates that already have the width of a field element are written as they
are.  A public value is therefore the two coordinates one after the other, and
reading it gives back the same point as long as the group admits the point.
-/

namespace EcpAgreement

theorem mapError_ok {ε ε' α : Type} (f : ε → ε') (a : α) :
    (Except.ok a).mapError f = .ok a :=
  rfl

theorem mapError_error {ε ε' α : Type} (f : ε → ε') (e : ε) :
    (Except.error e : Except ε α).mapError f = .error (f e) :=
  rfl

theorem exists_of_isOk {ε α : Type} {result : Except ε α} (h : result.isOk = true) :
    ∃ a, result = .ok a := by
  cases result with
  | error e => contradiction
  | ok a => exact ⟨a, rfl⟩

theorem Secret.leftPadded_of_length {s : Octets} {width : ℕ} (h : s.length = width) :
    Secret.leftPadded s width = .ok ⟨s⟩ := by
  have hpad : s.leftPad? width = some s := Octets.leftPad?_eq_some_iff.mpr ⟨h, rfl⟩
  rw [Secret.leftPadded, hpad]

namespace CurveGroup

variable {group : CurveGroup}

theorem encode_identity (xOnly : Bool) :
    group.encode .identity xOnly =
      .error (.arithmeticFailure "affine coordinate extraction") :=
  rfl

theorem encode_affine {x y : Octets} (hx : x.length = group.fieldElementLength)
    (hy : y.length = group.fieldElementLength) (xOnly : Bool) :
    group.encode (.affine x y) xOnly = .ok ⟨if xOnly then x else x ++ y⟩ := by
  have hfirst := Secret.leftPadded_of_length hx
  have hsecond := Secret.leftPadded_of_length hy
  simp only [encode, Point.coordinates, mapError_ok, bind, Except.bind, hfirst, hsecond]
  cases xOnly with
  | false => rfl
  | true => rfl

theorem decode_append {x y : Octets} (hx : x.length = group.fieldElementLength)
    (hy : y.length = group.fieldElementLength) :
    group.decode (x ++ y) =
      (group.pointOfAffine x y).mapError fun _ => .invalidPoint "ECDH public value" := by
  have hlength : (x ++ y).length = 2 * group.fieldElementLength := by
    rw [List.length_append, hx, hy]
    omega
  have htake : (x ++ y).take group.fieldElementLength = x := List.take_left' hx
  have hdrop : (x ++ y).drop group.fieldElementLength = y := List.drop_left' hx
  simp only [decode, ExchangeError.requireLength, hlength, if_true, htake, hdrop]
  rfl

/-- A public value is read as the point that was written. -/
theorem decode_of_encode {x y : Octets} {value : Secret}
    (hx : x.length = group.fieldElementLength)
    (hy : y.length = group.fieldElementLength)
    (hpoint : group.pointOfAffine x y = .ok (.affine x y))
    (h : group.encode (.affine x y) false = .ok value) :
    group.decode value.octets = .ok (.affine x y) := by
  rw [encode_affine hx hy] at h
  rw [← Except.ok.inj h]
  have hread := decode_append hx hy
  rw [hpoint] at hread
  exact hread

end CurveGroup

end EcpAgreement
