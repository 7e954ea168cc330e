import EcpAgreement.Proofs.Group.Coordinates
import EcpAgreement.Proofs.Group.NistP256

/-!
# The wire form is exact

A group reads a string as a public value exactly when the string is two field
elements long and its halves write a solution of the curve equation; the other
strings of that length hold no point, and those of another length are malformed.
What is read is written back octet for octet, and every point that the group
contains is written as a string that is read as that point.  So reading and
writing are inverse to each other, and the point at infinity takes no part.
-/

namespace EcpAgreement.CurveGroup

variable {group : CurveGroup}

/-- The halves of a string write a solution of the curve equation. -/
def HoldsSolution (group : CurveGroup) (value : Octets) : Prop :=
  group.Solves (Octets.value (value.take group.fieldElementLength))
    (Octets.value (value.drop group.fieldElementLength))

instance (group : CurveGroup) (value : Octets) : Decidable (group.HoldsSolution value) :=
  inferInstanceAs (Decidable (group.Solves _ _))

/-- How public values are read and written, told by lengths and the curve
equation.  The three conditions on a string exclude each other, and one of them
holds. -/
structure WireExact (group : CurveGroup) : Prop where
  malformed_iff : ∀ value,
    group.decode value = .error (.malformedInput "ECDH public value" "unexpected length") ↔
      value.length ≠ 2 * group.fieldElementLength
  accepted_iff : ∀ value, (∃ P, group.decode value = .ok P) ↔
    value.length = 2 * group.fieldElementLength ∧ group.HoldsSolution value
  invalid_iff : ∀ value, group.decode value = .error (.invalidPoint "ECDH public value") ↔
    value.length = 2 * group.fieldElementLength ∧ ¬group.HoldsSolution value
  encode_of_decode : ∀ value P, group.decode value = .ok P →
    group.encode P false = .ok ⟨value⟩
  decode_of_contains : ∀ P, group.contains P = true →
    ∃ value, group.encode P false = .ok ⟨value⟩ ∧
      value.length = 2 * group.fieldElementLength ∧ group.decode value = .ok P ∧
      group.encode P true = .ok ⟨value.take group.fieldElementLength⟩
  encode_identity : ∀ xOnly, ∃ e, group.encode .identity xOnly = .error e
  decode_ne_identity : ∀ value, group.decode value ≠ .ok .identity

/-! ## Reading -/

theorem decode_of_length_ne {value : Octets}
    (h : value.length ≠ 2 * group.fieldElementLength) :
    group.decode value =
      .error (.malformedInput "ECDH public value" "unexpected length") := by
  simp only [decode, ExchangeError.requireLength, if_neg h]
  rfl

theorem decode_of_length {value : Octets}
    (h : value.length = 2 * group.fieldElementLength) :
    group.decode value =
      (group.pointOfAffine (value.take group.fieldElementLength)
        (value.drop group.fieldElementLength)).mapError
          fun _ => .invalidPoint "ECDH public value" := by
  simp only [decode, ExchangeError.requireLength, if_pos h]
  rfl

theorem coordinates_halves_iff {value : Octets}
    (h : value.length = 2 * group.fieldElementLength) :
    group.Coordinates (value.take group.fieldElementLength)
        (value.drop group.fieldElementLength) ↔ group.HoldsSolution value := by
  constructor
  · exact Coordinates.solves
  · intro hsolves
    refine ⟨?_, ?_, hsolves⟩
    · rw [List.length_take]
      omega
    · rw [List.length_drop]
      omega

theorem Coherent.decode_of_holdsSolution (h : group.Coherent) {value : Octets}
    (hlength : value.length = 2 * group.fieldElementLength)
    (hsolution : group.HoldsSolution value) :
    group.decode value = .ok (.affine (value.take group.fieldElementLength)
      (value.drop group.fieldElementLength)) := by
  have hcoordinates := (coordinates_halves_iff hlength).mpr hsolution
  rw [decode_of_length hlength, h.pointOfAffine_eq_ok_iff.mpr ⟨rfl, hcoordinates⟩]
  rfl

theorem Coherent.decode_of_not_holdsSolution (h : group.Coherent) {value : Octets}
    (hlength : value.length = 2 * group.fieldElementLength)
    (hsolution : ¬group.HoldsSolution value) :
    group.decode value = .error (.invalidPoint "ECDH public value") := by
  rw [decode_of_length hlength]
  cases hpoint : group.pointOfAffine (value.take group.fieldElementLength)
      (value.drop group.fieldElementLength) with
  | error e => rfl
  | ok P =>
      obtain ⟨-, hcoordinates⟩ := h.pointOfAffine_eq_ok_iff.mp hpoint
      exact absurd hcoordinates.solves hsolution

/-- What is read depends on the length and on the curve equation alone. -/
theorem Coherent.decode_cases (h : group.Coherent) (value : Octets) :
    (value.length ≠ 2 * group.fieldElementLength ∧
      group.decode value =
        .error (.malformedInput "ECDH public value" "unexpected length")) ∨
    (value.length = 2 * group.fieldElementLength ∧ group.HoldsSolution value ∧
      group.decode value = .ok (.affine (value.take group.fieldElementLength)
        (value.drop group.fieldElementLength))) ∨
    (value.length = 2 * group.fieldElementLength ∧ ¬group.HoldsSolution value ∧
      group.decode value = .error (.invalidPoint "ECDH public value")) := by
  by_cases hlength : value.length = 2 * group.fieldElementLength
  · by_cases hsolution : group.HoldsSolution value
    · exact Or.inr (Or.inl ⟨hlength, hsolution, h.decode_of_holdsSolution hlength hsolution⟩)
    · exact Or.inr (Or.inr
        ⟨hlength, hsolution, h.decode_of_not_holdsSolution hlength hsolution⟩)
  · exact Or.inl ⟨hlength, decode_of_length_ne hlength⟩

theorem Coherent.halves_of_decode (h : group.Coherent) {value : Octets} {P : Point}
    (hP : group.decode value = .ok P) :
    value.length = 2 * group.fieldElementLength ∧
      P = .affine (value.take group.fieldElementLength)
        (value.drop group.fieldElementLength) := by
  rcases h.decode_cases value with
    ⟨-, hdecode⟩ | ⟨hlength, -, hdecode⟩ | ⟨-, -, hdecode⟩
  · rw [hdecode] at hP
    contradiction
  · rw [hdecode] at hP
    exact ⟨hlength, (Except.ok.inj hP).symm⟩
  · rw [hdecode] at hP
    contradiction

/-! ## Writing -/

/-- A string of the right length is what is written for its two halves. -/
theorem encode_halves {value : Octets}
    (h : value.length = 2 * group.fieldElementLength) :
    group.encode (.affine (value.take group.fieldElementLength)
      (value.drop group.fieldElementLength)) false = .ok ⟨value⟩ := by
  have hx : (value.take group.fieldElementLength).length = group.fieldElementLength := by
    rw [List.length_take]
    omega
  have hy : (value.drop group.fieldElementLength).length = group.fieldElementLength := by
    rw [List.length_drop]
    omega
  rw [encode_affine hx hy, if_neg Bool.false_ne_true, List.take_append_drop]

theorem Coherent.exists_encode_of_coordinates (h : group.Coherent) {x y : Octets}
    (k : group.Coordinates x y) :
    ∃ value, group.encode (.affine x y) false = .ok ⟨value⟩ ∧
      value.length = 2 * group.fieldElementLength ∧ group.decode value = .ok (.affine x y) ∧
      group.encode (.affine x y) true = .ok ⟨value.take group.fieldElementLength⟩ := by
  have hfull := encode_affine k.length_x k.length_y false
  have hfirst := encode_affine k.length_x k.length_y true
  have hpoint := h.pointOfAffine_eq_ok_iff.mpr ⟨rfl, k⟩
  have hdecode := decode_of_encode k.length_x k.length_y hpoint hfull
  rw [if_neg Bool.false_ne_true] at hfull hdecode
  refine ⟨x ++ y, hfull, ?_, hdecode, ?_⟩
  · rw [List.length_append, k.length_x, k.length_y, two_mul]
  · rw [hfirst, if_pos rfl, List.take_left' k.length_x]

/-- Every explicit group, and every built-in group of a standard curve, reads
and writes public values exactly. -/
theorem wire_exact {group : CurveGroup}
    (h : (∃ explicitGroup, group = .explicit explicitGroup) ∨
      ∃ named : NamedCurve, named.group = .ok group) : group.WireExact := by
  have hcoherent : group.Coherent := by
    rcases h with ⟨explicitGroup, rfl⟩ | ⟨named, hnamed⟩
    · trivial
    · exact coherent_of_named hnamed
  constructor
  case malformed_iff =>
    intro value
    rcases hcoherent.decode_cases value with
      ⟨hlength, hdecode⟩ | ⟨hlength, -, hdecode⟩ | ⟨hlength, -, hdecode⟩
    all_goals simp [hdecode, hlength]
  case accepted_iff =>
    intro value
    rcases hcoherent.decode_cases value with
      ⟨hlength, hdecode⟩ | ⟨hlength, hsolution, hdecode⟩ | ⟨hlength, hsolution, hdecode⟩
    · simp [hdecode, hlength]
    · simp [hdecode, hlength, hsolution]
    · simp [hdecode, hlength, hsolution]
  case invalid_iff =>
    intro value
    rcases hcoherent.decode_cases value with
      ⟨hlength, hdecode⟩ | ⟨hlength, hsolution, hdecode⟩ | ⟨hlength, hsolution, hdecode⟩
    · simp [hdecode, hlength]
    · simp [hdecode, hlength, hsolution]
    · simp [hdecode, hlength, hsolution]
  case encode_of_decode =>
    intro value P hP
    obtain ⟨hlength, rfl⟩ := hcoherent.halves_of_decode hP
    exact encode_halves hlength
  case decode_of_contains =>
    intro P hP
    obtain ⟨x, y, rfl, k⟩ := hcoherent.contains_iff.mp hP
    exact hcoherent.exists_encode_of_coordinates k
  case encode_identity =>
    intro xOnly
    exact ⟨_, encode_identity xOnly⟩
  case decode_ne_identity =>
    intro value hidentity
    obtain ⟨-, hpoint⟩ := hcoherent.halves_of_decode hidentity
    contradiction

/-- The group of P-256 is one of them. -/
theorem wire_exact_nistP256 :
    NamedCurve.nistP256.group = .ok NistP256.group ∧ NistP256.group.WireExact :=
  ⟨rfl, wire_exact (Or.inr ⟨NamedCurve.nistP256, rfl⟩)⟩

end EcpAgreement.CurveGroup
