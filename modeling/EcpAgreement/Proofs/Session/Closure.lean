import EcpAgreement.Proofs.Curve.Closure
import EcpAgreement.Proofs.Session.KeyPair

/-!
# Values of explicit groups

Every point that an explicit group gives out is one that it takes back, whatever
its modulus and whatever the order of its curve.  A value that is written from
such a point is therefore read as that point.
-/

namespace EcpAgreement.ExplicitGroup

variable {group : ExplicitGroup}

theorem canonical_generator : group.curve.Canonical group.generator :=
  PrimeCurve.canonical_of_contains group.contains_generator

theorem canonical_of_point {x y : Octets} {R : Point}
    (h : group.curve.point x y = .ok R) : group.curve.Canonical R :=
  PrimeCurve.canonical_of_contains (PrimeCurve.eq_affine_of_point h).2

/-- A value written from a point of the group is read as that point. -/
theorem decode_of_canonical {R : Point} {value : Secret}
    (hR : group.curve.Canonical R)
    (h : (CurveGroup.explicit group).encode R false = .ok value) :
    (CurveGroup.explicit group).decode value.octets = .ok R := by
  cases R with
  | identity =>
      rw [CurveGroup.encode_identity] at h
      contradiction
  | affine x y =>
      obtain ⟨hx, hy, -, -, hcontains⟩ := hR
      exact CurveGroup.decode_of_encode hx hy (PrimeCurve.point_of_contains hcontains) h

theorem decode_of_publicValueOf {k : Scalar} {value : Octets}
    (h : Session.publicValueOf (.explicit group) k = .ok value) :
    ∃ R, group.mulGenerator k = .ok R ∧ (CurveGroup.explicit group).decode value = .ok R := by
  obtain ⟨R, hmul, hencode⟩ := Session.publicValueOf_eq_ok_iff.mp h
  have hR : group.curve.Canonical R := PrimeCurve.canonical_of_multiple hmul
  exact ⟨R, hmul, decode_of_canonical hR hencode⟩

theorem decode_of_deriveSecret {session : Session} {settings : Lookup} {peer : Point}
    {secret : Secret} (hcurve : session.curve = .explicit group)
    (hfull : settings session.formatKey true = false)
    (h : session.deriveSecret settings peer = .ok secret) :
    ∃ R, group.mul peer session.privateKey = .ok R ∧
      (CurveGroup.explicit group).decode secret.octets = .ok R := by
  obtain ⟨R, hmul, hencode⟩ := Session.deriveSecret_eq_ok_iff.mp h
  rw [hcurve] at hmul hencode
  rw [hfull] at hencode
  have hR : group.curve.Canonical R := PrimeCurve.canonical_of_multiple hmul
  exact ⟨R, hmul, decode_of_canonical hR hencode⟩

/-- Everything an explicit group computes stays among the points it admits, and
everything that is written from it in full is read back. -/
theorem closed_under_operations (group : ExplicitGroup) :
    group.curve.Canonical group.generator ∧
      (∀ x y R, group.curve.point x y = .ok R → group.curve.Canonical R) ∧
      (∀ x y R, group.pointOfAffine x y = .ok R → group.curve.Canonical R) ∧
      (∀ k, ∃ R, group.mulGenerator k = .ok R ∧ group.curve.Canonical R) ∧
      (∀ P, P = .identity ∨ group.contains P = true →
        (∀ k, ∃ R, group.mul P k = .ok R ∧ group.curve.Canonical R) ∧
          ∃ R, group.mulByOrder P = .ok R ∧ group.curve.Canonical R) ∧
      (∀ k value, Session.publicValueOf (.explicit group) k = .ok value →
        ∃ R, group.mulGenerator k = .ok R ∧
          (CurveGroup.explicit group).decode value = .ok R) ∧
      (∀ session settings peer secret, session.curve = .explicit group →
        settings session.formatKey true = false →
        Session.deriveSecret session settings peer = .ok secret →
        ∃ R, group.mul peer session.privateKey = .ok R ∧
          (CurveGroup.explicit group).decode secret.octets = .ok R) := by
  refine ⟨canonical_generator, ?_, ?_, ?_, ?_, ?_, ?_⟩
  · intro x y R h
    exact canonical_of_point h
  · intro x y R h
    exact canonical_of_point h
  · intro k
    exact PrimeCurve.exists_canonical_multiple canonical_generator k.octets
  · intro P hP
    have hcanonical : group.curve.Canonical P := PrimeCurve.canonical_iff.mpr hP
    constructor
    · intro k
      exact PrimeCurve.exists_canonical_multiple hcanonical k.octets
    · exact PrimeCurve.exists_canonical_multiple hcanonical group.order
  · intro k value h
    exact decode_of_publicValueOf h
  · intro session settings peer secret hcurve hfull h
    exact decode_of_deriveSecret hcurve hfull h

end EcpAgreement.ExplicitGroup
