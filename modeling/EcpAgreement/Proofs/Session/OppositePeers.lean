import EcpAgreement.Proofs.Curve.Negation
import EcpAgreement.Proofs.Session.Closure
import EcpAgreement.Proofs.Session.History

/-!
# Peers with opposite points

Two peer values that differ in the sign of the second coordinate are both
accepted or both refused, and for the same reason, whatever the private scalar.
What is derived from them is the same first coordinate with opposite second
ones, so a secret that is the first coordinate alone does not tell them apart.
-/

namespace EcpAgreement

theorem DhGroup.verifyValue_of_length_eq {group : DhGroup} {value value' : Octets}
    (h : value.length = value'.length) : group.verifyValue value = group.verifyValue value' := by
  simp only [verifyValue, ExchangeError.requireLength, h]

namespace ExplicitGroup

variable {group : ExplicitGroup} {session : Session} {settings : Lookup} {x y : Octets}

/-- A secret in full with the second coordinate negated. -/
def oppositeSecret (group : ExplicitGroup) (secret : Secret) : Secret :=
  ⟨secret.octets.take group.fieldElementLength ++
    group.curve.field.negated (secret.octets.drop group.fieldElementLength)⟩

theorem oppositeSecret_append {u v : Octets} (hu : u.length = group.fieldElementLength) :
    group.oppositeSecret ⟨u ++ v⟩ = ⟨u ++ group.curve.field.negated v⟩ := by
  rw [oppositeSecret, List.take_left' hu, List.drop_left' hu]

/-! ## One derivation -/

/-- Opposite points derive alike: both run into infinity, or both give coordinates
that differ in the sign of the second one. -/
theorem deriveSecret_opposite (hcurve : session.curve = .explicit group)
    (h : group.curve.contains (.affine x y) = true) (settings : Lookup) :
    (∃ e, session.deriveSecret settings (.affine x y) = .error e ∧
      session.deriveSecret settings (.affine x (group.curve.field.negated y)) = .error e) ∨
    ∃ u v, u.length = group.fieldElementLength ∧
      session.deriveSecret settings (.affine x y) =
        .ok ⟨if settings session.formatKey true then u else u ++ v⟩ ∧
      session.deriveSecret settings (.affine x (group.curve.field.negated y)) =
        .ok ⟨if settings session.formatKey true then u
          else u ++ group.curve.field.negated v⟩ := by
  obtain ⟨R, hmul, hR⟩ := PrimeCurve.exists_canonical_multiple
    (PrimeCurve.canonical_of_contains h) session.privateKey.octets
  have hopposite := PrimeCurve.multiple_opposite hmul
  have hsession : session.curve.mul (.affine x y) session.privateKey = .ok R := by
    rw [hcurve]
    exact hmul
  have hsession' : session.curve.mul (.affine x (group.curve.field.negated y))
      session.privateKey = .ok (group.curve.opposite R) := by
    rw [hcurve]
    exact hopposite
  cases R with
  | identity =>
      left
      exact ⟨_, Session.deriveSecret_of_identity hsession,
        Session.deriveSecret_of_identity hsession'⟩
  | affine u v =>
      right
      obtain ⟨hu, hv, -, -, -⟩ := hR
      have hnegated : (group.curve.field.negated v).length = group.fieldElementLength :=
        PrimeField.length_negated v
      refine ⟨u, v, hu, ?_, ?_⟩
      · rw [Session.deriveSecret_of_affine hsession, hcurve]
        exact CurveGroup.encode_affine hu hv _
      · rw [Session.deriveSecret_of_affine hsession', hcurve]
        exact CurveGroup.encode_affine hu hnegated _

/-! ## Whole calls -/

theorem readPeer_append (hcurve : session.curve = .explicit group)
    (h : group.curve.contains (.affine x y) = true)
    (hlength : session.group.verifyValue (x ++ y) = .ok ()) :
    session.readPeer (x ++ y) = .ok (.affine x y) := by
  obtain ⟨hx, hy, -, -, -⟩ := PrimeCurve.canonical_of_contains h
  have hdecode : session.curve.decode (x ++ y) = .ok (.affine x y) := by
    rw [hcurve, CurveGroup.decode_append hx hy]
    have hpoint : (CurveGroup.explicit group).pointOfAffine x y = .ok (.affine x y) :=
      PrimeCurve.point_of_contains h
    rw [hpoint]
    rfl
  rw [Session.readPeer, hlength]
  exact hdecode

/-- What a session answers to two opposite peer values, and what it then holds. -/
structure AnswersOpposite (group : ExplicitGroup) (session : Session) (settings : Lookup)
    (x y : Octets) : Prop where
  outcome_eq :
    (session.setOtherPublicValue settings (x ++ group.curve.field.negated y)).outcome =
      (session.setOtherPublicValue settings (x ++ y)).outcome
  first_eq : settings session.formatKey true = true →
    (session.setOtherPublicValue settings (x ++ group.curve.field.negated y)).session.secret =
      (session.setOtherPublicValue settings (x ++ y)).session.secret
  full_opposite : settings session.formatKey true = false →
    (session.setOtherPublicValue settings (x ++ group.curve.field.negated y)).session.secret =
      (session.setOtherPublicValue settings (x ++ y)).session.secret.map group.oppositeSecret

theorem answersOpposite_of_error {e : ExchangeError} {events events' : List LogEvent}
    (h : session.setOtherPublicValue settings (x ++ y) =
      { session := session.cleared, outcome := .error e, events := events })
    (h' : session.setOtherPublicValue settings (x ++ group.curve.field.negated y) =
      { session := session.cleared, outcome := .error e, events := events' }) :
    group.AnswersOpposite session settings x y where
  outcome_eq := by rw [h, h']
  first_eq _ := by rw [h, h']
  full_opposite _ := by
    rw [h, h']
    rfl

theorem answersOpposite (hcurve : session.curve = .explicit group)
    (h : group.curve.contains (.affine x y) = true) (settings : Lookup) :
    group.AnswersOpposite session settings x y := by
  have h' := PrimeCurve.contains_opposite h
  have hlength : (x ++ y).length = (x ++ group.curve.field.negated y).length := by
    obtain ⟨-, hy, -, -, -⟩ := PrimeCurve.canonical_of_contains h
    rw [List.length_append, List.length_append, hy, PrimeField.length_negated]
  have hverify : session.group.verifyValue (x ++ y) =
      session.group.verifyValue (x ++ group.curve.field.negated y) :=
    DhGroup.verifyValue_of_length_eq hlength
  cases hchecked : session.group.verifyValue (x ++ y) with
  | error e =>
      have hread : session.readPeer (x ++ y) = .error e := by
        rw [Session.readPeer, hchecked]
        rfl
      have hread' : session.readPeer (x ++ group.curve.field.negated y) = .error e := by
        rw [Session.readPeer, ← hverify, hchecked]
        rfl
      exact answersOpposite_of_error (Session.setOtherPublicValue_of_unread hread)
        (Session.setOtherPublicValue_of_unread hread')
  | ok checked =>
      have hread := readPeer_append hcurve h hchecked
      have hread' := readPeer_append hcurve h' (hverify.symm.trans hchecked)
      rcases deriveSecret_opposite hcurve h settings with
        ⟨e, hderive, hderive'⟩ | ⟨u, v, hu, hderive, hderive'⟩
      · exact answersOpposite_of_error
          (Session.setOtherPublicValue_of_underived hread hderive)
          (Session.setOtherPublicValue_of_underived hread' hderive')
      · have hcall := Session.setOtherPublicValue_of_derived hread hderive
        have hcall' := Session.setOtherPublicValue_of_derived hread' hderive'
        constructor
        · rw [hcall, hcall']
        · intro hfirst
          rw [hcall, hcall', if_pos hfirst, if_pos hfirst]
        · intro hfull
          have hnot : ¬settings session.formatKey true = true := by simp [hfull]
          rw [hcall, hcall', if_neg hnot, if_neg hnot, Option.map_some,
            oppositeSecret_append hu]

end ExplicitGroup

/-- What a point of a curve and its opposite come to, in multiplications and as peer
values, in every group on the curve. -/
structure PrimeCurve.CommutesWithNegation (curve : PrimeCurve) (x y : Octets) : Prop where
  contains_opposite : curve.contains (.affine x (curve.field.negated y)) = true
  mul_opposite : ∀ group : ExplicitGroup, group.curve = curve → ∀ k,
    ∃ R, group.mul (.affine x y) k = .ok R ∧
      group.mul (.affine x (curve.field.negated y)) k = .ok (curve.opposite R)
  mulByOrder_opposite : ∀ group : ExplicitGroup, group.curve = curve →
    ∃ R, group.mulByOrder (.affine x y) = .ok R ∧
      group.mulByOrder (.affine x (curve.field.negated y)) = .ok (curve.opposite R)
  answersOpposite : ∀ group : ExplicitGroup, group.curve = curve → ∀ session : Session,
    session.curve = .explicit group → ∀ settings, group.AnswersOpposite session settings x y

/-- On every curve, over every modulus, multiplication commutes with negation, and
opposite peer values give secrets that differ in the sign of the second
coordinate. -/
theorem PrimeCurve.negation_commutes {curve : PrimeCurve} {x y : Octets}
    (h : curve.contains (.affine x y) = true) : curve.CommutesWithNegation x y := by
  have hmultiple : ∀ s, ∃ R, curve.multiple (.affine x y) s = .ok R ∧
      curve.multiple (.affine x (curve.field.negated y)) s = .ok (curve.opposite R) := by
    intro s
    obtain ⟨R, hR, -⟩ := exists_canonical_multiple (canonical_of_contains h) s
    exact ⟨R, hR, multiple_opposite hR⟩
  constructor
  case contains_opposite => exact PrimeCurve.contains_opposite h
  case mul_opposite =>
    rintro group rfl k
    exact hmultiple k.octets
  case mulByOrder_opposite =>
    rintro group rfl
    exact hmultiple group.order
  case answersOpposite =>
    rintro group rfl session hcurve settings
    exact ExplicitGroup.answersOpposite hcurve h settings

/-- The curve `y² = x³ + x + 1` over the residues modulo 35.  Five times `(0, 1)` is
at infinity modulo seven and finite modulo five. -/
def PrimeCurve.thirtyFive : PrimeCurve where
  field :=
    { modulus := [35]
      size := 35
      value_modulus := rfl
      significantLength_modulus := by decide
      three_lt_size := by decide
      size_odd := rfl }
  a := ⟨1, by decide⟩
  b := ⟨1, by decide⟩
  nonsingular := by decide

theorem PrimeCurve.negation_commutes_thirtyFive :
    PrimeCurve.thirtyFive.contains (.affine [0] [1]) = true ∧
      PrimeCurve.thirtyFive.CommutesWithNegation [0] [1] := by
  have h : PrimeCurve.thirtyFive.contains (.affine [0] [1]) = true := by decide
  exact ⟨h, PrimeCurve.negation_commutes h⟩

end EcpAgreement
