import EcpAgreement.Proofs.Group.Genuine
import EcpAgreement.Proofs.Session.History

/-!
# Reachable sessions

The states that sessions on one curve come to: how a session begins, and what
can happen to it afterwards.  The curve may be any one, also one that serves no
group of a negotiation, as long as its field elements have the width that the
group asks for.  Every reachable session still serves its curve with a scalar in
range (`Reachable.exists_serves`), so that it reads peer values as the curve does.
-/

namespace EcpAgreement

/-- Groups with field elements of one width check the length of values alike. -/
theorem DhGroup.verifyValue_of_width {group : DhGroup} {width : ℕ}
    (h : group.fieldElementLength? = some width) (value : Octets) :
    group.verifyValue value =
      ExchangeError.requireLength "public value" value.length (2 * width) := by
  rw [verifyValue, publicValueLength?, h, Option.map_some]

namespace Session

/-- The sessions on a curve that can come about. -/
inductive Reachable (curve : CurveGroup) : Session → Prop where
  /-- A session begins with a scalar drawn on the curve. -/
  | begin {σ : Type} [RandomSource σ] {group : DhGroup} {source next : σ} {k : Scalar}
      {value : Octets} (hwidth : group.fieldElementLength? = some curve.fieldElementLength)
      (hdraw : drawKeyPair curve source = (.ok (k, value), next)) :
      Reachable curve
        { group := group
          curve := curve
          privateKey := k
          publicValue := value
          peer := none
          secret := none
          formatKey := EcpAgreement.formatKey defaultNamespace }
  /-- The format of its secrets is looked up elsewhere. -/
  | inNamespace {session : Session} (scope : String) (h : Reachable curve session) :
      Reachable curve (session.inNamespace scope)
  /-- Something happens at its party, whatever the settings are there. -/
  | act {party : Party} (action : Action) (h : Reachable curve party.session) :
      Reachable curve (party.act action).session

variable {curve : CurveGroup} {session : Session} {settings : Lookup} {value : Octets}

/-! ## What is reachable -/

theorem reachable_of_create {σ : Type} [RandomSource σ] {group : DhGroup} {source : σ}
    (h : (create group source).value.1 = .ok session) : session.Reachable session.curve := by
  obtain ⟨curve, ⟨k, value⟩, hcurve, hdraw, rfl⟩ := exists_begun_of_create h
  exact .begin (CurveGroup.fieldElementLength_of_curveGroup hcurve) (Prod.ext hdraw rfl)

theorem Reachable.after {party : Party} (h : party.session.Reachable curve)
    (actions : List Action) : (party.after actions).session.Reachable curve := by
  induction actions generalizing party with
  | nil => exact h
  | cons action rest ih => exact ih (.act action h)

/-! ## What reachable sessions have in common -/

theorem Serves.act {group : DhGroup} {formatKey : String} {party : Party}
    (h : party.session.Serves group curve formatKey) (action : Action) :
    (party.act action).session.Serves group curve formatKey := by
  cases action with
  | setPrivateValue value => exact h.setPrivateValue value
  | setOtherPublicValue value => exact h.setOtherPublicValue party.settings value
  | changeSettings settings => exact h
  | ask => exact h

theorem Reachable.exists_serves (h : session.Reachable curve) :
    ∃ group formatKey, group.fieldElementLength? = some curve.fieldElementLength ∧
      session.Serves group curve formatKey := by
  induction h with
  | begin hwidth hdraw =>
      obtain ⟨hrange, hvalue⟩ := drawKeyPair_eq_ok hdraw
      exact ⟨_, _, hwidth, rfl, rfl, rfl, hrange, hvalue⟩
  | inNamespace scope h ih =>
      obtain ⟨group, formatKey, hwidth, hserves⟩ := ih
      exact ⟨group, EcpAgreement.formatKey scope, hwidth, hserves.group_eq, hserves.curve_eq,
        rfl, hserves.keyed.inRange, hserves.keyed.publicValue_eq⟩
  | act action h ih =>
      obtain ⟨group, formatKey, hwidth, hserves⟩ := ih
      exact ⟨group, formatKey, hwidth, hserves.act action⟩

theorem Reachable.curve_eq (h : session.Reachable curve) : session.curve = curve := by
  obtain ⟨group, formatKey, -, hserves⟩ := h.exists_serves
  exact hserves.curve_eq

theorem Reachable.inRange (h : session.Reachable curve) :
    curve.InRange session.privateKey := by
  obtain ⟨group, formatKey, -, hserves⟩ := h.exists_serves
  exact hserves.inRange

theorem Reachable.width_eq (h : session.Reachable curve) :
    session.group.fieldElementLength? = some curve.fieldElementLength := by
  obtain ⟨group, formatKey, hwidth, hserves⟩ := h.exists_serves
  rw [hserves.group_eq, hwidth]

theorem Reachable.verifyValue_eq (h : session.Reachable curve) (value : Octets) :
    session.group.verifyValue value =
      ExchangeError.requireLength "public value" value.length
        (2 * curve.fieldElementLength) :=
  DhGroup.verifyValue_of_width h.width_eq value

/-! ## What reachable sessions read -/

theorem Reachable.readPeer_of_length_ne (h : session.Reachable curve)
    (hlength : value.length ≠ 2 * curve.fieldElementLength) :
    session.readPeer value = .error (.malformedInput "public value" "unexpected length") := by
  rw [readPeer, h.verifyValue_eq, ExchangeError.requireLength, if_neg hlength]
  rfl

theorem Reachable.readPeer_of_length (h : session.Reachable curve)
    (hlength : value.length = 2 * curve.fieldElementLength) :
    session.readPeer value = curve.decode value := by
  rw [readPeer, h.verifyValue_eq, ExchangeError.requireLength, if_pos hlength, h.curve_eq]
  rfl

end Session

end EcpAgreement
