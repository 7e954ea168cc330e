import EcpAgreement.Proofs.Group.Wire
import EcpAgreement.Session.Basic

/-!
# Key pairs

A public value is the encoded multiple of the generator and a secret the encoded
multiple of the peer's point.  The point at infinity is refused twice, by the
check on the way and by the encoding itself, so the two equations leave the
check out.

A session is keyed when its private scalar is in the range of its group and its
public value belongs to that scalar.  Drawing a scalar and reading one give
scalars in range alike, so sessions are keyed from the start, and whatever is
done to them they stay keyed.
-/

namespace EcpAgreement

/-! ## Public values and secrets -/

namespace Session

variable {curve : CurveGroup} {k : Scalar} {session : Session} {settings : Lookup}

theorem publicValueOf_of_identity (h : curve.mulGenerator k = .ok .identity) :
    publicValueOf curve k = .error (.arithmeticFailure curve.name) := by
  rw [publicValueOf, h]
  rfl

theorem publicValueOf_of_affine {x y : Octets}
    (h : curve.mulGenerator k = .ok (.affine x y)) :
    publicValueOf curve k = (curve.encode (.affine x y) false).map Secret.octets := by
  rw [publicValueOf, h]
  rfl

theorem publicValueOf_eq_ok_iff {value : Octets} :
    publicValueOf curve k = .ok value ↔
      ∃ product, curve.mulGenerator k = .ok product ∧
        curve.encode product false = .ok ⟨value⟩ := by
  cases hmul : curve.mulGenerator k with
  | error e => simp [publicValueOf, hmul, mapError_error, bind, Except.bind]
  | ok product =>
      cases product with
      | identity =>
          constructor
          · intro h
            rw [publicValueOf, hmul] at h
            contradiction
          · rintro ⟨product, hproduct, hencode⟩
            rw [← Except.ok.inj hproduct, CurveGroup.encode_identity] at hencode
            contradiction
      | affine x y =>
          rw [publicValueOf_of_affine hmul]
          cases hencode : curve.encode (.affine x y) false with
          | error e => simp [Except.map, hencode]
          | ok encoded =>
              obtain ⟨octets⟩ := encoded
              simp [Except.map, hencode]

theorem deriveSecret_of_identity {peer : Point}
    (h : session.curve.mul peer session.privateKey = .ok .identity) :
    session.deriveSecret settings peer = .error (.arithmeticFailure session.curve.name) := by
  rw [deriveSecret, h]
  rfl

theorem deriveSecret_of_affine {peer : Point} {x y : Octets}
    (h : session.curve.mul peer session.privateKey = .ok (.affine x y)) :
    session.deriveSecret settings peer =
      session.curve.encode (.affine x y) (settings session.formatKey true) := by
  rw [deriveSecret, h]
  rfl

theorem deriveSecret_eq_ok_iff {peer : Point} {secret : Secret} :
    session.deriveSecret settings peer = .ok secret ↔
      ∃ product, session.curve.mul peer session.privateKey = .ok product ∧
        session.curve.encode product (settings session.formatKey true) = .ok secret := by
  cases hmul : session.curve.mul peer session.privateKey with
  | error e => simp [deriveSecret, hmul, mapError_error, bind, Except.bind]
  | ok product =>
      cases product with
      | identity =>
          constructor
          · intro h
            rw [deriveSecret, hmul] at h
            contradiction
          · rintro ⟨product, hproduct, hencode⟩
            rw [← Except.ok.inj hproduct, CurveGroup.encode_identity] at hencode
            contradiction
      | affine x y =>
          rw [deriveSecret_of_affine hmul]
          simp

end Session

/-! ## Scalars in range -/

/-- The number of the order. -/
def CurveGroup.order : CurveGroup → ℕ
  | .builtIn group => group.params.q.value
  | .explicit group => group.order.value

theorem CurveGroup.scalar_eq_ok_iff {group : CurveGroup} {s : Octets} {k : Scalar} :
    group.scalar s = .ok k ↔
      (0 < s.value ∧ s.value < group.order) ∧
        k.octets.length = group.orderLength ∧ k.octets.value = s.value := by
  cases group with
  | builtIn group => exact Scalar.belowOrder_eq_ok_iff
  | explicit group => exact Scalar.belowOrder_eq_ok_iff

theorem CurveGroup.eq_scalarRange_of_scalar {group : CurveGroup} {s : Octets} {e : CurveError}
    (h : group.scalar s = .error e) : e = .scalarRange group.name := by
  cases group with
  | builtIn group => exact Scalar.eq_scalarRange_of_belowOrder h
  | explicit group => exact Scalar.eq_scalarRange_of_belowOrder h

/-- A scalar as a group gives it out: from one to the order less one, in the
width of the order. -/
structure CurveGroup.InRange (group : CurveGroup) (k : Scalar) : Prop where
  pos : 0 < k.octets.value
  lt_order : k.octets.value < group.order
  length_eq : k.octets.length = group.orderLength

/-- Scalars of one group with one number are the same. -/
theorem CurveGroup.InRange.eq_of_value_eq {group : CurveGroup} {k l : Scalar}
    (hk : group.InRange k) (hl : group.InRange l) (h : k.octets.value = l.octets.value) :
    k = l := by
  obtain ⟨s⟩ := k
  obtain ⟨t⟩ := l
  obtain rfl : s = t := Octets.eq_of_value_eq (hk.length_eq.trans hl.length_eq.symm) h
  rfl

theorem CurveGroup.inRange_of_scalar {group : CurveGroup} {s : Octets} {k : Scalar}
    (h : group.scalar s = .ok k) : group.InRange k := by
  obtain ⟨⟨hpos, hlt⟩, hlength, hvalue⟩ := scalar_eq_ok_iff.mp h
  rw [← hvalue] at hpos hlt
  exact ⟨hpos, hlt, hlength⟩

theorem CurveGroup.inRange_of_randomScalarWithin {σ : Type} [RandomSource σ]
    {group : CurveGroup} {attempts : ℕ} {source next : σ} {k : Scalar}
    (h : group.randomScalarWithin attempts source = (.ok k, next)) : group.InRange k := by
  induction attempts generalizing source with
  | zero =>
      rw [randomScalarWithin] at h
      cases h
  | succ attempts ih =>
      rw [randomScalarWithin] at h
      split at h
      · cases h
      · split at h
        · rename_i hscalar
          obtain rfl := Except.ok.inj (congrArg Prod.fst h)
          exact inRange_of_scalar hscalar
        · exact ih h

namespace Session

/-- The private scalar is in range, and the public value belongs to it. -/
structure Keyed (session : Session) : Prop where
  inRange : session.curve.InRange session.privateKey
  publicValue_eq : publicValueOf session.curve session.privateKey = .ok session.publicValue

/-! ## Beginning -/

theorem drawKeyPair_eq_ok {σ : Type} [RandomSource σ] {curve : CurveGroup}
    {source next : σ} {k : Scalar} {value : Octets}
    (h : drawKeyPair curve source = (.ok (k, value), next)) :
    curve.InRange k ∧ publicValueOf curve k = .ok value := by
  rw [drawKeyPair] at h
  split at h
  · cases h
  · rename_i k' source' hdraw
    have hpair := congrArg Prod.fst h
    cases hvalue : publicValueOf curve k' with
    | error e =>
        simp only [hvalue, Except.map] at hpair
        contradiction
    | ok value' =>
        simp only [hvalue, Except.map] at hpair
        obtain ⟨rfl, rfl⟩ := Prod.mk.inj (Except.ok.inj hpair)
        exact ⟨CurveGroup.inRange_of_randomScalarWithin hdraw, hvalue⟩

/-- The session that begins on a curve with a key pair. -/
def begun (group : DhGroup) (curve : CurveGroup) (keyPair : Scalar × Octets) : Session where
  group := group
  curve := curve
  privateKey := keyPair.1
  publicValue := keyPair.2
  peer := none
  secret := none
  formatKey := EcpAgreement.formatKey defaultNamespace

/-- Once there is a curve, only drawing the key pair can fail. -/
theorem create_of_curve {σ : Type} [RandomSource σ] {group : DhGroup} {curve : CurveGroup}
    (hcurve : group.curveGroup.value = .ok curve) (source : σ) :
    (create group source).value.1 =
      (drawKeyPair curve source).1.map (begun group curve) := by
  simp only [create, hcurve]
  cases drawKeyPair curve source with
  | mk drawn next =>
      cases drawn with
      | error e => rfl
      | ok keyPair => rfl

theorem exists_begun_of_create {σ : Type} [RandomSource σ] {group : DhGroup} {source : σ}
    {session : Session} (h : (create group source).value.1 = .ok session) :
    ∃ curve keyPair, group.curveGroup.value = .ok curve ∧
      (drawKeyPair curve source).1 = .ok keyPair ∧ session = begun group curve keyPair := by
  cases hcurve : group.curveGroup.value with
  | error e =>
      simp only [create, hcurve] at h
      contradiction
  | ok curve =>
      rw [create_of_curve hcurve] at h
      cases hdraw : (drawKeyPair curve source).1 with
      | error e =>
          rw [hdraw] at h
          contradiction
      | ok keyPair =>
          rw [hdraw] at h
          exact ⟨curve, keyPair, rfl, hdraw, (Except.ok.inj h).symm⟩

/-- A session as it begins. -/
structure Fresh (group : DhGroup) (session : Session) : Prop where
  group_eq : session.group = group
  curve_eq : group.curveGroup.value = .ok session.curve
  keyed : session.Keyed
  peer_eq : session.peer = none
  secret_eq : session.secret = none
  formatKey_eq : session.formatKey = EcpAgreement.formatKey defaultNamespace

theorem fresh_of_create {σ : Type} [RandomSource σ] {group : DhGroup} {source : σ}
    {session : Session} (h : (create group source).value.1 = .ok session) :
    session.Fresh group := by
  obtain ⟨curve, ⟨k, value⟩, hcurve, hdraw, rfl⟩ := exists_begun_of_create h
  obtain ⟨hrange, hvalue⟩ := drawKeyPair_eq_ok (Prod.ext hdraw rfl)
  exact ⟨rfl, hcurve, ⟨hrange, hvalue⟩, rfl, rfl, rfl⟩

/-! ## Replacing the scalar -/

section Replacement

variable {session : Session} {value publicValue : Octets} {k : Scalar}

theorem setPrivateValue_of_unread {e : CurveError} (h : session.curve.scalar value = .error e) :
    session.setPrivateValue value =
      { session := session, outcome := .error e.toExchange, events := [] } := by
  simp only [setPrivateValue, h]
  rfl

theorem setPrivateValue_of_unpublished {e : ExchangeError}
    (hk : session.curve.scalar value = .ok k) (h : publicValueOf session.curve k = .error e) :
    session.setPrivateValue value = { session := session, outcome := .error e, events := [] } := by
  simp only [setPrivateValue, hk, mapError_ok, bind, Except.bind, h]

theorem setPrivateValue_of_published (hk : session.curve.scalar value = .ok k)
    (h : publicValueOf session.curve k = .ok publicValue) :
    session.setPrivateValue value =
      { session := { session with privateKey := k, publicValue := publicValue }
        outcome := .ok ()
        events := [] } := by
  simp only [setPrivateValue, hk, mapError_ok, bind, Except.bind, h]
  rfl

end Replacement

/-- Replacing the scalar changes the key pair alone, and leaves it consistent. -/
theorem setPrivateValue_session (session : Session) (value : Octets) :
    (session.setPrivateValue value).session = session ∨
      ∃ k publicValue, session.curve.scalar value = .ok k ∧
        publicValueOf session.curve k = .ok publicValue ∧
        (session.setPrivateValue value).session =
          { session with privateKey := k, publicValue := publicValue } := by
  cases hscalar : session.curve.scalar value with
  | error e =>
      left
      rw [setPrivateValue_of_unread hscalar]
  | ok k =>
      cases hvalue : publicValueOf session.curve k with
      | error e =>
          left
          rw [setPrivateValue_of_unpublished hscalar hvalue]
      | ok publicValue =>
          right
          refine ⟨k, publicValue, rfl, hvalue, ?_⟩
          rw [setPrivateValue_of_published hscalar hvalue]

theorem Keyed.setPrivateValue {session : Session} (h : session.Keyed) (value : Octets) :
    (session.setPrivateValue value).session.Keyed := by
  rcases setPrivateValue_session session value with hsame | ⟨k, publicValue, hk, hvalue, heq⟩
  · rw [hsame]
    exact h
  · rw [heq]
    exact ⟨CurveGroup.inRange_of_scalar hk, hvalue⟩

end Session

end EcpAgreement
