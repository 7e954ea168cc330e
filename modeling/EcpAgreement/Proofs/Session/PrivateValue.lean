import EcpAgreement.Proofs.Group.NistP256
import EcpAgreement.Proofs.Session.KeyGeneration
import EcpAgreement.Proofs.Session.Reachable

/-!
# Private values are numbers

A session that is given a private value takes the key pair of the number that the
value writes, or reports why there is none and stays as it was.  A session that
begins with a scalar drawn at random takes its key pair in the same way
(`keyPairOf`).  So what was drawn and what was given, in whatever octets, cannot be
told apart by the public value or by what becomes of peer values.

A number in range has no key pair only if it takes the generator to infinity, for
every group multiplies its generator by every scalar in range, and writes the
product if that is finite.
-/

namespace EcpAgreement

namespace CurveGroup

variable {group : CurveGroup} {k : Scalar}

/-- A scalar in range takes the generator to infinity or to a point that can be
written. -/
theorem Coherent.mulGenerator_cases (h : group.Coherent) (hk : group.InRange k) :
    group.mulGenerator k = .ok .identity ∨
      ∃ x y, group.mulGenerator k = .ok (.affine x y) ∧
        x.length = group.fieldElementLength ∧ y.length = group.fieldElementLength := by
  cases group with
  | explicit group =>
      have hgenerator : group.curve.Canonical group.generator :=
        ExplicitGroup.canonical_generator
      obtain ⟨R, hmul, hR⟩ := PrimeCurve.exists_canonical_multiple hgenerator k.octets
      cases R with
      | identity => exact Or.inl hmul
      | affine x y =>
          obtain ⟨hx, hy, -, -, -⟩ := hR
          exact Or.inr ⟨x, y, hmul, hx, hy⟩
  | builtIn group =>
      obtain ⟨hlength, hpos, hlt⟩ := multiplier_bounds h hk
      have hmul : (builtIn group).mulGenerator k =
          .ok (group.ofAffine (group.curve.multiple k.octets.value group.curve.generator)) := by
        simp only [mulGenerator, BuiltInGroup.mulGenerator,
          BuiltInGroup.multiplier_eq hlength hpos hlt]
        rfl
      have hwidth : group.curve.width = (builtIn group).fieldElementLength :=
        (BuiltInGroup.Coherent.width_eq h).symm
      rw [hmul]
      cases group.curve.multiple k.octets.value group.curve.generator with
      | infinity => exact Or.inl rfl
      | finite x y =>
          refine Or.inr ⟨_, _, rfl, ?_, ?_⟩
          · rw [Octets.length_ofNat, hwidth]
          · rw [Octets.length_ofNat, hwidth]

/-- A scalar in range lacks a public value only at infinity. -/
theorem Coherent.publicValueOf_cases (h : group.Coherent) (hk : group.InRange k) :
    (group.mulGenerator k = .ok .identity ∧
      Session.publicValueOf group k = .error (.arithmeticFailure group.name)) ∨
    (group.mulGenerator k ≠ .ok .identity ∧
      ∃ publicValue, Session.publicValueOf group k = .ok publicValue) := by
  rcases h.mulGenerator_cases hk with hmul | ⟨x, y, hmul, hx, hy⟩
  · exact Or.inl ⟨hmul, Session.publicValueOf_of_identity hmul⟩
  · have hencode := encode_affine hx hy false
    refine Or.inr ⟨?_, _, Session.publicValueOf_eq_ok_iff.mpr ⟨_, hmul, hencode⟩⟩
    simp [hmul]

end CurveGroup

namespace Session

variable {curve : CurveGroup} {session first second : Session} {settings settings' : Lookup}
  {value : Octets}

/-! ## The key pair of a number -/

/-- The scalar with a number and its public value, or why there is no such pair. -/
def keyPairOf (curve : CurveGroup) (n : ℕ) : Except ExchangeError (Scalar × Octets) :=
  if 0 < n ∧ n < curve.order then
    (publicValueOf curve (curve.scalarOf n)).map fun publicValue =>
      (curve.scalarOf n, publicValue)
  else
    .error (.malformedInput curve.name "scalar outside [1, q-1]")

/-- What is drawn at random is the key pair of the number of the accepted draw. -/
theorem drawKeyPair_of_drawsNumber {σ : Type} [RandomSource σ] {source : σ} {n : ℕ}
    (h : curve.DrawsNumber source n) : (drawKeyPair curve source).1 = keyPairOf curve n := by
  rw [drawKeyPair_of_drawn (CurveGroup.randomScalar_of_drawsNumber h), keyPairOf,
    if_pos h.range]

/-- The session with another key pair. -/
def withKeyPair (session : Session) (keyPair : Scalar × Octets) : Session :=
  { session with privateKey := keyPair.1, publicValue := keyPair.2 }

/-- The session that an operation leaves behind, or its error. -/
def Attempt.result (attempt : Attempt) : Except ExchangeError Session :=
  attempt.outcome.map fun _ => attempt.session

/-- What is given is the key pair of the number that was written. -/
theorem result_setPrivateValue (session : Session) (value : Octets) :
    (session.setPrivateValue value).result =
      (keyPairOf session.curve (Octets.value value)).map session.withKeyPair := by
  by_cases hrange : 0 < Octets.value value ∧ Octets.value value < session.curve.order
  · have hscalar := CurveGroup.scalar_eq_scalarOf hrange.1 hrange.2
    rw [keyPairOf, if_pos hrange]
    cases hvalue : publicValueOf session.curve (session.curve.scalarOf (Octets.value value)) with
    | error e =>
        rw [setPrivateValue_of_unpublished hscalar hvalue]
        rfl
    | ok publicValue =>
        rw [setPrivateValue_of_published hscalar hvalue]
        rfl
  · rw [keyPairOf, if_neg hrange]
    cases hscalar : session.curve.scalar value with
    | error e =>
        rw [setPrivateValue_of_unread hscalar, CurveGroup.eq_scalarRange_of_scalar hscalar]
        rfl
    | ok k => exact absurd (CurveGroup.exists_scalar_iff.mp ⟨k, hscalar⟩) hrange

theorem Attempt.outcome_eq_error_iff {attempt : Attempt} {e : ExchangeError} :
    attempt.outcome = .error e ↔ attempt.result = .error e := by
  cases h : attempt.outcome with
  | error cause => simp [result, h, Except.map]
  | ok done => simp [result, h, Except.map]

theorem outcome_setPrivateValue_eq_error_iff {e : ExchangeError} :
    (session.setPrivateValue value).outcome = .error e ↔
      keyPairOf session.curve (Octets.value value) = .error e := by
  rw [Attempt.outcome_eq_error_iff, result_setPrivateValue]
  cases keyPairOf session.curve (Octets.value value) with
  | error cause => simp [Except.map]
  | ok keyPair => simp [Except.map]

theorem setPrivateValue_of_error {e : ExchangeError}
    (h : (session.setPrivateValue value).outcome = .error e) :
    (session.setPrivateValue value).session = session := by
  rcases setPrivateValue_session session value with hsame | ⟨k, publicValue, hk, hvalue, -⟩
  · exact hsame
  · rw [setPrivateValue_of_published hk hvalue] at h
    contradiction

/-- Whether there is a key pair is decided by the range and by the multiple of the
generator. -/
theorem keyPairOf_cases (h : curve.Coherent) (n : ℕ) :
    (¬(0 < n ∧ n < curve.order) ∧
      keyPairOf curve n =
        .error (.malformedInput curve.name "scalar outside [1, q-1]")) ∨
    ((0 < n ∧ n < curve.order) ∧ curve.mulGenerator (curve.scalarOf n) = .ok .identity ∧
      keyPairOf curve n = .error (.arithmeticFailure curve.name)) ∨
    ((0 < n ∧ n < curve.order) ∧ curve.mulGenerator (curve.scalarOf n) ≠ .ok .identity ∧
      ∃ keyPair, keyPairOf curve n = .ok keyPair) := by
  by_cases hrange : 0 < n ∧ n < curve.order
  · rw [keyPairOf, if_pos hrange]
    rcases h.publicValueOf_cases (CurveGroup.inRange_scalarOf hrange.1 hrange.2) with
      ⟨hidentity, hvalue⟩ | ⟨hfinite, publicValue, hvalue⟩
    · refine Or.inr (Or.inl ⟨hrange, hidentity, ?_⟩)
      rw [hvalue]
      rfl
    · rw [hvalue]
      exact Or.inr (Or.inr ⟨hrange, hfinite, _, rfl⟩)
  · rw [keyPairOf, if_neg hrange]
    exact Or.inl ⟨hrange, rfl⟩

theorem eq_of_keyPairOf {n : ℕ} {k : Scalar} {publicValue : Octets}
    (h : keyPairOf curve n = .ok (k, publicValue)) :
    k = curve.scalarOf n ∧ publicValueOf curve k = .ok publicValue := by
  rw [keyPairOf] at h
  split at h
  · cases hvalue : publicValueOf curve (curve.scalarOf n) with
    | error e =>
        rw [hvalue] at h
        contradiction
    | ok published =>
        rw [hvalue] at h
        obtain ⟨rfl, rfl⟩ := Prod.mk.inj (Except.ok.inj h)
        exact ⟨rfl, hvalue⟩
  · contradiction

theorem keyPairOf_malformed_iff (h : curve.Coherent) (n : ℕ) :
    (∃ context reason, keyPairOf curve n = .error (.malformedInput context reason)) ↔
      n = 0 ∨ curve.order ≤ n := by
  rcases keyPairOf_cases h n with
    ⟨hrange, hpair⟩ | ⟨hrange, -, hpair⟩ | ⟨hrange, -, keyPair, hpair⟩
  · have hout : n = 0 ∨ curve.order ≤ n := by omega
    simp [hpair, hout]
  all_goals
    have hin : ¬(n = 0 ∨ curve.order ≤ n) := by omega
    simp [hpair, hin]

theorem keyPairOf_arithmetic_iff (h : curve.Coherent) (n : ℕ) :
    (∃ context, keyPairOf curve n = .error (.arithmeticFailure context)) ↔
      (0 < n ∧ n < curve.order) ∧ curve.mulGenerator (curve.scalarOf n) = .ok .identity := by
  rcases keyPairOf_cases h n with
    ⟨hrange, hpair⟩ | ⟨hrange, hidentity, hpair⟩ | ⟨-, hfinite, keyPair, hpair⟩
  · simp [hpair, hrange]
  · simp [hpair, hrange, hidentity]
  · simp [hpair, hfinite]

theorem keyPairOf_error_cases (h : curve.Coherent) {n : ℕ} {e : ExchangeError}
    (he : keyPairOf curve n = .error e) :
    e = .malformedInput curve.name "scalar outside [1, q-1]" ∨
      e = .arithmeticFailure curve.name := by
  rcases keyPairOf_cases h n with ⟨-, hpair⟩ | ⟨-, -, hpair⟩ | ⟨-, -, keyPair, hpair⟩
  · rw [hpair] at he
    exact Or.inl (Except.error.inj he).symm
  · rw [hpair] at he
    exact Or.inr (Except.error.inj he).symm
  · rw [hpair] at he
    contradiction

/-! ## Sessions that answer alike -/

/-- Two sessions that show the same public value and, while they agree on the format
of secrets, answer every peer value alike. -/
structure AnswersAlike (first second : Session) : Prop where
  publicValue_eq : first.publicValue = second.publicValue
  outcome_eq : ∀ settings settings' : Lookup,
    settings first.formatKey true = settings' second.formatKey true → ∀ value,
      (first.setOtherPublicValue settings value).outcome =
        (second.setOtherPublicValue settings' value).outcome
  sharedSecret_eq : ∀ settings settings' : Lookup,
    settings first.formatKey true = settings' second.formatKey true → ∀ value,
      (first.setOtherPublicValue settings value).session.sharedSecret =
        (second.setOtherPublicValue settings' value).session.sharedSecret

/-- Two results with the same error, or with sessions that answer alike. -/
inductive ResultsAlike : Except ExchangeError Session → Except ExchangeError Session → Prop
  | error (e : ExchangeError) : ResultsAlike (.error e) (.error e)
  | ok {first second : Session} (h : first.AnswersAlike second) :
      ResultsAlike (.ok first) (.ok second)

/-- A session on a curve with a key pair. -/
structure Uses (curve : CurveGroup) (keyPair : Scalar × Octets) (session : Session) :
    Prop where
  curve_eq : session.curve = curve
  width_eq : session.group.fieldElementLength? = some curve.fieldElementLength
  privateKey_eq : session.privateKey = keyPair.1
  publicValue_eq : session.publicValue = keyPair.2

variable {keyPair : Scalar × Octets}

theorem Reachable.uses_withKeyPair (h : session.Reachable curve) (keyPair : Scalar × Octets) :
    (session.withKeyPair keyPair).Uses curve keyPair :=
  ⟨h.curve_eq, h.width_eq, rfl, rfl⟩

theorem uses_begun {group : DhGroup}
    (h : group.fieldElementLength? = some curve.fieldElementLength)
    (keyPair : Scalar × Octets) : (begun group curve keyPair).Uses curve keyPair :=
  ⟨rfl, h, rfl, rfl⟩

theorem Uses.readPeer_eq (h : first.Uses curve keyPair) (h' : second.Uses curve keyPair)
    (value : Octets) : first.readPeer value = second.readPeer value := by
  rw [readPeer, readPeer, DhGroup.verifyValue_of_width h.width_eq,
    DhGroup.verifyValue_of_width h'.width_eq, h.curve_eq, h'.curve_eq]

theorem Uses.deriveSecret_eq (h : first.Uses curve keyPair) (h' : second.Uses curve keyPair)
    (hformat : settings first.formatKey true = settings' second.formatKey true)
    (peer : Point) : first.deriveSecret settings peer = second.deriveSecret settings' peer := by
  rw [deriveSecret, deriveSecret, h.curve_eq, h'.curve_eq, h.privateKey_eq, h'.privateKey_eq,
    hformat]

/-- What is answered depends on the curve, the scalar and the format alone. -/
theorem Uses.setOtherPublicValue_eq (h : first.Uses curve keyPair)
    (h' : second.Uses curve keyPair)
    (hformat : settings first.formatKey true = settings' second.formatKey true)
    (value : Octets) :
    (first.setOtherPublicValue settings value).outcome =
        (second.setOtherPublicValue settings' value).outcome ∧
      (first.setOtherPublicValue settings value).session.sharedSecret =
        (second.setOtherPublicValue settings' value).session.sharedSecret := by
  have hread := h.readPeer_eq h' value
  cases hpeer : first.readPeer value with
  | error e =>
      rw [hpeer] at hread
      rw [setOtherPublicValue_of_unread hpeer, setOtherPublicValue_of_unread hread.symm]
      exact ⟨rfl, rfl⟩
  | ok peer =>
      rw [hpeer] at hread
      have hderive := h.deriveSecret_eq h' hformat peer
      cases hsecret : first.deriveSecret settings peer with
      | error e =>
          rw [hsecret] at hderive
          rw [setOtherPublicValue_of_underived hpeer hsecret,
            setOtherPublicValue_of_underived hread.symm hderive.symm]
          exact ⟨rfl, rfl⟩
      | ok secret =>
          rw [hsecret] at hderive
          rw [setOtherPublicValue_of_derived hpeer hsecret,
            setOtherPublicValue_of_derived hread.symm hderive.symm]
          exact ⟨rfl, rfl⟩

theorem Uses.answersAlike (h : first.Uses curve keyPair) (h' : second.Uses curve keyPair) :
    first.AnswersAlike second where
  publicValue_eq := h.publicValue_eq.trans h'.publicValue_eq.symm
  outcome_eq _ _ hformat value := (h.setOtherPublicValue_eq h' hformat value).1
  sharedSecret_eq _ _ hformat value := (h.setOtherPublicValue_eq h' hformat value).2

/-- Sessions that take what one result offers answer alike. -/
theorem resultsAlike_map {keyPair? : Except ExchangeError (Scalar × Octets)}
    {f g : Scalar × Octets → Session} (hf : ∀ keyPair, (f keyPair).Uses curve keyPair)
    (hg : ∀ keyPair, (g keyPair).Uses curve keyPair) :
    ResultsAlike (keyPair?.map f) (keyPair?.map g) := by
  cases keyPair? with
  | error e => exact .error e
  | ok keyPair => exact .ok ((hf keyPair).answersAlike (hg keyPair))

/-! ## Given and drawn numbers -/

/-- What comes of giving a session a private value, told by the number that the
value writes.  Other strings with that number, and random draws that stand for it,
come to sessions that answer alike, on the way of the negotiation (`created`) and on
every other curve (`drawn`). -/
structure TakesNumber (curve : CurveGroup) (session : Session) (value : Octets) : Prop where
  unchanged_of_error : ∀ e, (session.setPrivateValue value).outcome = .error e →
    (session.setPrivateValue value).session = session
  malformed_iff :
    (∃ context reason, (session.setPrivateValue value).outcome =
      .error (.malformedInput context reason)) ↔
        Octets.value value = 0 ∨ curve.order ≤ Octets.value value
  arithmetic_iff :
    (∃ context, (session.setPrivateValue value).outcome =
      .error (.arithmeticFailure context)) ↔
        (0 < Octets.value value ∧ Octets.value value < curve.order) ∧
          curve.mulGenerator (curve.scalarOf (Octets.value value)) = .ok .identity
  error_cases : ∀ e, (session.setPrivateValue value).outcome = .error e →
    e = .malformedInput curve.name "scalar outside [1, q-1]" ∨
      e = .arithmeticFailure curve.name
  replaced_of_ok : (session.setPrivateValue value).outcome = .ok () →
    ∃ publicValue,
      publicValueOf curve (curve.scalarOf (Octets.value value)) = .ok publicValue ∧
      (session.setPrivateValue value).session =
        { session with
          privateKey := curve.scalarOf (Octets.value value)
          publicValue := publicValue }
  same_number : ∀ other : Session, other.Reachable curve →
    ∀ value' : Octets, Octets.value value' = Octets.value value →
      ResultsAlike (other.setPrivateValue value').result (session.setPrivateValue value).result
  drawn : ∀ {σ : Type} [RandomSource σ] (source : σ),
    curve.DrawsNumber source (Octets.value value) → ∀ group : DhGroup,
      group.fieldElementLength? = some curve.fieldElementLength →
        ResultsAlike ((drawKeyPair curve source).1.map (begun group curve))
          (session.setPrivateValue value).result
  created : ∀ {σ : Type} [RandomSource σ] (source : σ),
    curve.DrawsNumber source (Octets.value value) → ∀ group : DhGroup,
      group.curveGroup.value = .ok curve →
        ResultsAlike (create group source).value.1 (session.setPrivateValue value).result

theorem Reachable.result_setPrivateValue (h : session.Reachable curve) (value : Octets) :
    (session.setPrivateValue value).result =
      (keyPairOf curve (Octets.value value)).map session.withKeyPair := by
  rw [Session.result_setPrivateValue, h.curve_eq]

/-- A number that is taken replaces the key pair by its own. -/
theorem Reachable.replaced_of_ok (h : session.Reachable curve)
    (hok : (session.setPrivateValue value).outcome = .ok ()) :
    ∃ publicValue,
      publicValueOf curve (curve.scalarOf (Octets.value value)) = .ok publicValue ∧
      (session.setPrivateValue value).session =
        { session with
          privateKey := curve.scalarOf (Octets.value value)
          publicValue := publicValue } := by
  have hresult := h.result_setPrivateValue value
  rw [Attempt.result, hok] at hresult
  cases hpair : keyPairOf curve (Octets.value value) with
  | error e =>
      rw [hpair] at hresult
      contradiction
  | ok keyPair =>
      obtain ⟨k, publicValue⟩ := keyPair
      obtain ⟨rfl, hvalue⟩ := eq_of_keyPairOf hpair
      rw [hpair] at hresult
      exact ⟨publicValue, hvalue, Except.ok.inj hresult⟩

theorem begun_alike {σ : Type} [RandomSource σ] {source : σ} {group : DhGroup}
    (h : session.Reachable curve) (hdraws : curve.DrawsNumber source (Octets.value value))
    (hwidth : group.fieldElementLength? = some curve.fieldElementLength) :
    ResultsAlike ((drawKeyPair curve source).1.map (begun group curve))
      (session.setPrivateValue value).result := by
  rw [h.result_setPrivateValue, drawKeyPair_of_drawsNumber hdraws]
  exact resultsAlike_map (uses_begun hwidth) h.uses_withKeyPair

/-- Private values are taken by their numbers alone, or refused without a trace, as
random draws are. -/
theorem takes_number {curve : CurveGroup}
    (hcurve : (∃ explicitGroup, curve = .explicit explicitGroup) ∨
      ∃ named : NamedCurve, named.group = .ok curve)
    {session : Session} (hsession : session.Reachable curve) (value : Octets) :
    session.TakesNumber curve value := by
  have hcoherent : curve.Coherent := by
    rcases hcurve with ⟨explicitGroup, rfl⟩ | ⟨named, hnamed⟩
    · trivial
    · exact CurveGroup.coherent_of_named hnamed
  have herror : ∀ e, (session.setPrivateValue value).outcome = .error e ↔
      keyPairOf curve (Octets.value value) = .error e := by
    intro e
    rw [outcome_setPrivateValue_eq_error_iff, hsession.curve_eq]
  constructor
  case unchanged_of_error =>
    intro e he
    exact setPrivateValue_of_error he
  case malformed_iff =>
    simp only [herror]
    exact keyPairOf_malformed_iff hcoherent (Octets.value value)
  case arithmetic_iff =>
    simp only [herror]
    exact keyPairOf_arithmetic_iff hcoherent (Octets.value value)
  case error_cases =>
    intro e he
    exact keyPairOf_error_cases hcoherent ((herror e).mp he)
  case replaced_of_ok =>
    intro hok
    exact hsession.replaced_of_ok hok
  case same_number =>
    intro other hother value' hvalue
    rw [hother.result_setPrivateValue, hsession.result_setPrivateValue, hvalue]
    exact resultsAlike_map hother.uses_withKeyPair hsession.uses_withKeyPair
  case drawn =>
    intro σ _ source hdraws group hwidth
    exact begun_alike hsession hdraws hwidth
  case created =>
    intro σ _ source hdraws group hgroup
    rw [create_of_curve hgroup]
    exact begun_alike hsession hdraws (CurveGroup.fieldElementLength_of_curveGroup hgroup)

/-- A session on the 256-bit curve whose scalar is one, after it was given its own
public value, is given the number two in three octets. -/
theorem takes_number_ecp256 :
    ∃ created, (create DhGroup.ecp256 (Script.ofOctets (Octets.ofNat 32 1) none)).value.1 =
        .ok created ∧
      NamedCurve.nistP256.group = .ok NistP256.group ∧
      (Party.after ⟨created, fun _ default => default⟩
        [.setOtherPublicValue created.publicValue]).session.Reachable NistP256.group ∧
      (Party.after ⟨created, fun _ default => default⟩
        [.setOtherPublicValue created.publicValue]).session.TakesNumber NistP256.group
          [0, 0, 2] := by
  have hok : (create DhGroup.ecp256
      (Script.ofOctets (Octets.ofNat 32 1) none)).value.1.isOk = true := by
    decide +kernel
  obtain ⟨created, hcreated⟩ := exists_of_isOk hok
  obtain ⟨curve, keyPair, hcurve, -, hbegun⟩ := exists_begun_of_create hcreated
  obtain rfl : curve = NistP256.group :=
    Except.ok.inj (hcurve.symm.trans NistP256.curveGroup_eq)
  have hparty : (Party.mk created fun _ default => default).session.Reachable
      NistP256.group := by
    have hreachable := reachable_of_create hcreated
    rw [hbegun] at hreachable ⊢
    exact hreachable
  have hafter := hparty.after [.setOtherPublicValue created.publicValue]
  exact ⟨created, hcreated, rfl, hafter,
    takes_number (Or.inr ⟨NamedCurve.nistP256, rfl⟩) hafter [0, 0, 2]⟩

end Session

end EcpAgreement
