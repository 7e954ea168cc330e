import EcpAgreement.Proofs.Group.NistP256
import EcpAgreement.Proofs.Session.History

/-!
# Agreement of two parties

Two parties on one genuine group hold the same secret at the end of every run in
which each was given the other's public value last, and both calls found the
same format.  The steps of the parties may come in any order.  A step of one
party means nothing to the other, so the run of a pair is two histories, and
each session is told from its own last call.  What the calls compute are the
multiples `k • l • G` and `l • k • G` of the generator, which are equal and, the
order being prime, not zero.
-/

namespace EcpAgreement

/-! ## Two parties -/

/-- The two ends of an exchange. -/
inductive Side where
  | left
  | right
  deriving DecidableEq

/-- Two parties. -/
structure Pair where
  left : Party
  right : Party

namespace Pair

/-- The party at one end. -/
def party (pair : Pair) : Side → Party
  | .left => pair.left
  | .right => pair.right

/-- One step of two parties. -/
inductive Step where
  /-- Something happens at one party. -/
  | act (side : Side) (action : Action)
  /-- A store of settings changes that both sessions read. -/
  | changeSettings (settings : Lookup)

/-- What a step is at one end. -/
def Step.seenAt (side : Side) : Step → Option Action
  | .act other action => if other = side then some action else none
  | .changeSettings settings => some (.changeSettings settings)

/-- The parties after one step. -/
def act (pair : Pair) : Step → Pair
  | .act .left action => { pair with left := pair.left.act action }
  | .act .right action => { pair with right := pair.right.act action }
  | .changeSettings settings =>
      { left := pair.left.act (.changeSettings settings)
        right := pair.right.act (.changeSettings settings) }

/-- The parties after a run. -/
def after (pair : Pair) (steps : List Step) : Pair :=
  steps.foldl act pair

/-- The call that a step makes at one end, or else the one that was made
before. -/
def callOr (pair : Pair) (side : Side) (earlier? : Option PeerCall) :
    Step → Option PeerCall
  | .act other action =>
      if other = side then (pair.party side).callOr earlier? action else earlier?
  | .changeSettings _ => earlier?

/-- The last call of a run at one end, or else the one that was made before. -/
def lastCallOr (pair : Pair) (side : Side) (earlier? : Option PeerCall) :
    List Step → Option PeerCall
  | [] => earlier?
  | step :: rest => (pair.act step).lastCallOr side (pair.callOr side earlier? step) rest

/-- The last call of a run at one end. -/
def lastCall? (pair : Pair) (side : Side) (steps : List Step) : Option PeerCall :=
  pair.lastCallOr side none steps

/-! ## A run is two histories -/

theorem party_act (pair : Pair) (side : Side) (step : Step) :
    (pair.act step).party side = (pair.party side).after (step.seenAt side).toList := by
  cases step with
  | changeSettings settings => cases side <;> rfl
  | act other action => cases side <;> cases other <;> rfl

theorem callOr_eq (pair : Pair) (side : Side) (earlier? : Option PeerCall) (step : Step) :
    pair.callOr side earlier? step =
      (pair.party side).lastCallOr earlier? (step.seenAt side).toList := by
  cases step with
  | changeSettings settings => rfl
  | act other action => cases side <;> cases other <;> rfl

theorem filterMap_seenAt_cons (side : Side) (step : Step) (rest : List Step) :
    (step :: rest).filterMap (Step.seenAt side) =
      (step.seenAt side).toList ++ rest.filterMap (Step.seenAt side) := by
  cases hseen : step.seenAt side with
  | none => rw [List.filterMap_cons_none hseen, Option.toList_none, List.nil_append]
  | some action => rw [List.filterMap_cons_some hseen, Option.toList_some, List.singleton_append]

theorem party_after (pair : Pair) (side : Side) (steps : List Step) :
    (pair.after steps).party side =
      (pair.party side).after (steps.filterMap (Step.seenAt side)) := by
  induction steps generalizing pair with
  | nil => rfl
  | cons step rest ih =>
      rw [filterMap_seenAt_cons, Party.after, List.foldl_append, after, List.foldl_cons]
      have hrest := ih (pair.act step)
      rw [party_act] at hrest
      exact hrest

theorem lastCallOr_eq (pair : Pair) (side : Side) (earlier? : Option PeerCall)
    (steps : List Step) :
    pair.lastCallOr side earlier? steps =
      (pair.party side).lastCallOr earlier? (steps.filterMap (Step.seenAt side)) := by
  induction steps generalizing pair earlier? with
  | nil => rfl
  | cons step rest ih =>
      rw [filterMap_seenAt_cons, Party.lastCallOr_append, lastCallOr, ih, callOr_eq,
        party_act]

end Pair

/-! ## Multiples of the generator on the wire -/

namespace CurveGroup

variable {group : CurveGroup} [Fact group.modulus.Prime] {G : group.law.Point}

theorem Acts.decode_of_encode (h : group.Acts G) {A : group.law.Point} {value : Secret}
    (hencode : group.encode (group.write A) false = .ok value) :
    value.octets.length = 2 * group.fieldElementLength ∧
      group.decode value.octets = .ok (group.write A) := by
  cases hwrite : group.write A with
  | identity =>
      rw [hwrite, encode_identity] at hencode
      contradiction
  | affine x y =>
      obtain ⟨hx, hy⟩ := length_of_write hwrite
      rw [hwrite] at hencode
      refine ⟨?_, CurveGroup.decode_of_encode hx hy (h.pointOfAffine_eq A x y hwrite) hencode⟩
      rw [encode_affine hx hy] at hencode
      rw [← Except.ok.inj hencode]
      simp only [Bool.false_eq_true, if_false, List.length_append, hx, hy]
      omega

/-- Scalars in range do not kill each other's multiples. -/
theorem smul_smul_ne_zero (hprime : group.order.Prime) (horder : addOrderOf G = group.order)
    {k l : Scalar} (hk : group.InRange k) (hl : group.InRange l) :
    k.octets.value • l.octets.value • G ≠ 0 := by
  intro hzero
  rw [smul_smul] at hzero
  have hdvd := addOrderOf_dvd_of_nsmul_eq_zero hzero
  rw [horder] at hdvd
  rcases hprime.dvd_mul.mp hdvd with hdvdk | hdvdl
  · exact absurd hk.lt_order (Nat.not_lt.mpr (Nat.le_of_dvd hk.pos hdvdk))
  · exact absurd hl.lt_order (Nat.not_lt.mpr (Nat.le_of_dvd hl.pos hdvdl))

end CurveGroup

/-! ## One call with a public value -/

section Call

variable {group : DhGroup} {curve : CurveGroup} [Fact curve.modulus.Prime]
  {G : curve.law.Point}

theorem readPeer_of_publicValueOf (hcurve : group.curveGroup.value = .ok curve)
    (hacts : curve.Acts G) {session : Session} (hgroup : session.group = group)
    (hsession : session.curve = curve) {l : Scalar} (hl : curve.InRange l)
    {value : Octets} (hvalue : Session.publicValueOf curve l = .ok value) :
    session.readPeer value = .ok (curve.write (l.octets.value • G)) := by
  obtain ⟨product, hmul, hencode⟩ := Session.publicValueOf_eq_ok_iff.mp hvalue
  rw [hacts.mulGenerator_eq l hl] at hmul
  obtain rfl := Except.ok.inj hmul
  obtain ⟨hlength, hdecode⟩ := hacts.decode_of_encode hencode
  have hfield := CurveGroup.fieldElementLength_curveGroup group
  simp only [hcurve, Except.toOption, Option.map_some] at hfield
  have hverify : session.group.verifyValue value = .ok () := by
    have hsize : value.length = 2 * curve.fieldElementLength := hlength
    rw [hgroup, DhGroup.verifyValue, DhGroup.publicValueLength?, ← hfield]
    simp only [Option.map_some, ExchangeError.requireLength, hsize, if_true]
  rw [Session.readPeer, hverify, hsession]
  exact hdecode

/-- A call with the public value of a scalar in range succeeds, and writes the
multiple by both scalars. -/
theorem secret_of_call (hcurve : group.curveGroup.value = .ok curve)
    (hprime : curve.order.Prime) (horder : addOrderOf G = curve.order)
    (hacts : curve.Acts G) {call : PeerCall} {formatKey : String}
    (hserves : call.party.session.Serves group curve formatKey)
    {l : Scalar} (hl : curve.InRange l)
    (hvalue : Session.publicValueOf curve l = .ok call.value) :
    ∃ secret, call.outcome = .ok () ∧ call.attempt.session.secret = some secret ∧
      curve.encode (curve.write (call.key.octets.value • l.octets.value • G)) call.xOnly =
        .ok secret := by
  have hrange : curve.InRange call.key := hserves.inRange
  have hread := readPeer_of_publicValueOf hcurve hacts hserves.group_eq hserves.curve_eq hl
    hvalue
  obtain ⟨secret, hencode⟩ := CurveGroup.exists_encode_write
    (CurveGroup.smul_smul_ne_zero hprime horder hrange hl) call.xOnly
  have hderive : call.party.session.deriveSecret call.party.settings
      (curve.write (l.octets.value • G)) = .ok secret := by
    apply Session.deriveSecret_eq_ok_iff.mpr
    rw [hserves.curve_eq]
    exact ⟨_, hacts.mul_eq _ _ hrange, hencode⟩
  have hattempt := Session.setOtherPublicValue_of_derived hread hderive
  refine ⟨secret, ?_, ?_, hencode⟩
  · rw [PeerCall.outcome, PeerCall.attempt, hattempt]
  · rw [PeerCall.attempt, hattempt]

end Call

/-! ## Runs of two parties -/

theorem consistent_run {σ : Type} [RandomSource σ] {group : DhGroup} {source : σ}
    {created : Session} {curve : CurveGroup}
    (h : (Session.create group source).value.1 = .ok created)
    (hcurve : group.curveGroup.value = .ok curve) {pair : Pair} {side : Side}
    {scope? : Option String} {settings : Lookup}
    (hparty : pair.party side = ⟨created.placed scope?, settings⟩) (steps : List Pair.Step) :
    ((pair.after steps).party side).session.Consistent group curve
      (formatKey (scope?.getD defaultNamespace)) (pair.lastCall? side steps) := by
  have hstart := Session.consistent_placed (Session.fresh_of_create h) hcurve scope?
  rw [Pair.party_after, Pair.lastCall?, Pair.lastCallOr_eq, hparty]
  exact Party.consistent_after ⟨created.placed scope?, settings⟩ hstart _

/-- A party that was last given a public value holds the multiple by both
scalars. -/
theorem sharedSecret_of_run {pair : Pair} {side : Side} {steps : List Pair.Step}
    {group : DhGroup} {curve : CurveGroup} {formatKey : String} {call : PeerCall}
    (h : ((pair.after steps).party side).session.Consistent group curve formatKey
      (pair.lastCall? side steps))
    (hcall : pair.lastCall? side steps = some call) {secret : Secret}
    (hsecret : call.attempt.session.secret = some secret) :
    ((pair.after steps).party side).session.sharedSecret = .ok secret := by
  have hholds := h.holds
  rw [hcall] at hholds
  rw [Session.sharedSecret, hholds.2, hsecret]

/-- If each party was last given the public value that the other one had at its
own last call, and both calls found the same format, then both calls succeeded
and the parties hold the same secret. -/
theorem secrets_agree {σ τ : Type} [RandomSource σ] [RandomSource τ] {group : DhGroup}
    {source : σ} {other : τ} {a b : Session} {curve : CurveGroup}
    (ha : (Session.create group source).value.1 = .ok a)
    (hb : (Session.create group other).value.1 = .ok b)
    (hcurve : group.curveGroup.value = .ok curve) [Fact curve.modulus.Prime]
    (hgenuine : curve.Genuine) {pair : Pair} {scopeA? scopeB? : Option String}
    {settingsA settingsB : Lookup}
    (hleft : pair.party .left = ⟨a.placed scopeA?, settingsA⟩)
    (hright : pair.party .right = ⟨b.placed scopeB?, settingsB⟩) (steps : List Pair.Step)
    {callA callB : PeerCall}
    (hcallA : pair.lastCall? .left steps = some callA)
    (hcallB : pair.lastCall? .right steps = some callB)
    (hvalueA : callA.value = callB.party.session.publicValue)
    (hvalueB : callB.value = callA.party.session.publicValue)
    (hformat : callA.xOnly = callB.xOnly) :
    callA.outcome = .ok () ∧ callB.outcome = .ok () ∧
      ∃ secret, ((pair.after steps).party .left).session.sharedSecret = .ok secret ∧
        ((pair.after steps).party .right).session.sharedSecret = .ok secret := by
  obtain ⟨G, horder, hacts⟩ := CurveGroup.acts_of_genuine hcurve hgenuine
  have hconsistentA := consistent_run ha hcurve hleft steps
  have hconsistentB := consistent_run hb hcurve hright steps
  have hservesA := hconsistentA.serves_call callA hcallA
  have hservesB := hconsistentB.serves_call callB hcallB
  have hrangeA := hservesA.inRange
  have hrangeB := hservesB.inRange
  have hpublicA := hservesA.publicValueOf_eq
  have hpublicB := hservesB.publicValueOf_eq
  rw [← hvalueB] at hpublicA
  rw [← hvalueA] at hpublicB
  obtain ⟨secret, hokA, hsecretA, hencodeA⟩ :=
    secret_of_call hcurve hgenuine.order_prime horder hacts hservesA hrangeB hpublicB
  obtain ⟨secret', hokB, hsecretB, hencodeB⟩ :=
    secret_of_call hcurve hgenuine.order_prime horder hacts hservesB hrangeA hpublicA
  have hsame : secret = secret' := by
    apply Except.ok.inj
    rw [← hencodeA, ← hencodeB, hformat, smul_comm]
    rfl
  subst hsame
  exact ⟨hokA, hokB, secret, sharedSecret_of_run hconsistentA hcallA hsecretA,
    sharedSecret_of_run hconsistentB hcallB hsecretB⟩

/-- Two parties whose settings say nothing. -/
def Pair.ofSessions (a b : Session) : Pair where
  left := ⟨a.placed none, fun _ default => default⟩
  right := ⟨b.placed none, fun _ default => default⟩

/-- Both sessions are given the other's public value; then the left one gets
another scalar, and the settings change. -/
def crossedSteps (a b : Session) : List Pair.Step :=
  [ .act .left (.setOtherPublicValue b.publicValue),
    .act .right (.setOtherPublicValue a.publicValue),
    .act .left (.setPrivateValue [5]),
    .changeSettings fun _ _ => false ]

/-- The scalars one and two on the 256-bit curve. -/
theorem secrets_agree_ecp256 :
    ∃ a b : Session,
      (Session.create DhGroup.ecp256 (Script.ofOctets (Octets.ofNat 32 1) none)).value.1 =
        .ok a ∧
      (Session.create DhGroup.ecp256 (Script.ofOctets (Octets.ofNat 32 2) none)).value.1 =
        .ok b ∧
      ∃ secret,
        (((Pair.ofSessions a b).after (crossedSteps a b)).party .left).session.sharedSecret =
          .ok secret ∧
        (((Pair.ofSessions a b).after (crossedSteps a b)).party .right).session.sharedSecret =
          .ok secret := by
  have hokA : (Session.create DhGroup.ecp256
      (Script.ofOctets (Octets.ofNat 32 1) none)).value.1.isOk = true := by
    decide +kernel
  have hokB : (Session.create DhGroup.ecp256
      (Script.ofOctets (Octets.ofNat 32 2) none)).value.1.isOk = true := by
    decide +kernel
  obtain ⟨a, ha⟩ := exists_of_isOk hokA
  obtain ⟨b, hb⟩ := exists_of_isOk hokB
  have hleft : (Pair.ofSessions a b).party .left =
      ⟨a.placed none, fun _ default => default⟩ := rfl
  have hright : (Pair.ofSessions a b).party .right =
      ⟨b.placed none, fun _ default => default⟩ := rfl
  obtain ⟨-, -, hsecret⟩ := secrets_agree ha hb NistP256.curveGroup_eq NistP256.genuine hleft
    hright (crossedSteps a b) rfl rfl rfl rfl rfl
  exact ⟨a, b, ha, hb, hsecret⟩

end EcpAgreement
