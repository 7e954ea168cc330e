import EcpAgreement.Proofs.Session.KeyPair

/-!
# Histories of a session

A party is a session with the settings that it reads.  Scalars and peer values
are given to the session, the settings change and the getters are asked, in any
order.  What a session holds after such a history is decided by the last peer
value that it was given: by that value, and by the scalar and the settings as
they were at that moment.

The invariant compares the session with the one that came out of that last call
(`Consistent`).  No other action touches the peer and the secret, and no action
touches the group, the curve and the key of the format option, so one step
keeps it, and with it every history.
-/

namespace EcpAgreement

/-- A session with the settings that it reads. -/
structure Party where
  session : Session
  settings : Lookup

/-- What can happen at a party. -/
inductive Action where
  /-- The session is given a private scalar. -/
  | setPrivateValue (value : Octets)
  /-- The session is given the public value of a peer. -/
  | setOtherPublicValue (value : Octets)
  /-- The settings change. -/
  | changeSettings (settings : Lookup)
  /-- The session is asked for something that it holds. -/
  | ask

/-- A peer value with the party that it was given to, as the party was then. -/
structure PeerCall where
  party : Party
  value : Octets

/-! ## One call -/

namespace Session

section Call

variable {session : Session} {settings : Lookup} {value : Octets} {peer : Point}
  {secret : Secret} {e : ExchangeError}

theorem setOtherPublicValue_of_unread (hread : session.readPeer value = .error e) :
    session.setOtherPublicValue settings value =
      { session := session.cleared, outcome := .error e, events := [.publicValueMalformed] } := by
  have hread' : session.cleared.readPeer value = .error e := hread
  simp only [setOtherPublicValue, hread']

theorem setOtherPublicValue_of_underived (hread : session.readPeer value = .ok peer)
    (hderive : session.deriveSecret settings peer = .error e) :
    session.setOtherPublicValue settings value =
      { session := session.cleared, outcome := .error e,
        events := [.secretComputationFailed] } := by
  have hread' : session.cleared.readPeer value = .ok peer := hread
  have hderive' : session.cleared.deriveSecret settings peer = .error e := hderive
  simp only [setOtherPublicValue, hread', hderive']

theorem setOtherPublicValue_of_derived (hread : session.readPeer value = .ok peer)
    (hderive : session.deriveSecret settings peer = .ok secret) :
    session.setOtherPublicValue settings value =
      { session := { session with peer := some peer, secret := some secret }
        outcome := .ok ()
        events := [] } := by
  have hread' : session.cleared.readPeer value = .ok peer := hread
  have hderive' : session.cleared.deriveSecret settings peer = .ok secret := hderive
  simp only [setOtherPublicValue, hread', hderive']
  rfl

end Call

theorem setOtherPublicValue_cases (session : Session) (settings : Lookup) (value : Octets) :
    (∃ e, session.setOtherPublicValue settings value =
        { session := session.cleared, outcome := .error e, events := [.publicValueMalformed] } ∧
          session.readPeer value = .error e) ∨
      (∃ peer e, session.setOtherPublicValue settings value =
        { session := session.cleared, outcome := .error e,
          events := [.secretComputationFailed] } ∧
          session.readPeer value = .ok peer ∧
          session.deriveSecret settings peer = .error e) ∨
      ∃ peer secret, session.setOtherPublicValue settings value =
        { session := { session with peer := some peer, secret := some secret }
          outcome := .ok ()
          events := [] } ∧
          session.readPeer value = .ok peer ∧
          session.deriveSecret settings peer = .ok secret := by
  cases hpeer : session.readPeer value with
  | error e =>
      left
      exact ⟨e, setOtherPublicValue_of_unread hpeer, rfl⟩
  | ok peer =>
      right
      cases hsecret : session.deriveSecret settings peer with
      | error e =>
          left
          exact ⟨peer, e, setOtherPublicValue_of_underived hpeer hsecret, rfl, hsecret⟩
      | ok secret =>
          right
          exact ⟨peer, secret, setOtherPublicValue_of_derived hpeer hsecret, rfl, hsecret⟩

theorem decode_of_readPeer {session : Session} {value : Octets} {peer : Point}
    (h : session.readPeer value = .ok peer) : session.curve.decode value = .ok peer := by
  cases hlength : session.group.verifyValue value with
  | error e =>
      simp only [readPeer, hlength] at h
      contradiction
  | ok checked =>
      simp only [readPeer, hlength] at h
      exact h

end Session

namespace PeerCall

/-- What became of the call. -/
def attempt (call : PeerCall) : Session.Attempt :=
  call.party.session.setOtherPublicValue call.party.settings call.value

/-- The outcome of the call. -/
def outcome (call : PeerCall) : Except ExchangeError Unit :=
  call.attempt.outcome

/-- The private scalar in force at the call. -/
def key (call : PeerCall) : Scalar :=
  call.party.session.privateKey

/-- Whether the call found that a secret is the first coordinate alone. -/
def xOnly (call : PeerCall) : Bool :=
  call.party.settings call.party.session.formatKey true

theorem attempt_of_failed {call : PeerCall} (h : call.outcome ≠ .ok ()) :
    call.attempt.session = call.party.session.cleared := by
  rcases Session.setOtherPublicValue_cases call.party.session call.party.settings call.value
    with ⟨e, heq, -⟩ | ⟨peer, e, heq, -, -⟩ | ⟨peer, secret, heq, -, -⟩
  · rw [attempt, heq]
  · rw [attempt, heq]
  · exfalso
    apply h
    rw [outcome, attempt, heq]

theorem exists_derived_of_ok {call : PeerCall} (h : call.outcome = .ok ()) :
    ∃ peer secret, call.party.session.readPeer call.value = .ok peer ∧
      call.party.session.deriveSecret call.party.settings peer = .ok secret ∧
      call.attempt.session.peer = some peer ∧ call.attempt.session.secret = some secret := by
  rw [outcome, attempt] at h
  rcases Session.setOtherPublicValue_cases call.party.session call.party.settings call.value
    with ⟨e, heq, -⟩ | ⟨peer, e, heq, -, -⟩ | ⟨peer, secret, heq, hread, hderive⟩
  · rw [heq] at h
    contradiction
  · rw [heq] at h
    contradiction
  · refine ⟨peer, secret, hread, hderive, ?_, ?_⟩
    · rw [attempt, heq]
    · rw [attempt, heq]

end PeerCall

/-! ## Steps and histories -/

namespace Party

/-- The party after one action. -/
def act (party : Party) : Action → Party
  | .setPrivateValue value =>
      { party with session := (party.session.setPrivateValue value).session }
  | .setOtherPublicValue value =>
      { party with
        session := (party.session.setOtherPublicValue party.settings value).session }
  | .changeSettings settings => { party with settings := settings }
  | .ask => party

/-- The party after a history. -/
def after (party : Party) (actions : List Action) : Party :=
  actions.foldl act party

/-- The call that an action makes, or else the one that was made before. -/
def callOr (party : Party) (earlier? : Option PeerCall) : Action → Option PeerCall
  | .setOtherPublicValue value => some ⟨party, value⟩
  | _ => earlier?

/-- The last call of a history, or else the one that was made before. -/
def lastCallOr (party : Party) (earlier? : Option PeerCall) :
    List Action → Option PeerCall
  | [] => earlier?
  | action :: rest => (party.act action).lastCallOr (party.callOr earlier? action) rest

/-- The last call of a history. -/
def lastCall? (party : Party) (actions : List Action) : Option PeerCall :=
  party.lastCallOr none actions

end Party

namespace Session

/-! ## The invariant -/

/-- What no action changes: the group, the curve, the key of the format option,
and that the session is keyed. -/
structure Serves (group : DhGroup) (curve : CurveGroup) (formatKey : String)
    (session : Session) : Prop where
  group_eq : session.group = group
  curve_eq : session.curve = curve
  formatKey_eq : session.formatKey = formatKey
  keyed : session.Keyed

/-- The session holds what its last call left behind, and before any call
nothing. -/
def Holds (session : Session) : Option PeerCall → Prop
  | none => session.peer = none ∧ session.secret = none
  | some call =>
      session.peer = call.attempt.session.peer ∧
        session.secret = call.attempt.session.secret

theorem Holds.secret_eq {session other : Session} {last? : Option PeerCall}
    (h : session.Holds last?) (k : other.Holds last?) : session.secret = other.secret := by
  cases last? with
  | none => exact h.2.trans k.2.symm
  | some call => exact h.2.trans k.2.symm

/-- The invariant of a history. -/
structure Consistent (group : DhGroup) (curve : CurveGroup) (formatKey : String)
    (session : Session) (last? : Option PeerCall) : Prop where
  serves : session.Serves group curve formatKey
  holds : session.Holds last?
  serves_call : ∀ call, last? = some call →
    call.party.session.Serves group curve formatKey

variable {group : DhGroup} {curve : CurveGroup} {formatKey : String} {session : Session}

theorem Serves.inRange (h : session.Serves group curve formatKey) :
    curve.InRange session.privateKey := by
  have hrange := h.keyed.inRange
  rw [h.curve_eq] at hrange
  exact hrange

theorem Serves.publicValueOf_eq (h : session.Serves group curve formatKey) :
    publicValueOf curve session.privateKey = .ok session.publicValue := by
  have hvalue := h.keyed.publicValue_eq
  rw [h.curve_eq] at hvalue
  exact hvalue

theorem Serves.setPrivateValue (h : session.Serves group curve formatKey) (value : Octets) :
    (session.setPrivateValue value).session.Serves group curve formatKey := by
  have hkeyed := h.keyed.setPrivateValue value
  rcases setPrivateValue_session session value with hsame | ⟨k, publicValue, -, -, heq⟩
  · rw [hsame]
    exact h
  · rw [heq] at hkeyed ⊢
    exact ⟨h.group_eq, h.curve_eq, h.formatKey_eq, hkeyed⟩

theorem Serves.setOtherPublicValue (h : session.Serves group curve formatKey)
    (settings : Lookup) (value : Octets) :
    (session.setOtherPublicValue settings value).session.Serves group curve formatKey := by
  rcases setOtherPublicValue_cases session settings value with
    ⟨e, heq, -⟩ | ⟨peer, e, heq, -, -⟩ | ⟨peer, secret, heq, -, -⟩
  all_goals
    rw [heq]
    exact ⟨h.group_eq, h.curve_eq, h.formatKey_eq, ⟨h.keyed.inRange, h.keyed.publicValue_eq⟩⟩

theorem Holds.setPrivateValue {last? : Option PeerCall} (h : session.Holds last?)
    (value : Octets) : (session.setPrivateValue value).session.Holds last? := by
  rcases setPrivateValue_session session value with hsame | ⟨k, publicValue, -, -, heq⟩
  · rw [hsame]
    exact h
  · rw [heq]
    cases last? with
    | none => exact h
    | some call => exact h

end Session

namespace Party

variable {group : DhGroup} {curve : CurveGroup} {formatKey : String}

/-- One action keeps the invariant.  A call that is being made is the last one from then
on, and nothing of an earlier one is left. -/
theorem consistent_act {party : Party} {last? : Option PeerCall}
    (h : party.session.Consistent group curve formatKey last?) (action : Action) :
    (party.act action).session.Consistent group curve formatKey
      (party.callOr last? action) := by
  cases action with
  | setPrivateValue value =>
      exact ⟨h.serves.setPrivateValue value, h.holds.setPrivateValue value, h.serves_call⟩
  | setOtherPublicValue value =>
      refine ⟨h.serves.setOtherPublicValue party.settings value, ⟨rfl, rfl⟩, ?_⟩
      intro call hcall
      rw [← Option.some.inj hcall]
      exact h.serves
  | changeSettings settings => exact h
  | ask => exact h

/-- Every history keeps the invariant. -/
theorem consistent_after (party : Party) {last? : Option PeerCall}
    (h : party.session.Consistent group curve formatKey last?) (actions : List Action) :
    (party.after actions).session.Consistent group curve formatKey
      (party.lastCallOr last? actions) := by
  induction actions generalizing party last? with
  | nil => exact h
  | cons action rest ih => exact ih (party.act action) (consistent_act h action)

theorem lastCallOr_append (party : Party) (earlier? : Option PeerCall)
    (actions later : List Action) :
    party.lastCallOr earlier? (actions ++ later) =
      (party.after actions).lastCallOr (party.lastCallOr earlier? actions) later := by
  induction actions generalizing party earlier? with
  | nil => rfl
  | cons action rest ih => exact ih (party.act action) (party.callOr earlier? action)

/-- Without another peer value the last call stays the last one. -/
theorem lastCallOr_of_no_call (party : Party) (earlier? : Option PeerCall)
    {actions : List Action} (h : ∀ value, Action.setOtherPublicValue value ∉ actions) :
    party.lastCallOr earlier? actions = earlier? := by
  induction actions generalizing party with
  | nil => rfl
  | cons action rest ih =>
      have hsame : party.callOr earlier? action = earlier? := by
        cases action with
        | setOtherPublicValue value => exact absurd List.mem_cons_self (h value)
        | setPrivateValue value => rfl
        | changeSettings settings => rfl
        | ask => rfl
      rw [lastCallOr, hsame]
      apply ih
      intro value hmem
      exact h value (List.mem_cons_of_mem action hmem)

end Party

namespace Session

/-! ## What a history leaves -/

/-- What can be seen of a session, by itself and as a daemon drives it, told from its
last call alone. -/
structure Reflects (curve : CurveGroup) (formatKey : String) (session : Session)
    (last? : Option PeerCall) : Prop where
  curve_eq : session.curve = curve
  key_range : 0 < session.privateKey.octets.value ∧
    session.privateKey.octets.value < curve.order
  publicValue_eq : ∃ product, curve.mulGenerator session.privateKey = .ok product ∧
    curve.encode product false = .ok ⟨session.publicValue⟩ ∧
    DiffieHellman.publicValue session = .ok session.publicValue
  peer_isSome : session.peer.isSome = session.secret.isSome
  computed_iff : session.secret.isSome = true ↔
    ∃ call, last? = some call ∧ call.outcome = .ok ()
  notComputed : (∀ call, last? = some call → call.outcome ≠ .ok ()) →
    session.sharedSecret = .error .notComputed ∧
      DiffieHellman.sharedSecret session = .error .notComputed
  derived : ∀ secret, session.secret = some secret →
    session.sharedSecret = .ok secret ∧
      DiffieHellman.sharedSecret session = .ok secret.octets ∧
      ∃ call peer product, last? = some call ∧ session.peer = some peer ∧
        curve.decode call.value = .ok peer ∧
        curve.mul peer call.key = .ok product ∧
        curve.encode product (call.party.settings formatKey true) = .ok secret

variable {group : DhGroup} {curve : CurveGroup} {formatKey : String} {session : Session}

theorem Serves.exists_publicValue (h : session.Serves group curve formatKey) :
    ∃ product, curve.mulGenerator session.privateKey = .ok product ∧
      curve.encode product false = .ok ⟨session.publicValue⟩ ∧
      DiffieHellman.publicValue session = .ok session.publicValue := by
  obtain ⟨product, hproduct, hencode⟩ := publicValueOf_eq_ok_iff.mp h.publicValueOf_eq
  exact ⟨product, hproduct, hencode, rfl⟩

/-- A daemon is given the octets of what the session itself hands out. -/
theorem diffieHellman_sharedSecret (session : Session) :
    DiffieHellman.sharedSecret session = session.sharedSecret.map Secret.octets :=
  rfl

/-- A session without a peer and a secret whose last call, if any, failed. -/
theorem reflects_of_cleared {last? : Option PeerCall}
    (h : session.Serves group curve formatKey)
    (hpeer : session.peer = none) (hsecret : session.secret = none)
    (hlast : ∀ call, last? = some call → call.outcome ≠ .ok ()) :
    session.Reflects curve formatKey last? where
  curve_eq := h.curve_eq
  key_range := ⟨h.inRange.pos, h.inRange.lt_order⟩
  publicValue_eq := h.exists_publicValue
  peer_isSome := by rw [hpeer, hsecret]; rfl
  computed_iff := by
    rw [hsecret]
    constructor
    · intro hsome
      contradiction
    · rintro ⟨call, hcall, hok⟩
      exact absurd hok (hlast call hcall)
  notComputed := by
    intro _
    rw [diffieHellman_sharedSecret, sharedSecret, hsecret]
    exact ⟨rfl, rfl⟩
  derived := by
    intro secret hsome
    rw [hsecret] at hsome
    contradiction

theorem reflects_of_derived {call : PeerCall} {peer : Point} {secret : Secret}
    (h : session.Serves group curve formatKey)
    (hcall : call.party.session.Serves group curve formatKey)
    (hpeer : session.peer = some peer) (hsecret : session.secret = some secret)
    (hok : call.outcome = .ok ())
    (hread : call.party.session.readPeer call.value = .ok peer)
    (hderive : call.party.session.deriveSecret call.party.settings peer = .ok secret) :
    session.Reflects curve formatKey (some call) where
  curve_eq := h.curve_eq
  key_range := ⟨h.inRange.pos, h.inRange.lt_order⟩
  publicValue_eq := h.exists_publicValue
  peer_isSome := by rw [hpeer, hsecret]; rfl
  computed_iff := by
    rw [hsecret]
    exact ⟨fun _ => ⟨call, rfl, hok⟩, fun _ => rfl⟩
  notComputed := by
    intro hfailed
    exact absurd hok (hfailed call rfl)
  derived := by
    intro other hother
    rw [hsecret] at hother
    obtain rfl := Option.some.inj hother
    have hdecode := decode_of_readPeer hread
    obtain ⟨product, hmul, hencode⟩ := deriveSecret_eq_ok_iff.mp hderive
    rw [hcall.curve_eq] at hdecode hmul hencode
    rw [hcall.formatKey_eq] at hencode
    have hshared : session.sharedSecret = .ok secret := by rw [sharedSecret, hsecret]
    refine ⟨hshared, ?_, call, peer, product, rfl, hpeer, hdecode, hmul, hencode⟩
    rw [diffieHellman_sharedSecret, hshared]
    rfl

theorem Consistent.reflects {last? : Option PeerCall}
    (h : session.Consistent group curve formatKey last?) :
    session.Reflects curve formatKey last? := by
  cases last? with
  | none =>
      obtain ⟨hpeer, hsecret⟩ := h.holds
      refine reflects_of_cleared h.serves hpeer hsecret ?_
      intro call hcall
      contradiction
  | some call =>
      obtain ⟨hpeer, hsecret⟩ := h.holds
      by_cases hok : call.outcome = .ok ()
      · obtain ⟨peer, secret, hread, hderive, hheld, hkept⟩ := PeerCall.exists_derived_of_ok hok
        rw [hheld] at hpeer
        rw [hkept] at hsecret
        exact reflects_of_derived h.serves (h.serves_call call rfl) hpeer hsecret hok hread
          hderive
      · rw [PeerCall.attempt_of_failed hok] at hpeer hsecret
        refine reflects_of_cleared h.serves hpeer hsecret ?_
        intro other hother
        rw [← Option.some.inj hother]
        exact hok

/-- The session in a namespace of its own, if one is given. -/
def placed (session : Session) (scope? : Option String) : Session :=
  (scope?.map session.inNamespace).getD session

theorem consistent_placed (h : session.Fresh group)
    (hcurve : group.curveGroup.value = .ok curve) (scope? : Option String) :
    (session.placed scope?).Consistent group curve
      (EcpAgreement.formatKey (scope?.getD defaultNamespace)) none := by
  have heq : session.curve = curve := Except.ok.inj (h.curve_eq.symm.trans hcurve)
  have hnone : ∀ call, (none : Option PeerCall) = some call →
      call.party.session.Serves group curve
        (EcpAgreement.formatKey (scope?.getD defaultNamespace)) := by
    intro call hcall
    contradiction
  cases scope? with
  | none => exact ⟨⟨h.group_eq, heq, h.formatKey_eq, h.keyed⟩, ⟨h.peer_eq, h.secret_eq⟩, hnone⟩
  | some scope =>
      have hkeyed : (session.placed (some scope)).Keyed :=
        ⟨h.keyed.inRange, h.keyed.publicValue_eq⟩
      exact ⟨⟨h.group_eq, heq, rfl, hkeyed⟩, ⟨h.peer_eq, h.secret_eq⟩, hnone⟩

/-- After every history, a session is told from its last call, and what it holds
stays until it is given another peer value. -/
theorem reflects_history {σ : Type} [RandomSource σ] {group : DhGroup} {source : σ}
    {created : Session} (h : (create group source).value.1 = .ok created)
    (scope? : Option String) (settings : Lookup) (actions : List Action) :
    ∃ curve, group.curveGroup.value = .ok curve ∧
      (Party.after ⟨created.placed scope?, settings⟩ actions).session.Reflects curve
        (EcpAgreement.formatKey (scope?.getD defaultNamespace))
        (Party.lastCall? ⟨created.placed scope?, settings⟩ actions) ∧
      ∀ later, (∀ value, Action.setOtherPublicValue value ∉ later) →
        (Party.after ⟨created.placed scope?, settings⟩ (actions ++ later)).session.secret =
          (Party.after ⟨created.placed scope?, settings⟩ actions).session.secret := by
  have hfresh := fresh_of_create h
  have hstart := consistent_placed hfresh hfresh.curve_eq scope?
  have hbefore := Party.consistent_after ⟨created.placed scope?, settings⟩ hstart actions
  refine ⟨created.curve, hfresh.curve_eq, hbefore.reflects, ?_⟩
  intro later hlater
  have hafter := Party.consistent_after ⟨created.placed scope?, settings⟩ hstart
    (actions ++ later)
  rw [Party.lastCallOr_append, Party.lastCallOr_of_no_call _ _ hlater] at hafter
  exact hafter.holds.secret_eq hbefore.holds

/-- A session on the 256-bit curve whose scalar is one, given its own public
value and then another scalar. -/
theorem reflects_history_ecp256 :
    ∃ created, (create DhGroup.ecp256 (Script.ofOctets (Octets.ofNat 32 1) none)).value.1 =
        .ok created ∧
      ∃ curve, DhGroup.ecp256.curveGroup.value = .ok curve ∧
        (Party.after ⟨created.placed (some "vpn"), fun _ default => default⟩
          [.setOtherPublicValue created.publicValue, .setPrivateValue [2]]).session.Reflects
            curve (EcpAgreement.formatKey "vpn")
            (Party.lastCall? ⟨created.placed (some "vpn"), fun _ default => default⟩
              [.setOtherPublicValue created.publicValue, .setPrivateValue [2]]) := by
  have hok : (create DhGroup.ecp256
      (Script.ofOctets (Octets.ofNat 32 1) none)).value.1.isOk = true := by
    decide +kernel
  obtain ⟨created, hcreated⟩ := exists_of_isOk hok
  obtain ⟨curve, hcurve, hreflects, -⟩ := reflects_history hcreated (some "vpn")
    (fun _ default => default) [.setOtherPublicValue created.publicValue, .setPrivateValue [2]]
  exact ⟨created, hcreated, curve, hcurve, hreflects⟩

end Session

end EcpAgreement
