import EcpAgreement.Curve.Group
import EcpAgreement.Group.Construction
import EcpAgreement.Random.Scalar
import EcpAgreement.Settings.Static
import EcpAgreement.Text.Quoted

/-!
# Sessions

One party's side of an exchange. A session begins with a private scalar and the
public value that belongs to it. It takes the public value of a peer and derives
the shared secret from it. The scalar may be replaced; a secret that has been
derived stays as it was.

A session holds a secret exactly when the last peer value that it was given was
accepted: whatever it held before is erased first, and a failure puts nothing in
its place.

A daemon drives an exchange through a few operations that do not depend on its
arithmetic, and a session offers them. A provider begins sessions whose secrets all
have their format looked up in one namespace.
-/

namespace EcpAgreement

/-- One party's side of an exchange. -/
structure Session where
  /-- The group that was asked for. -/
  group : DhGroup
  /-- The curve group that serves it. -/
  curve : CurveGroup
  privateKey : Scalar
  publicValue : Octets
  /-- The accepted point of the peer. -/
  peer : Option Point
  secret : Option Secret
  /-- The key under which the secret's format is looked up. -/
  formatKey : String

namespace Session

/-- What became of an operation on a session: the session afterwards, the
outcome, and the events. -/
structure Attempt where
  session : Session
  outcome : Except ExchangeError Unit
  events : List LogEvent

/-- The public value of a private scalar. -/
def publicValueOf (curve : CurveGroup) (k : Scalar) : Except ExchangeError Octets := do
  let point ← (curve.mulGenerator k).mapError CurveError.toExchange
  (AgreementError.requireKeyGeneration (!point.isIdentity) curve.name
    "public value is the identity").mapError AgreementError.toExchange
  let encoded ← curve.encode point false
  return encoded.octets

/-- Draws a private scalar on a curve and computes its public value. -/
def drawKeyPair {σ : Type} [RandomSource σ] (curve : CurveGroup) (source : σ) :
    Except ExchangeError (Scalar × Octets) × σ :=
  match curve.randomScalar source with
  | (.error e, source) => (.error e.toExchange, source)
  | (.ok k, source) => ((publicValueOf curve k).map fun value => (k, value), source)

/-- Begins a session on a group, with a private scalar from a random source. The
source is not asked when the group has no curve. -/
def create {σ : Type} [RandomSource σ] (group : DhGroup) (source : σ) :
    Logged (Except ExchangeError Session × σ) :=
  let provided := group.curveGroup
  match provided.value with
  | .error e => { value := (.error e, source), events := provided.events }
  | .ok curve =>
      match drawKeyPair curve source with
      | (.error e, source) => { value := (.error e, source), events := provided.events }
      | (.ok (k, publicValue), source) =>
          let session : Session :=
            { group := group
              curve := curve
              privateKey := k
              publicValue := publicValue
              peer := none
              secret := none
              formatKey := EcpAgreement.formatKey defaultNamespace }
          { value := (.ok session, source)
            events := provided.events ++ [.sessionCreated group curve.name] }

/-- The session with the format of its secrets looked up in another
namespace. -/
def inNamespace (session : Session) (scope : String) : Session :=
  { session with formatKey := EcpAgreement.formatKey scope }

/-- What is reported when a session ends. -/
def destroyed (session : Session) : List LogEvent :=
  [.sessionDestroyed session.group]

/-- Whether a secret has been derived from the last peer value. -/
def isComputed (session : Session) : Bool :=
  session.secret.isSome

/-- The shared secret, once there is one. -/
def sharedSecret (session : Session) : Except ExchangeError Secret :=
  match session.secret with
  | some secret => .ok secret
  | none => .error .notComputed

/-- The session without a peer and a secret. -/
def cleared (session : Session) : Session :=
  { session with peer := none, secret := none }

/-- Replaces the private scalar and the public value. When the string writes no
scalar of the group, or the scalar has no public value, the session stays as it
is. -/
def setPrivateValue (session : Session) (value : Octets) : Attempt :=
  let keyPair : Except ExchangeError (Scalar × Octets) := do
    let k ← (session.curve.scalar value).mapError CurveError.toExchange
    let publicValue ← publicValueOf session.curve k
    return (k, publicValue)
  match keyPair with
  | .error e => { session := session, outcome := .error e, events := [] }
  | .ok (k, publicValue) =>
      { session := { session with privateKey := k, publicValue := publicValue }
        outcome := .ok ()
        events := [] }

/-- Reads the public value of a peer. The length is checked against the group
first. -/
def readPeer (session : Session) (value : Octets) : Except ExchangeError Point := do
  session.group.verifyValue value
  session.curve.decode value

/-- Derives the secret shared with a peer. The multiple of the peer's point must
not be the point at infinity; the configuration says whether both coordinates
make up the secret. -/
def deriveSecret (session : Session) (settings : Lookup) (peer : Point) :
    Except ExchangeError Secret := do
  let product ← (session.curve.mul peer session.privateKey).mapError CurveError.toExchange
  (AgreementError.requireAgreement (!product.isIdentity) session.curve.name
    "product is the point at infinity").mapError AgreementError.toExchange
  session.curve.encode product (settings session.formatKey true)

/-- Takes the public value of a peer and derives the shared secret. An earlier
peer and secret are erased before anything else. -/
def setOtherPublicValue (session : Session) (settings : Lookup) (value : Octets) : Attempt :=
  let session := session.cleared
  match session.readPeer value with
  | .error e =>
      { session := session, outcome := .error e, events := [.publicValueMalformed] }
  | .ok peer =>
      match session.deriveSecret settings peer with
      | .error e =>
          { session := session, outcome := .error e, events := [.secretComputationFailed] }
      | .ok secret =>
          { session := { session with peer := some peer, secret := some secret }
            outcome := .ok ()
            events := [] }

/-- A description that shows the group, the curve and whether there is a
secret. -/
def describe (session : Session) : String :=
  "EcdhSession \x7b group: " ++ session.group.identifier
    ++ ", curve: " ++ Text.quoted session.curve.name
    ++ ", computed: " ++ toString session.isComputed ++ ", .. \x7d"

end Session

/-! ## What a daemon drives -/

/-- An exchange of whatever arithmetic, with what can be asked of it and done to it.
What is done to it gives the exchange afterwards and the outcome. -/
class DiffieHellman (α : Type) where
  dhGroup : α → DhGroup
  publicValue : α → Except ExchangeError Octets
  setOtherPublicValue : α → Lookup → Octets → Logged (α × Except ExchangeError Unit)
  setPrivateValue : α → Octets → Logged (α × Except ExchangeError Unit)
  /-- The octets of the shared secret, once there is one. -/
  sharedSecret : α → Except ExchangeError Octets

def Session.Attempt.logged (attempt : Session.Attempt) :
    Logged (Session × Except ExchangeError Unit) where
  value := (attempt.session, attempt.outcome)
  events := attempt.events

instance : DiffieHellman Session where
  dhGroup session := session.group
  publicValue session := .ok session.publicValue
  setOtherPublicValue session settings value :=
    (session.setOtherPublicValue settings value).logged
  setPrivateValue session value := (session.setPrivateValue value).logged
  sharedSecret session := session.sharedSecret.map Secret.octets

/-! ## Providers -/

/-- Begins sessions in one namespace. -/
structure Provider where
  /-- The namespace of the format option. -/
  scope : String
  deriving DecidableEq

namespace Provider

def standard : Provider where
  scope := defaultNamespace

def withNamespace (_ : Provider) (scope : String) : Provider where
  scope := scope

/-- The groups that sessions can be begun on. -/
def supportedGroups (_ : Provider) : List DhGroup :=
  DhGroup.ecpGroups

/-- Whether a session can be begun on a group. -/
def supports (_ : Provider) (group : DhGroup) : Bool :=
  group.provision?.isSome

def create {σ : Type} [RandomSource σ] (provider : Provider) (group : DhGroup) (source : σ) :
    Logged (Except ExchangeError Session × σ) :=
  let created := Session.create group source
  { value := (created.value.1.map fun session => session.inNamespace provider.scope,
      created.value.2)
    events := created.events }

/-- Begins a session on the group with a number. -/
def createById {σ : Type} [RandomSource σ] (provider : Provider) (id : UInt16) (source : σ) :
    Logged (Except ExchangeError Session × σ) :=
  match DhGroup.ofId id with
  | .error e => { value := (.error e, source), events := [] }
  | .ok group =>
      if provider.supports group then
        provider.create group source
      else
        { value := (.error (.unsupportedGroup id), source), events := [] }

def describe (provider : Provider) : String :=
  "EcdhProvider \x7b namespace: " ++ Text.quoted provider.scope ++ ", .. \x7d"

end Provider

end EcpAgreement
