import EcpAgreement.Session.Basic
import EcpAgreement.Settings.Memory
import EcpAgreement.Settings.Static

/-!
# Exchanges

Several parties' sessions under one configuration. Sessions have names, and each
name belongs to at most one of them. The configuration is either fixed or the
exchange's own changeable store, which every session reads anew whenever it
derives a secret.

An exchange goes on by steps, and each step answers and reports. Beginning a
session under a name in use ends the session that had the name. A step that fails
leaves every session but the one it names as it was.
-/

namespace EcpAgreement

/-- Where the sessions of an exchange look options up. -/
inductive SettingsSource where
  /-- In the exchange's changeable store. -/
  | memory
  /-- In fixed settings. -/
  | fixed (settings : StaticSettings)

/-- The parties' sessions with the configuration they share. -/
structure Exchange where
  /-- Where options are looked up. -/
  source : SettingsSource
  memory : MemorySettings
  provider : Provider
  sessions : List (String × Session)

namespace Exchange

def start (source : SettingsSource) (provider : Provider) : Exchange where
  source := source
  memory := .empty
  provider := provider
  sessions := []

def lookup (exchange : Exchange) : Lookup :=
  match exchange.source with
  | .memory => exchange.memory.lookup
  | .fixed settings => settings.lookup

def session? (exchange : Exchange) (name : String) : Option Session :=
  exchange.sessions.lookup name

/-- The exchange without the session of a name. -/
def erase (exchange : Exchange) (name : String) : Exchange :=
  { exchange with sessions := exchange.sessions.filter fun entry => entry.1 != name }

/-- The exchange with a session under a name, in place of any other. -/
def put (exchange : Exchange) (name : String) (session : Session) : Exchange :=
  { exchange with sessions := (name, session) :: (exchange.erase name).sessions }

theorem session?_erase (exchange : Exchange) (name other : String) :
    (exchange.erase name).session? other
      = if other = name then none else exchange.session? other :=
  MemorySettings.lookup_filter_ne exchange.sessions name other

theorem session?_put (exchange : Exchange) (name other : String) (session : Session) :
    (exchange.put name session).session? other
      = if other = name then some session else exchange.session? other := by
  have herase := exchange.session?_erase name other
  by_cases h : other = name
  · simp [session?, put, h]
  · have hbeq : (other == name) = false := beq_eq_false_iff_ne.mpr h
    rw [if_neg h] at herase
    rw [if_neg h, ← herase]
    simp [session?, put, hbeq, List.lookup_cons]

end Exchange

namespace Exchange

/-! ## Steps -/

/-- The way in which a session is begun. -/
inductive Route where
  /-- By the provider, for a group. -/
  | provider
  /-- By the provider, for a group's number. -/
  | number
  /-- Without the provider, so in the default namespace. -/
  | direct
  deriving DecidableEq

/-- What a peer value is taken from. -/
inductive PeerValue where
  | octets (value : Octets)
  | publicValueOf (name : String)

/-- A step, with the random source that it may draw from. -/
inductive Step (σ : Type) where
  /-- Begins a session. A namespace replaces the one that its route gives it. -/
  | create (name : String) (id : UInt16) (route : Route) (random : σ)
      (scope? : Option String)
  | setPrivateValue (name : String) (value : Octets)
  | setOtherPublicValue (name : String) (value : PeerValue)
  | publicValue (name : String)
  | sharedSecret (name : String)
  | inspect (name : String)
  | compare (name other : String)
  | drop (name : String)
  | settings (operation : MemorySettings.Operation)

/-- The answer to a step. -/
inductive Reply (σ : Type) where
  | unknownSession (name : String)
  | unknownGroup (cause : ExchangeError)
  /-- A session was begun or not; the random source as it was left. -/
  | created (result : Except ExchangeError Octets) (random : σ)
  /-- A private scalar was replaced or not; the public value afterwards. -/
  | privateValueSet (outcome : Except ExchangeError Unit) (publicValue : Octets)
  /-- A peer value was accepted or not; whether there is a secret afterwards. -/
  | otherPublicValueSet (outcome : Except ExchangeError Unit) (computed : Bool)
  | publicValue (value : Octets)
  | sharedSecret (secret : Except ExchangeError Secret)
  | state (group : DhGroup) (computed : Bool) (description : String)
  | compared (result : Except ExchangeError (Bool × Nat × Nat))
  | dropped
  | settings (answer : MemorySettings.Answer)

/-- What a step leads to. -/
structure Outcome (σ : Type) where
  exchange : Exchange
  reply : Reply σ
  events : List LogEvent

variable {σ : Type}

/-! ## Sessions that begin -/

/-- What is reported when the session of a name ends, if there is one. -/
def farewell (exchange : Exchange) (name : String) : List LogEvent :=
  match exchange.session? name with
  | some session => session.destroyed
  | none => []

/-- Begins a session by the given route. -/
def begin [RandomSource σ] (exchange : Exchange) (group : DhGroup) (route : Route)
    (random : σ) : Logged (Except ExchangeError Session × σ) :=
  match route with
  | .provider => exchange.provider.create group random
  | .number => exchange.provider.createById group.id random
  | .direct => Session.create group random

/-- Begins a session and puts it under a name. A session that had the name ends
after the new one has begun. On failure the exchange stays as it is. -/
def create [RandomSource σ] (exchange : Exchange) (name : String) (group : DhGroup)
    (route : Route) (random : σ) (scope? : Option String) : Outcome σ :=
  let begun := exchange.begin group route random
  match begun.value.1 with
  | .error e =>
      { exchange := exchange
        reply := .created (.error e) begun.value.2
        events := begun.events }
  | .ok session =>
      let session := (scope?.map session.inNamespace).getD session
      { exchange := exchange.put name session
        reply := .created (.ok session.publicValue) begun.value.2
        events := begun.events ++ exchange.farewell name }

/-! ## Sessions that exist -/

/-- An outcome that leaves the exchange as it is and reports nothing. -/
def unchanged (exchange : Exchange) (reply : Reply σ) : Outcome σ where
  exchange := exchange
  reply := reply
  events := []

/-- Answers from the session of a name, without changing anything. -/
def ask (exchange : Exchange) (name : String) (answer : Session → Reply σ) : Outcome σ :=
  match exchange.session? name with
  | some session => exchange.unchanged (answer session)
  | none => exchange.unchanged (.unknownSession name)

/-- Carries an operation out on the session of a name. -/
def perform (exchange : Exchange) (name : String) (operation : Session → Session.Attempt)
    (answer : Session.Attempt → Reply σ) : Outcome σ :=
  match exchange.session? name with
  | some session =>
      let attempt := operation session
      { exchange := exchange.put name attempt.session
        reply := answer attempt
        events := attempt.events }
  | none => exchange.unchanged (.unknownSession name)

/-- The octets of a peer value, or the name of the session that it should be
taken from and that does not exist. -/
def resolvePeer (exchange : Exchange) : PeerValue → Except String Octets
  | .octets value => .ok value
  | .publicValueOf name =>
      match exchange.session? name with
      | some session => .ok session.publicValue
      | none => .error name

/-- Gives the session of a name a peer value. -/
def setOtherPublicValue (exchange : Exchange) (name : String) (value : PeerValue) :
    Outcome σ :=
  match exchange.resolvePeer value with
  | .error missing => exchange.unchanged (.unknownSession missing)
  | .ok octets =>
      exchange.perform name
        (fun session => session.setOtherPublicValue exchange.lookup octets)
        fun attempt => .otherPublicValueSet attempt.outcome attempt.session.isComputed

def compareSecrets (a b : Session) : Except ExchangeError (Bool × Nat × Nat) := do
  let s ← a.sharedSecret
  let t ← b.sharedSecret
  return (s.sameOctets t, s.length, t.length)

/-- Compares the secrets of the sessions of two names. -/
def compare (exchange : Exchange) (name other : String) : Outcome σ :=
  match exchange.session? name, exchange.session? other with
  | some a, some b => exchange.unchanged (.compared (compareSecrets a b))
  | none, _ => exchange.unchanged (.unknownSession name)
  | _, none => exchange.unchanged (.unknownSession other)

def drop (exchange : Exchange) (name : String) : Outcome σ :=
  match exchange.session? name with
  | some session =>
      { exchange := exchange.erase name
        reply := .dropped
        events := session.destroyed }
  | none => exchange.unchanged (.unknownSession name)

/-- Does something to the changeable store, whether or not it is in force. -/
def changeSettings (exchange : Exchange) (operation : MemorySettings.Operation) :
    Outcome σ :=
  let done := exchange.memory.perform operation
  { exchange := { exchange with memory := done.value.1 }
    reply := .settings done.value.2
    events := done.events }

/-! ## Runs -/

def step [RandomSource σ] (exchange : Exchange) : Step σ → Outcome σ
  | .create name id route random scope? =>
      match DhGroup.ofId id with
      | .error e => exchange.unchanged (.unknownGroup e)
      | .ok group => exchange.create name group route random scope?
  | .setPrivateValue name value =>
      exchange.perform name (fun session => session.setPrivateValue value)
        fun attempt => .privateValueSet attempt.outcome attempt.session.publicValue
  | .setOtherPublicValue name value => exchange.setOtherPublicValue name value
  | .publicValue name => exchange.ask name fun session => .publicValue session.publicValue
  | .sharedSecret name => exchange.ask name fun session => .sharedSecret session.sharedSecret
  | .inspect name =>
      exchange.ask name fun session =>
        .state session.group session.isComputed session.describe
  | .compare name other => exchange.compare name other
  | .drop name => exchange.drop name
  | .settings operation => exchange.changeSettings operation

/-- Carries out steps in their order and gives the outcome of each. -/
def run [RandomSource σ] (exchange : Exchange) : List (Step σ) → List (Outcome σ)
  | [] => []
  | first :: rest =>
      let outcome := exchange.step first
      outcome :: outcome.exchange.run rest

/-- The exchange after steps in their order. -/
def after [RandomSource σ] (exchange : Exchange) (steps : List (Step σ)) : Exchange :=
  steps.foldl (fun exchange step => (exchange.step step).exchange) exchange

end Exchange

end EcpAgreement
