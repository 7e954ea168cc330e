import EcpAgreement.Exchange.Step
import EcpAgreement.Proofs.Session.History

/-!
# Effects of steps

What a session shows is its group, its curve and whether there is a secret.  Of a
step one may know its kind, which leaves out every octet, every source and every
setting, and its verdict, which tells whether it went well.

Every step has one of a few effects on the sessions and on the log
(`effect_step`).  What holds of runs is concluded from these effects.
-/

namespace EcpAgreement

/-- What a session shows of itself. -/
structure View where
  group : DhGroup
  curve : String
  computed : Bool

/-- What became of a step, as far as it may be known. -/
inductive Verdict where
  /-- The step did what it is there for. -/
  | done
  /-- The step names a session that does not exist. -/
  | absent
  /-- A session was not begun, or a value was not read. -/
  | refused
  /-- A peer value was read, but no secret was derived from it. -/
  | underived
  deriving DecidableEq

/-- What is reported of a peer value. -/
def Verdict.warnings : Verdict → List LogEvent
  | .refused => [.publicValueMalformed]
  | .underived => [.secretComputationFailed]
  | .done | .absent => []

/-! ## Operations on a session -/

namespace Session

variable {σ : Type} [RandomSource σ] {group : DhGroup}

def view (session : Session) : View where
  group := session.group
  curve := session.curve.name
  computed := session.isComputed

theorem describe_eq_of_view_eq {session other : Session} (h : session.view = other.view) :
    session.describe = other.describe := by
  have hgroup : session.group = other.group := congrArg View.group h
  have hcurve : session.curve.name = other.curve.name := congrArg View.curve h
  have hcomputed : session.isComputed = other.isComputed := congrArg View.computed h
  delta describe
  rw [hgroup, hcurve, hcomputed]

/-- How beginning a session on a group comes out. -/
inductive Begins (group : DhGroup) : Logged (Except ExchangeError Session × σ) → Prop where
  | failed (e : ExchangeError) (next : σ) :
      Begins group { value := (.error e, next), events := group.curveGroup.events }
  | begun {session : Session} (next : σ) (hgroup : session.group = group)
      (hcurve : group.curveGroup.value = .ok session.curve) (hsecret : session.secret = none) :
      Begins group
        { value := (.ok session, next)
          events := group.curveGroup.events ++ [.sessionCreated group session.curve.name] }

theorem begins_create (group : DhGroup) (source : σ) : Begins group (create group source) := by
  cases hcurve : group.curveGroup.value with
  | error e =>
      simp only [create, hcurve]
      exact .failed e source
  | ok curve =>
      simp only [create, hcurve]
      split
      · exact .failed _ _
      · exact .begun _ rfl hcurve rfl

theorem begins_provider (provider : Provider) (group : DhGroup) (source : σ) :
    Begins group (provider.create group source) := by
  have hbegins := begins_create group source
  rw [Provider.create]
  generalize create group source = created at hbegins ⊢
  cases hbegins with
  | failed e next => exact .failed e next
  | begun next hgroup hcurve hsecret => exact .begun next hgroup hcurve hsecret

/-- A group that no session can be begun on has no curve to report of. -/
theorem begins_createById (provider : Provider) (group : DhGroup) (source : σ) :
    Begins group (provider.createById group.id source) := by
  simp only [Provider.createById, DhGroup.ofId_id]
  by_cases hsupports : provider.supports group = true
  · rw [if_pos hsupports]
    exact begins_provider provider group source
  · have hnone : group.provision? = none := Option.not_isSome_iff_eq_none.mp hsupports
    have hevents : group.curveGroup.events = [] := by
      rw [DhGroup.curveGroup, hnone]
    have hfailed : Begins group
        { value := (.error (.unsupportedGroup group.id), source)
          events := group.curveGroup.events } := .failed _ source
    rw [hevents] at hfailed
    rw [if_neg hsupports]
    exact hfailed

theorem view_setPrivateValue (session : Session) (value : Octets) :
    (session.setPrivateValue value).session.view = session.view := by
  rcases session.setPrivateValue_session value with hsame | ⟨k, publicValue, -, -, heq⟩
  · rw [hsame]
  · rw [heq]
    rfl

theorem events_setPrivateValue (session : Session) (value : Octets) :
    (session.setPrivateValue value).events = [] := by
  rw [setPrivateValue]
  split
  · rfl
  · rfl

/-- What becomes of a peer value. -/
def peerVerdict (session : Session) (settings : Lookup) (value : Octets) : Verdict :=
  match session.readPeer value with
  | .error _ => .refused
  | .ok peer =>
      match session.deriveSecret settings peer with
      | .error _ => .underived
      | .ok _ => .done

theorem peerVerdict_ne_absent (session : Session) (settings : Lookup) (value : Octets) :
    session.peerVerdict settings value ≠ .absent := by
  rw [peerVerdict]
  split
  · nofun
  · split
    · nofun
    · nofun

/-- A peer value shows by what becomes of it, and by nothing else. -/
theorem setOtherPublicValue_shows (session : Session) (settings : Lookup) (value : Octets) :
    (session.setOtherPublicValue settings value).events =
        (session.peerVerdict settings value).warnings ∧
      (session.setOtherPublicValue settings value).session.view =
        { session.view with computed := session.peerVerdict settings value == .done } ∧
      (session.setOtherPublicValue settings value).outcome.isOk =
        (session.peerVerdict settings value == .done) := by
  rcases session.setOtherPublicValue_cases settings value with
    ⟨e, heq, hread⟩ | ⟨peer, e, heq, hread, hderive⟩ | ⟨peer, secret, heq, hread, hderive⟩
  · have hverdict : session.peerVerdict settings value = .refused := by
      simp only [peerVerdict, hread]
    rw [heq, hverdict]
    exact ⟨rfl, rfl, rfl⟩
  · have hverdict : session.peerVerdict settings value = .underived := by
      simp only [peerVerdict, hread, hderive]
    rw [heq, hverdict]
    exact ⟨rfl, rfl, rfl⟩
  · have hverdict : session.peerVerdict settings value = .done := by
      simp only [peerVerdict, hread, hderive]
    rw [heq, hverdict]
    exact ⟨rfl, rfl, rfl⟩

end Session

namespace Exchange

/-! ## Kinds and verdicts -/

/-- What may be known of a step before it is carried out. -/
inductive Kind where
  | create (name : String) (id : UInt16)
  | setPrivateValue (name : String)
  | setOtherPublicValue (name : String)
  | drop (name : String)
  /-- A value of the store is set or removed. -/
  | changeSettings
  | failSettings
  /-- Something is read. -/
  | ask
  deriving DecidableEq

variable {σ : Type}

def Step.kind : Step σ → Kind
  | .create name id _ _ _ => .create name id
  | .setPrivateValue name _ => .setPrivateValue name
  | .setOtherPublicValue name _ => .setOtherPublicValue name
  | .drop name => .drop name
  | .settings (.set _ _) | .settings (.remove _) => .changeSettings
  | .settings (.fail _) => .failSettings
  | .settings (.get _ _) | .publicValue _ | .sharedSecret _ | .inspect _ | .compare _ _ => .ask

/-- What an answer tells of the step. -/
def Reply.verdict : Reply σ → Verdict
  | .unknownSession _ => .absent
  | .unknownGroup _ => .refused
  | .created result _ => if result.isOk then .done else .refused
  | .privateValueSet outcome _ | .otherPublicValueSet outcome _ =>
      if outcome.isOk then .done else .refused
  | .publicValue _ | .sharedSecret _ | .state _ _ _ | .compared _ | .dropped | .settings _ =>
      .done

section Steps

variable [RandomSource σ]

/-- What becomes of a step. The answer tells it, except that it does not tell
where a peer value failed. -/
def verdict (exchange : Exchange) : Step σ → Verdict
  | .setOtherPublicValue name value =>
      match exchange.resolvePeer value, exchange.session? name with
      | .ok octets, some session => session.peerVerdict exchange.lookup octets
      | _, _ => .absent
  | step => (exchange.step step).reply.verdict

/-! ## The effects -/

/-- What a step with a verdict may do: the exchange that it leads to, and the
events. -/
inductive Effect (exchange : Exchange) : Step σ → Verdict → Exchange → List LogEvent → Prop where
  | begun {name : String} {id : UInt16} {route : Route} {random : σ} {scope? : Option String}
      {session : Session} (hid : DhGroup.ofId id = .ok session.group)
      (hcurve : session.group.curveGroup.value = .ok session.curve)
      (hsecret : session.secret = none) :
      Effect exchange (.create name id route random scope?) .done (exchange.put name session)
        ((DhGroup.curveGroupOfId id).events
          ++ .sessionCreated session.group session.curve.name :: exchange.farewell name)
  | notBegun (name : String) (id : UInt16) (route : Route) (random : σ)
      (scope? : Option String) :
      Effect exchange (.create name id route random scope?) .refused exchange
        (DhGroup.curveGroupOfId id).events
  | privateValue {name : String} {value : Octets} {verdict : Verdict} {session next : Session}
      (hsession : exchange.session? name = some session) (hview : next.view = session.view) :
      Effect exchange (.setPrivateValue name value) verdict (exchange.put name next) []
  | noPrivateValue (name : String) (value : Octets) :
      Effect exchange (.setPrivateValue name value) .absent exchange []
  | peerValue {name : String} {value : PeerValue} {verdict : Verdict} {session next : Session}
      (hsession : exchange.session? name = some session) (hpresent : verdict ≠ .absent)
      (hview : next.view = { session.view with computed := verdict == .done }) :
      Effect exchange (.setOtherPublicValue name value) verdict (exchange.put name next)
        verdict.warnings
  | noPeerValue (name : String) (value : PeerValue) :
      Effect exchange (.setOtherPublicValue name value) .absent exchange []
  | dropped {name : String} {session : Session}
      (hsession : exchange.session? name = some session) :
      Effect exchange (.drop name) .done (exchange.erase name) session.destroyed
  | nothingDropped {name : String} (hsession : exchange.session? name = none) :
      Effect exchange (.drop name) .absent exchange []
  | settings (operation : MemorySettings.Operation) :
      Effect exchange (.settings operation) .done
        { exchange with memory := (exchange.memory.perform operation).value.1 }
        (exchange.memory.perform operation).events
  | asked {step : Step σ} {verdict : Verdict} (hkind : step.kind = .ask) :
      Effect exchange step verdict exchange []

theorem begins_begin (exchange : Exchange) (group : DhGroup) (route : Route) (random : σ) :
    Session.Begins group (exchange.begin group route random) := by
  cases route with
  | provider => exact Session.begins_provider exchange.provider group random
  | number => exact Session.begins_createById exchange.provider group random
  | direct => exact Session.begins_create group random

theorem effect_create (exchange : Exchange) (name : String) (id : UInt16) (route : Route)
    (random : σ) (scope? : Option String) :
    exchange.Effect (.create name id route random scope?)
      (exchange.verdict (.create name id route random scope?))
      (exchange.step (.create name id route random scope?)).exchange
      (exchange.step (.create name id route random scope?)).events := by
  cases hid : DhGroup.ofId id with
  | error e =>
      have hevents : (DhGroup.curveGroupOfId id).events = [] := by
        rw [DhGroup.curveGroupOfId, hid]
      simp only [verdict, step, hid]
      have heffect : exchange.Effect (.create name id route random scope?) .refused exchange
          (DhGroup.curveGroupOfId id).events := .notBegun name id route random scope?
      rw [hevents] at heffect
      exact heffect
  | ok group =>
      have hevents : (DhGroup.curveGroupOfId id).events = group.curveGroup.events := by
        rw [DhGroup.curveGroupOfId, hid]
      have hbegins := exchange.begins_begin group route random
      simp only [verdict, step, hid, create]
      generalize exchange.begin group route random = begun at hbegins ⊢
      cases hbegins with
      | failed e next =>
          rw [← hevents]
          exact .notBegun name id route random scope?
      | begun next hgroup hcurve hsecret =>
          subst hgroup
          rw [← hevents]
          dsimp only
          rw [List.append_assoc]
          cases scope? with
          | none => exact .begun hid hcurve hsecret
          | some scope => exact .begun hid hcurve hsecret

theorem effect_setOtherPublicValue (exchange : Exchange) (name : String) (value : PeerValue) :
    exchange.Effect (.setOtherPublicValue name value : Step σ)
      (exchange.verdict (.setOtherPublicValue name value : Step σ))
      (exchange.step (.setOtherPublicValue name value : Step σ)).exchange
      (exchange.step (.setOtherPublicValue name value : Step σ)).events := by
  cases hpeer : exchange.resolvePeer value with
  | error missing =>
      simp only [verdict, step, setOtherPublicValue, hpeer]
      exact .noPeerValue name value
  | ok octets =>
      simp only [verdict, step, setOtherPublicValue, perform, hpeer]
      cases hsession : exchange.session? name with
      | none => exact .noPeerValue name value
      | some session =>
          obtain ⟨hevents, hview, -⟩ :=
            session.setOtherPublicValue_shows exchange.lookup octets
          dsimp only
          rw [hevents]
          exact .peerValue hsession (session.peerVerdict_ne_absent exchange.lookup octets) hview

/-- Every step has an effect. -/
theorem effect_step (exchange : Exchange) (step : Step σ) :
    exchange.Effect step (exchange.verdict step) (exchange.step step).exchange
      (exchange.step step).events := by
  cases step with
  | create name id route random scope? =>
      exact exchange.effect_create name id route random scope?
  | setPrivateValue name value =>
      simp only [verdict, Exchange.step, perform]
      cases hsession : exchange.session? name with
      | none => exact .noPrivateValue name value
      | some session =>
          dsimp only
          rw [session.events_setPrivateValue value]
          exact .privateValue hsession (session.view_setPrivateValue value)
  | setOtherPublicValue name value => exact exchange.effect_setOtherPublicValue name value
  | drop name =>
      simp only [verdict, Exchange.step, drop]
      cases hsession : exchange.session? name with
      | none => exact .nothingDropped hsession
      | some session => exact .dropped hsession
  | settings operation => exact .settings operation
  | publicValue name | sharedSecret name | inspect name =>
      simp only [Exchange.step, ask]
      split
      · exact .asked rfl
      · exact .asked rfl
  | compare name other =>
      simp only [Exchange.step, compare]
      split
      · exact .asked rfl
      · exact .asked rfl
      · exact .asked rfl

/-! ## Runs -/

/-- What is told of each step of a run, in the exchange that the step meets. -/
def along {α : Type} (tell : Exchange → Step σ → α) (exchange : Exchange) :
    List (Step σ) → List α
  | [] => []
  | first :: rest => tell exchange first :: (exchange.step first).exchange.along tell rest

theorem run_eq_along (exchange : Exchange) (steps : List (Step σ)) :
    exchange.run steps = exchange.along step steps := by
  induction steps generalizing exchange with
  | nil => rfl
  | cons first rest ih =>
      rw [run, along]
      exact congrArg _ (ih _)

theorem map_along {α β : Type} (f : α → β) (tell : Exchange → Step σ → α)
    (exchange : Exchange) (steps : List (Step σ)) :
    (exchange.along tell steps).map f = exchange.along (fun e s => f (tell e s)) steps := by
  induction steps generalizing exchange with
  | nil => rfl
  | cons first rest ih =>
      rw [along, along, List.map_cons, ih]

theorem exists_of_mem_along {α : Type} {tell : Exchange → Step σ → α} {exchange : Exchange}
    {steps : List (Step σ)} {told : α} (h : told ∈ exchange.along tell steps) :
    ∃ e, ∃ s ∈ steps, told = tell e s := by
  induction steps generalizing exchange with
  | nil => contradiction
  | cons first rest ih =>
      rcases List.mem_cons.mp h with rfl | hrest
      · exact ⟨exchange, first, List.mem_cons_self, rfl⟩
      · obtain ⟨e, s, hs, htold⟩ := ih hrest
        exact ⟨e, s, List.mem_cons_of_mem first hs, htold⟩

end Steps

end Exchange

end EcpAgreement
