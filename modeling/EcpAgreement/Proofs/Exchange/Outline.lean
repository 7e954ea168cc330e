import EcpAgreement.Proofs.Exchange.Effects
import Mathlib.Logic.Function.Basic

/-!
# The outline of an exchange

An observer knows what each session shows, and whether a writer has failed inside
the store: this is the outline of an exchange.  An outline goes through steps on
its own, from their kinds and verdicts alone.  What an exchange reports at a step
and the outline that it then has are those that its outline gives (`trace_step`),
so nothing else has a part in them.
-/

namespace EcpAgreement

/-- What a session shows that has just begun on the group with a number. -/
def View.first? (id : UInt16) : Option View :=
  match DhGroup.ofId id with
  | .error _ => none
  | .ok group =>
      group.curveGroup.value.toOption.map fun curve =>
        { group := group
          curve := curve.name
          computed := false }

theorem View.first?_eq {id : UInt16} {session : Session}
    (hid : DhGroup.ofId id = .ok session.group)
    (hcurve : session.group.curveGroup.value = .ok session.curve)
    (hsecret : session.secret = none) : View.first? id = some session.view := by
  rw [first?, hid, Session.view, Session.isComputed, hsecret]
  dsimp only
  rw [hcurve]
  rfl

/-- What may be known of an exchange. -/
structure Outline where
  /-- What the session of each name shows. -/
  views : String → Option View
  /-- Whether a writer has failed inside the store. -/
  marked : Bool

/-- What a step shows: the events, and the outline afterwards. -/
structure Trace where
  events : List LogEvent
  outline : Outline

namespace Outline

variable {outline : Outline} {name : String} {view? : Option View}

def set (outline : Outline) (name : String) (view? : Option View) : Outline :=
  { outline with views := Function.update outline.views name view? }

theorem set_self (h : outline.views name = view?) : outline.set name view? = outline := by
  rw [set, ← h, Function.update_eq_self]

/-- What is reported when the session of a name ends, if there is one. -/
def farewell (outline : Outline) (name : String) : List LogEvent :=
  match outline.views name with
  | some view => [.sessionDestroyed view.group]
  | none => []

/-- What is reported before a change of the store. -/
def recovery (outline : Outline) : List LogEvent :=
  if outline.marked then [.settingsRecovered] else []

def unchanged (outline : Outline) : Trace where
  events := []
  outline := outline

/-- How an outline goes through a step. -/
def step (outline : Outline) : Exchange.Kind → Verdict → Trace
  | .create name id, verdict =>
      match verdict, View.first? id with
      | .done, some view =>
          { events :=
              (DhGroup.curveGroupOfId id).events
                ++ .sessionCreated view.group view.curve :: outline.farewell name
            outline := outline.set name (some view) }
      | _, _ => { events := (DhGroup.curveGroupOfId id).events, outline := outline }
  | .setPrivateValue _, _ => outline.unchanged
  | .setOtherPublicValue name, verdict =>
      match verdict, outline.views name with
      | .absent, _ | _, none => outline.unchanged
      | verdict, some view =>
          { events := verdict.warnings
            outline := outline.set name (some { view with computed := verdict == .done }) }
  | .drop name, _ => { events := outline.farewell name, outline := outline.set name none }
  | .changeSettings, _ => { events := outline.recovery, outline := outline }
  | .failSettings, _ =>
      { events := outline.recovery, outline := { outline with marked := true } }
  | .ask, _ => outline.unchanged

theorem step_setOtherPublicValue {verdict : Verdict} {view : View}
    (hview : outline.views name = some view) (hpresent : verdict ≠ .absent) :
    outline.step (.setOtherPublicValue name) verdict =
      { events := verdict.warnings
        outline := outline.set name (some { view with computed := verdict == .done }) } := by
  cases verdict with
  | absent => contradiction
  | done | refused | underived => simp only [step, hview]

end Outline

namespace Exchange

variable {σ : Type} {exchange : Exchange} {name : String} {session : Session}

def outline (exchange : Exchange) : Outline where
  views name := (exchange.session? name).map Session.view
  marked := exchange.memory.marked

def Outcome.trace (outcome : Outcome σ) : Trace where
  events := outcome.events
  outline := outcome.exchange.outline

theorem views_outline_of_some (h : exchange.session? name = some session) :
    exchange.outline.views name = some session.view :=
  congrArg (Option.map Session.view) h

theorem views_outline_of_none (h : exchange.session? name = none) :
    exchange.outline.views name = none :=
  congrArg (Option.map Session.view) h

/-- The outline changes at a name when the sessions do. -/
theorem outline_eq_set {next : Exchange} (held? : Option Session)
    (hmemory : next.memory = exchange.memory)
    (hsessions : ∀ other, next.session? other =
      if other = name then held? else exchange.session? other) :
    next.outline = exchange.outline.set name (held?.map Session.view) := by
  have hviews : next.outline.views =
      Function.update exchange.outline.views name (held?.map Session.view) := by
    funext other
    rw [Function.update_apply]
    exact (congrArg (Option.map Session.view) (hsessions other)).trans
      (apply_ite (Option.map Session.view) _ _ _)
  rw [Outline.set, ← hviews, outline, outline, hmemory]

theorem outline_erase (exchange : Exchange) (name : String) :
    (exchange.erase name).outline = exchange.outline.set name none :=
  outline_eq_set none rfl (exchange.session?_erase name)

theorem outline_put (exchange : Exchange) (name : String) (session : Session) :
    (exchange.put name session).outline = exchange.outline.set name (some session.view) :=
  outline_eq_set (some session) rfl fun other => exchange.session?_put name other session

theorem farewell_outline (exchange : Exchange) (name : String) :
    exchange.outline.farewell name = exchange.farewell name := by
  rw [Outline.farewell, farewell]
  cases hsession : exchange.session? name with
  | none => rw [views_outline_of_none hsession]
  | some session =>
      rw [views_outline_of_some hsession]
      rfl

section Steps

variable [RandomSource σ]

/-- What a step shows is decided by the outline, the kind and the verdict. -/
theorem trace_step (exchange : Exchange) (step : Step σ) :
    (exchange.step step).trace = exchange.outline.step step.kind (exchange.verdict step) := by
  have heffect := exchange.effect_step step
  rw [Outcome.trace]
  generalize exchange.verdict step = verdict, (exchange.step step).exchange = next,
    (exchange.step step).events = events at heffect ⊢
  cases heffect with
  | begun hid hcurve hsecret =>
      simp only [Step.kind, Outline.step, View.first?_eq hid hcurve hsecret, outline_put,
        farewell_outline]
      rfl
  | notBegun name id route random scope? => rfl
  | privateValue hsession hview =>
      rw [outline_put, hview, Outline.set_self (views_outline_of_some hsession)]
      rfl
  | noPrivateValue name value => rfl
  | peerValue hsession hpresent hview =>
      rw [outline_put, hview, Step.kind,
        Outline.step_setOtherPublicValue (views_outline_of_some hsession) hpresent]
  | noPeerValue name value => rfl
  | dropped hsession =>
      rw [outline_erase, Step.kind, Outline.step, Outline.farewell,
        views_outline_of_some hsession]
      rfl
  | nothingDropped hsession =>
      rw [Step.kind, Outline.step, Outline.farewell, views_outline_of_none hsession,
        Outline.set_self (views_outline_of_none hsession)]
  | settings operation =>
      cases operation with
      | set key value => rfl
      | remove key => rfl
      | get key default => rfl
      | fail => rfl
  | asked hkind =>
      rw [hkind]
      rfl

end Steps

end Exchange

end EcpAgreement
