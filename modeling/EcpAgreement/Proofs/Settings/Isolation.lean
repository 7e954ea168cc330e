import EcpAgreement.Proofs.Session.History
import EcpAgreement.Session.Basic
import EcpAgreement.Settings.Static

/-!
# Namespaces do not meet

Fixed settings look a key up by taking their namespace and a dot off its front.
The key of the format option nevertheless determines its namespace, since the
option's name stands at the end (`formatKey_inj`).  So a session finds the flag of
the settings in their own namespace only, and elsewhere the default, however much
two namespaces look alike.  The key of a session is fixed when it is placed, so
this holds for all secrets that it will ever derive.
-/

namespace EcpAgreement

theorem toList_formatKey (scope : String) :
    (formatKey scope).toList = scope.toList ++ ('.' :: formatOption.toList) := by
  simp [formatKey]

/-- Different namespaces have different keys. -/
theorem formatKey_inj {scope other : String} : formatKey scope = formatKey other ↔ scope = other := by
  constructor
  · intro h
    have hlists := congrArg String.toList h
    rw [toList_formatKey, toList_formatKey] at hlists
    exact String.toList_inj.mp (List.append_cancel_right hlists)
  · rintro rfl
    rfl

namespace StaticSettings

/-- The flag that sessions in a namespace find. -/
def flagIn (settings : StaticSettings) (scope : String) : Bool :=
  if scope = settings.scope then settings.xOnly else true

theorem lookup_formatKey (settings : StaticSettings) (scope : String) :
    settings.lookup (formatKey scope) true = settings.flagIn scope := by
  rw [lookup_eq, flagIn]
  simp only [formatKey_inj]

end StaticSettings

/-! ## The key of a session -/

namespace Party

/-- No action moves a session to another key. -/
theorem formatKey_act (party : Party) (action : Action) :
    (party.act action).session.formatKey = party.session.formatKey := by
  cases action with
  | setPrivateValue value =>
      rw [act]
      rcases Session.setPrivateValue_session party.session value with
        hsame | ⟨k, publicValue, -, -, heq⟩
      · rw [hsame]
      · rw [heq]
  | setOtherPublicValue value =>
      rw [act]
      rcases Session.setOtherPublicValue_cases party.session party.settings value with
        ⟨e, heq, -⟩ | ⟨peer, e, heq, -, -⟩ | ⟨peer, secret, heq, -, -⟩
      · rw [heq, Session.cleared]
      · rw [heq, Session.cleared]
      · rw [heq]
  | changeSettings settings => rfl
  | ask => rfl

theorem formatKey_after (party : Party) (actions : List Action) :
    (party.after actions).session.formatKey = party.session.formatKey := by
  induction actions generalizing party with
  | nil => rfl
  | cons action rest ih => exact (ih (party.act action)).trans (party.formatKey_act action)

end Party

namespace Session

variable {session : Session} {settings : Lookup} {xOnly : Bool}

/-- Whatever peer value the session is given next, a secret that it then holds is
written in the format that a flag says. -/
def Formats (session : Session) (settings : Lookup) (xOnly : Bool) : Prop :=
  ∀ value secret, (session.setOtherPublicValue settings value).session.secret = some secret ↔
    ∃ peer product, session.readPeer value = .ok peer ∧
      session.curve.mul peer session.privateKey = .ok product ∧
      session.curve.encode product xOnly = .ok secret

theorem formats_of_flag (h : settings session.formatKey true = xOnly) :
    session.Formats settings xOnly := by
  intro value secret
  rcases setOtherPublicValue_cases session settings value with
    ⟨e, heq, hread⟩ | ⟨peer, e, heq, hread, hderive⟩ | ⟨peer, derived, heq, hread, hderive⟩
  · simp [heq, cleared, hread]
  · have hnone : ∀ secret, ¬∃ product,
        session.curve.mul peer session.privateKey = .ok product ∧
          session.curve.encode product xOnly = .ok secret := by
      intro secret hsecret
      rw [← h, ← deriveSecret_eq_ok_iff, hderive] at hsecret
      contradiction
    simpa [heq, cleared, hread] using hnone secret
  · have hsome : derived = secret ↔ ∃ product,
        session.curve.mul peer session.privateKey = .ok product ∧
          session.curve.encode product xOnly = .ok secret := by
      rw [← h, ← deriveSecret_eq_ok_iff, hderive, Except.ok.injEq]
    simpa [heq, hread] using hsome

end Session

theorem Provider.formatKey_create {σ : Type} [RandomSource σ] {provider : Provider}
    {group : DhGroup} {source : σ} {session : Session}
    (h : (provider.create group source).value.1 = .ok session) :
    session.formatKey = formatKey provider.scope := by
  cases hcreated : (Session.create group source).value.1 with
  | error e =>
      simp only [create, hcreated, Except.map] at h
      contradiction
  | ok created =>
      simp only [create, hcreated, Except.map] at h
      rw [← Except.ok.inj h]
      rfl

theorem Provider.formatKey_createById {σ : Type} [RandomSource σ] {provider : Provider}
    {id : UInt16} {source : σ} {session : Session}
    (h : (provider.createById id source).value.1 = .ok session) :
    session.formatKey = formatKey provider.scope := by
  rw [createById] at h
  split at h
  · contradiction
  · split at h
    · exact formatKey_create h
    · contradiction

namespace StaticSettings

/-- The settings answer for one key, and their flag reaches the sessions in one
namespace, whatever has happened to a session before it derives a secret. -/
structure Isolated (settings : StaticSettings) : Prop where
  lookup_eq : ∀ key default, settings.lookup key default =
    if key = settings.scope ++ ".ecp_x_coordinate_only" then settings.xOnly else default
  inNamespace : ∀ (session : Session) scope actions,
    (Party.after ⟨session.inNamespace scope, settings.lookup⟩ actions).session.Formats
      settings.lookup (settings.flagIn scope)
  create : ∀ {σ : Type} [RandomSource σ] (provider : Provider) scope group (source : σ)
    session actions,
    ((provider.withNamespace scope).create group source).value.1 = .ok session →
    (Party.after ⟨session, settings.lookup⟩ actions).session.Formats
      settings.lookup (settings.flagIn scope)
  createById : ∀ {σ : Type} [RandomSource σ] (provider : Provider) scope id (source : σ)
    session actions,
    ((provider.withNamespace scope).createById id source).value.1 = .ok session →
    (Party.after ⟨session, settings.lookup⟩ actions).session.Formats
      settings.lookup (settings.flagIn scope)

/-- A session keeps the format of the namespace that it was placed in. -/
theorem formats_after (settings : StaticSettings) {session : Session} {scope : String}
    (h : session.formatKey = formatKey scope) (actions : List Action) :
    (Party.after ⟨session, settings.lookup⟩ actions).session.Formats
      settings.lookup (settings.flagIn scope) := by
  apply Session.formats_of_flag
  rw [Party.formatKey_after, h, lookup_formatKey]

/-- Settings of one namespace say nothing in any other. -/
theorem namespaces_isolated (settings : StaticSettings) : settings.Isolated := by
  constructor
  case lookup_eq =>
    intro key default
    have hkey : settings.scope ++ ".ecp_x_coordinate_only" = formatKey settings.scope := by
      rw [formatKey, String.append_assoc]
      rfl
    rw [hkey]
    exact settings.lookup_eq key default
  case inNamespace =>
    intro session scope actions
    exact settings.formats_after rfl actions
  case create =>
    intro σ _ provider scope group source session actions h
    exact settings.formats_after (Provider.formatKey_create h) actions
  case createById =>
    intro σ _ provider scope id source session actions h
    exact settings.formats_after (Provider.formatKey_createById h) actions

/-- A namespace, one that it begins with, one that begins with it and ends in the
option's name, and the empty one. -/
example :
    ["vpn", "vp", "vpn.ecp_x_coordinate_only", ""].map
        (fun scope => (StaticSettings.mk "vpn" false).lookup (formatKey scope) true) =
      [false, true, true, true] := by
  decide +kernel

end StaticSettings

end EcpAgreement
