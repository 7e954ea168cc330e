import EcpAgreement.Proofs.Exchange.Accounts
import EcpAgreement.Proofs.Exchange.Outline
import Mathlib.Data.List.Forall2

/-!
# The log and the descriptions tell no secret

Two runs whose steps have the same kinds and the same verdicts keep the same
outline, whatever the random sources, the scalars, the peer values and the
settings are.  So they report the same events at each step, and their sessions
have the same descriptions (`alike_run`).

What is reported is exact too: a line for the beginning of each session, one for
its end, and a warning for each peer value that fails (`logs_publicly`).
-/

namespace EcpAgreement

namespace Exchange

section Comparison

variable {σ τ : Type} [RandomSource σ] [RandomSource τ]

/-- The verdicts of a run. -/
def verdicts (exchange : Exchange) (steps : List (Step σ)) : List Verdict :=
  exchange.along verdict steps

/-- Two outcomes that the log and the descriptions of the sessions do not tell
apart. -/
structure Outcome.Alike (outcome : Outcome σ) (other : Outcome τ) : Prop where
  events_eq : outcome.events = other.events
  describe_eq : ∀ name, (outcome.exchange.session? name).map Session.describe =
    (other.exchange.session? name).map Session.describe

omit [RandomSource σ] [RandomSource τ] in
theorem Outcome.alike_of_trace_eq {outcome : Outcome σ} {other : Outcome τ}
    (h : outcome.trace = other.trace) : outcome.Alike other := by
  refine ⟨congrArg Trace.events h, fun name => ?_⟩
  have hview : (outcome.exchange.session? name).map Session.view =
      (other.exchange.session? name).map Session.view :=
    congrArg (fun trace => trace.outline.views name) h
  cases hsession : outcome.exchange.session? name with
  | none =>
      rw [hsession] at hview
      rw [Option.map_eq_none_iff.mp hview.symm]
  | some session =>
      rw [hsession] at hview
      obtain ⟨session', hsession', hsame⟩ := Option.map_eq_some_iff.mp hview.symm
      rw [hsession', Option.map_some, Option.map_some, Session.describe_eq_of_view_eq hsame]

/-- Exchanges with one outline keep it through steps of the same kinds with the
same verdicts. -/
theorem alike_run {exchange other : Exchange} {steps : List (Step σ)} {others : List (Step τ)}
    (houtline : other.outline = exchange.outline)
    (hkinds : others.map Step.kind = steps.map Step.kind)
    (hverdicts : other.verdicts others = exchange.verdicts steps) :
    List.Forall₂ Outcome.Alike (exchange.run steps) (other.run others) := by
  induction steps generalizing exchange other others with
  | nil =>
      obtain rfl := List.map_eq_nil_iff.mp hkinds
      exact .nil
  | cons first rest ih =>
      obtain ⟨first', rest', rfl, hkind, hkinds'⟩ := List.map_eq_cons_iff.mp hkinds
      obtain ⟨hverdict, hverdicts'⟩ := List.cons_eq_cons.mp hverdicts
      have htrace : (other.step first').trace = (exchange.step first).trace := by
        rw [trace_step, trace_step, houtline, hkind, hverdict]
      have hnext : (other.step first').exchange.outline =
          (exchange.step first).exchange.outline := congrArg Trace.outline htrace
      exact .cons (Outcome.alike_of_trace_eq htrace.symm) (ih hnext hkinds' hverdicts')

/-- Before any session begins, nothing is known but whether a writer has failed. -/
theorem outline_eq_of_nil {exchange other : Exchange} (hnone : exchange.sessions = [])
    (hnone' : other.sessions = []) (hmarked : other.memory.marked = exchange.memory.marked) :
    other.outline = exchange.outline := by
  rw [outline, outline, hmarked]
  congr
  funext name
  rw [session?, session?, hnone, hnone']

end Comparison

/-- What the log and the descriptions tell of a run, and what they leave out. -/
structure LogsPublicly {σ : Type} [RandomSource σ] (exchange : Exchange)
    (steps : List (Step σ)) : Prop where
  /-- The log and the descriptions are those of every run of the same kinds with
  the same verdicts. -/
  alike : ∀ {τ : Type} [RandomSource τ] (other : Exchange) (others : List (Step τ)),
    other.sessions = [] → other.memory.marked = exchange.memory.marked →
      others.map Step.kind = steps.map Step.kind →
        other.verdicts others = exchange.verdicts steps →
          List.Forall₂ Outcome.Alike (exchange.run steps) (other.run others)
  /-- A line is written at the step that begins a session, and at no other. -/
  begun : (exchange.run steps).map (fun outcome => outcome.events.filterMap LogEvent.begun?) =
    (exchange.begunAlong steps).map fun pair? => (pair?.map Prod.snd).toList
  /-- A line is written at the step that ends a session, and at no other. -/
  ended : (exchange.run steps).map (fun outcome => outcome.events.filterMap LogEvent.ended?) =
    (exchange.endedAlong steps).map fun pair? => (pair?.map Prod.snd).toList
  /-- Each session that began has ended once, or is left. -/
  balance : ((exchange.begunAlong steps).filterMap id).Perm
    ((exchange.endedAlong steps).filterMap id ++ (exchange.after steps).roll)
  /-- A peer value that fails is warned of once, and one that succeeds is not. -/
  warned : ∀ outcome ∈ exchange.run steps, ∀ result computed,
    outcome.reply = .otherPublicValueSet result computed →
      (outcome.events.filter fun event => event.level = .warn).length =
        if result.isOk then 0 else 1

variable {σ : Type} [RandomSource σ] {exchange : Exchange}

theorem logs_publicly (hnone : exchange.sessions = []) (steps : List (Step σ)) :
    exchange.LogsPublicly steps := by
  obtain ⟨hbegun, hended⟩ := exchange.reports_run steps
  constructor
  case alike =>
    intro τ _ other others hnone' hmarked hkinds hverdicts
    exact alike_run (outline_eq_of_nil hnone hnone' hmarked) hkinds hverdicts
  case begun => exact hbegun
  case ended => exact hended
  case balance =>
    have hdistinct : exchange.Distinct := by
      rw [Distinct, hnone]
      exact List.nodup_nil
    have hroll : exchange.roll = [] := by
      rw [roll, hnone]
      rfl
    have hbalance := hdistinct.balance_along steps
    rw [hroll] at hbalance
    exact hbalance
  case warned =>
    intro outcome houtcome result computed hreply
    rw [run_eq_along] at houtcome
    obtain ⟨e, s, -, rfl⟩ := exists_of_mem_along houtcome
    exact warnings_of_reply hreply

/-- A session on the 256-bit curve begins with a scalar, is given another one, its
own public value and a peer value that is too short, and is dropped. -/
def rehearsal (drawn replaced : ℕ) (malformed : Octets) : List (Step Script) :=
  [.create "a" 19 .provider (Script.ofOctets (Octets.ofNat 32 drawn) none) none,
    .setPrivateValue "a" (Octets.ofNat 32 replaced),
    .setOtherPublicValue "a" (.publicValueOf "a"),
    .setOtherPublicValue "a" (.octets malformed),
    .drop "a"]

/-- Two rehearsals with different scalars, malformed values and settings log the
same lines. -/
theorem logs_publicly_ecp256 :
    (start .memory Provider.standard).sessions = [] ∧
      (start .memory Provider.standard).LogsPublicly (rehearsal 1 2 [1]) ∧
        List.Forall₂ Outcome.Alike ((start .memory Provider.standard).run (rehearsal 1 2 [1]))
          ((start (.fixed ⟨"charon", false⟩) Provider.standard).run (rehearsal 3 5 [6, 7])) := by
  have hlogs : (start .memory Provider.standard).LogsPublicly (rehearsal 1 2 [1]) :=
    logs_publicly rfl (rehearsal 1 2 [1])
  have hverdicts :
      (start (.fixed ⟨"charon", false⟩) Provider.standard).verdicts (rehearsal 3 5 [6, 7]) =
        (start .memory Provider.standard).verdicts (rehearsal 1 2 [1]) := by
    decide +kernel
  exact ⟨rfl, hlogs, hlogs.alike _ _ rfl rfl rfl hverdicts⟩

end Exchange

end EcpAgreement
