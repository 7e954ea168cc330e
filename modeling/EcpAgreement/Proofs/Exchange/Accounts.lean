import EcpAgreement.Proofs.Exchange.Effects

/-!
# Accounts of sessions

A session begins at a step that creates it, and ends at the step that drops it or
gives its name to another.  At every step the log has one line for the session
that begins, one for the session that ends, and none where there is no such
session (`Effect.reports`).

Names are held by one session at a time, so along a run the sessions that began
are those that ended and those that are left (`balance_along`).
-/

namespace EcpAgreement

/-- The group of the session that an event reports the beginning of. -/
def LogEvent.begun? : LogEvent → Option DhGroup
  | .sessionCreated group _ => some group
  | _ => none

/-- The group of the session that an event reports the end of. -/
def LogEvent.ended? : LogEvent → Option DhGroup
  | .sessionDestroyed group => some group
  | _ => none

theorem DomainParams.reports_build (params : DomainParams) :
    params.build.events.filterMap LogEvent.begun? = [] ∧
      params.build.events.filterMap LogEvent.ended? = [] := by
  rw [build]
  split
  · exact ⟨rfl, rfl⟩
  · split
    · exact ⟨rfl, rfl⟩
    · split
      · exact ⟨rfl, rfl⟩
      · exact ⟨rfl, rfl⟩

/-- Providing a curve group reports nothing of sessions. -/
theorem DhGroup.reports_curveGroupOfId (id : UInt16) :
    (DhGroup.curveGroupOfId id).events.filterMap LogEvent.begun? = [] ∧
      (DhGroup.curveGroupOfId id).events.filterMap LogEvent.ended? = [] := by
  rw [curveGroupOfId]
  split
  · rw [curveGroup]
    split
    · exact ⟨rfl, rfl⟩
    · exact DomainParams.reports_build _
    · exact ⟨rfl, rfl⟩
  · exact ⟨rfl, rfl⟩

theorem MemorySettings.reports_perform (store : MemorySettings)
    (operation : MemorySettings.Operation) :
    (store.perform operation).events.filterMap LogEvent.begun? = [] ∧
      (store.perform operation).events.filterMap LogEvent.ended? = [] := by
  have hrecovery : store.recovery.filterMap LogEvent.begun? = [] ∧
      store.recovery.filterMap LogEvent.ended? = [] := by
    rw [recovery]
    split
    · exact ⟨rfl, rfl⟩
    · exact ⟨rfl, rfl⟩
  cases operation with
  | set | remove | fail => exact hrecovery
  | get => exact ⟨rfl, rfl⟩

theorem Verdict.reports_warnings (verdict : Verdict) :
    verdict.warnings.filterMap LogEvent.begun? = [] ∧
      verdict.warnings.filterMap LogEvent.ended? = [] := by
  cases verdict <;> exact ⟨rfl, rfl⟩

theorem Verdict.length_warnings {verdict : Verdict} (h : verdict ≠ .absent) :
    (verdict.warnings.filter fun event => event.level = .warn).length =
      if verdict == .done then 0 else 1 := by
  cases verdict with
  | absent => contradiction
  | done | refused | underived => rfl

namespace Exchange

variable {σ : Type} {exchange next : Exchange} {step : Step σ} {verdict : Verdict}
  {events : List LogEvent}

/-! ## Sessions that begin and end -/

/-- The name and the group of a session. -/
def listed? (exchange : Exchange) (name : String) : Option (String × DhGroup) :=
  (exchange.session? name).map fun session => (name, session.group)

/-- The names and the groups of all sessions. -/
def roll (exchange : Exchange) : List (String × DhGroup) :=
  exchange.sessions.map fun entry => (entry.1, entry.2.group)

/-- The session that a step begins, with its verdict. -/
def Step.begun? : Step σ → Verdict → Option (String × DhGroup)
  | .create name id _ _ _, .done => (DhGroup.ofId id).toOption.map fun group => (name, group)
  | _, _ => none

/-- The session that a step ends, with its verdict. -/
def ended? (exchange : Exchange) : Step σ → Verdict → Option (String × DhGroup)
  | .create name _ _ _ _, .done => exchange.listed? name
  | .drop name, _ => exchange.listed? name
  | _, _ => none

theorem reports_farewell (exchange : Exchange) (name : String) :
    (exchange.farewell name).filterMap LogEvent.begun? = [] ∧
      (exchange.farewell name).filterMap LogEvent.ended? =
        ((exchange.listed? name).map Prod.snd).toList := by
  rw [farewell, listed?]
  cases exchange.session? name with
  | none => exact ⟨rfl, rfl⟩
  | some session => exact ⟨rfl, rfl⟩

/-- A step reports the session that it begins and the one that it ends, and no
other. -/
theorem Effect.reports (h : exchange.Effect step verdict next events) :
    events.filterMap LogEvent.begun? = ((step.begun? verdict).map Prod.snd).toList ∧
      events.filterMap LogEvent.ended? =
        ((exchange.ended? step verdict).map Prod.snd).toList := by
  cases h with
  | @begun name id _ _ _ session hid hcurve hsecret =>
      obtain ⟨hbegun, hended⟩ := DhGroup.reports_curveGroupOfId id
      obtain ⟨hbegun', hended'⟩ := exchange.reports_farewell name
      rw [List.filterMap_append, List.filterMap_append, hbegun, hended]
      rw [Step.begun?, hid, ended?, ← hended']
      refine ⟨?_, rfl⟩
      calc [] ++ (LogEvent.sessionCreated session.group session.curve.name ::
              exchange.farewell name).filterMap LogEvent.begun?
          = session.group :: (exchange.farewell name).filterMap LogEvent.begun? := rfl
        _ = [session.group] := by rw [hbegun']
  | notBegun name id => exact DhGroup.reports_curveGroupOfId id
  | privateValue | noPrivateValue | noPeerValue => exact ⟨rfl, rfl⟩
  | peerValue => exact verdict.reports_warnings
  | @dropped name session hsession =>
      rw [ended?, listed?, hsession]
      exact ⟨rfl, rfl⟩
  | @nothingDropped name hsession =>
      rw [ended?, listed?, hsession]
      exact ⟨rfl, rfl⟩
  | settings operation => exact exchange.memory.reports_perform operation
  | asked hkind =>
      cases step with
      | create | setPrivateValue | setOtherPublicValue | drop => contradiction
      | publicValue | sharedSecret | inspect | compare | settings => exact ⟨rfl, rfl⟩

/-! ## The balance -/

/-- Every name is held by one session. -/
def Distinct (exchange : Exchange) : Prop :=
  (exchange.sessions.map Prod.fst).Nodup

theorem Distinct.erase (h : exchange.Distinct) (name : String) :
    (exchange.erase name).Distinct :=
  h.sublist (List.filter_sublist.map Prod.fst)

theorem Distinct.put (h : exchange.Distinct) (name : String) (session : Session) :
    (exchange.put name session).Distinct := by
  refine List.nodup_cons.mpr ⟨?_, h.erase name⟩
  intro hmem
  obtain ⟨entry, hentry, hname⟩ := List.mem_map.mp hmem
  have hne := (List.mem_filter.mp hentry).2
  exact bne_iff_ne.mp hne hname

theorem Distinct.effect (h : exchange.Distinct)
    (heffect : exchange.Effect step verdict next events) : next.Distinct := by
  cases heffect with
  | begun | privateValue | peerValue => exact h.put _ _
  | dropped => exact h.erase _
  | notBegun | noPrivateValue | noPeerValue | nothingDropped | settings | asked => exact h

/-- Erasing a name takes its session off the roll and no other. -/
theorem Distinct.roll_erase (h : exchange.Distinct) (name : String) :
    ((exchange.erase name).roll ++ (exchange.listed? name).toList).Perm exchange.roll := by
  obtain ⟨source, memory, provider, sessions⟩ := exchange
  induction sessions with
  | nil => exact .nil
  | cons entry rest ih =>
      obtain ⟨held, session⟩ := entry
      obtain ⟨hnotin, hrest⟩ := List.nodup_cons.mp h
      by_cases hheld : held = name
      · subst hheld
        have hfilter : ((held, session) :: rest).filter (fun entry => entry.1 != held) = rest := by
          rw [List.filter_cons_of_neg (by simp)]
          refine List.filter_eq_self.mpr fun entry hentry => bne_iff_ne.mpr ?_
          intro hsame
          exact hnotin (List.mem_map.mpr ⟨entry, hentry, hsame⟩)
        have hlookup : ((held, session) :: rest).lookup held = some session :=
          List.lookup_cons_self
        simp only [roll, Exchange.erase, listed?, session?, hfilter, hlookup]
        exact List.perm_append_singleton _ _
      · have hfilter : ((held, session) :: rest).filter (fun entry => entry.1 != name) =
            (held, session) :: rest.filter fun entry => entry.1 != name :=
          List.filter_cons_of_pos (bne_iff_ne.mpr hheld)
        have hlookup : ((held, session) :: rest).lookup name = rest.lookup name := by
          rw [List.lookup_cons, beq_eq_false_iff_ne.mpr (Ne.symm hheld)]
        simp only [roll, Exchange.erase, listed?, session?, hfilter, hlookup, List.map_cons]
        exact (ih hrest).cons _

/-- Giving a name to a session takes the session that had it off the roll. -/
theorem Distinct.roll_put (h : exchange.Distinct) (name : String) (session : Session) :
    ((exchange.put name session).roll ++ (exchange.listed? name).toList).Perm
      ((name, session.group) :: exchange.roll) :=
  (h.roll_erase name).cons (name, session.group)

theorem Distinct.roll_put_same (h : exchange.Distinct) {name : String} {held session : Session}
    (hheld : exchange.session? name = some held) (hgroup : session.group = held.group) :
    (exchange.put name session).roll.Perm exchange.roll := by
  have hentry : exchange.listed? name = some (name, session.group) := by
    rw [listed?, hheld, hgroup]
    rfl
  have hperm := h.roll_put name session
  rw [hentry] at hperm
  exact (List.perm_cons _).mp ((List.perm_append_singleton _ _).symm.trans hperm)

theorem balance_of_neither (hbegun : step.begun? verdict = none)
    (hended : exchange.ended? step verdict = none) (hroll : next.roll.Perm exchange.roll) :
    (next.roll ++ (exchange.ended? step verdict).toList).Perm
      ((step.begun? verdict).toList ++ exchange.roll) := by
  rw [hbegun, hended, Option.toList_none, List.append_nil]
  exact hroll

/-- The sessions before a step and the one that it begins are the one that it
ends and the sessions afterwards. -/
theorem Distinct.balance_effect (h : exchange.Distinct)
    (heffect : exchange.Effect step verdict next events) :
    (next.roll ++ (exchange.ended? step verdict).toList).Perm
      ((step.begun? verdict).toList ++ exchange.roll) := by
  cases heffect with
  | @begun name id _ _ _ session hid hcurve hsecret =>
      rw [Step.begun?, hid]
      exact h.roll_put name session
  | privateValue hheld hview | peerValue hheld _ hview =>
      exact balance_of_neither rfl rfl (h.roll_put_same hheld (congrArg View.group hview))
  | @dropped name => exact h.roll_erase name
  | nothingDropped hnone =>
      exact balance_of_neither rfl (congrArg (Option.map _) hnone) (.refl _)
  | notBegun | noPrivateValue | noPeerValue | settings =>
      exact balance_of_neither rfl rfl (.refl _)
  | asked hkind =>
      cases step with
      | create | setPrivateValue | setOtherPublicValue | drop => contradiction
      | publicValue | sharedSecret | inspect | compare | settings =>
          exact balance_of_neither rfl rfl (.refl _)

theorem filterMap_id_cons {α : Type} (a? : Option α) (rest : List (Option α)) :
    (a? :: rest).filterMap id = a?.toList ++ rest.filterMap id := by
  cases a? with
  | none => rfl
  | some a => rfl

section Runs

open scoped List

variable [RandomSource σ]

/-- The session that each step of a run begins. -/
def begunAlong (exchange : Exchange) (steps : List (Step σ)) : List (Option (String × DhGroup)) :=
  exchange.along (fun e s => s.begun? (e.verdict s)) steps

/-- The session that each step of a run ends. -/
def endedAlong (exchange : Exchange) (steps : List (Step σ)) : List (Option (String × DhGroup)) :=
  exchange.along (fun e s => e.ended? s (e.verdict s)) steps

/-- At each step the log reports the session that begins and the one that ends. -/
theorem reports_run (exchange : Exchange) (steps : List (Step σ)) :
    (exchange.run steps).map (fun outcome => outcome.events.filterMap LogEvent.begun?) =
        (exchange.begunAlong steps).map (fun pair? => (pair?.map Prod.snd).toList) ∧
      (exchange.run steps).map (fun outcome => outcome.events.filterMap LogEvent.ended?) =
        (exchange.endedAlong steps).map (fun pair? => (pair?.map Prod.snd).toList) := by
  rw [run_eq_along, begunAlong, endedAlong, map_along, map_along, map_along, map_along]
  constructor
  · congr
    funext e s
    exact (e.effect_step s).reports.1
  · congr
    funext e s
    exact (e.effect_step s).reports.2

/-- Along a run, the sessions that were there and those that began are those that
ended and those that are left. -/
theorem Distinct.balance_along (h : exchange.Distinct) (steps : List (Step σ)) :
    (exchange.roll ++ (exchange.begunAlong steps).filterMap id).Perm
      ((exchange.endedAlong steps).filterMap id ++ (exchange.after steps).roll) := by
  induction steps generalizing exchange with
  | nil => exact (List.append_nil _).symm ▸ .refl _
  | cons first rest ih =>
      have heffect := exchange.effect_step first
      have hstep := h.balance_effect heffect
      have hrest := ih (h.effect heffect)
      rw [begunAlong, endedAlong, along, along, filterMap_id_cons, filterMap_id_cons]
      calc exchange.roll ++ ((first.begun? (exchange.verdict first)).toList ++ _)
          = (exchange.roll ++ (first.begun? (exchange.verdict first)).toList) ++ _ :=
            (List.append_assoc ..).symm
        _ ~ ((exchange.step first).exchange.roll ++
              (exchange.ended? first (exchange.verdict first)).toList) ++ _ :=
            (List.perm_append_comm.trans hstep.symm).append_right _
        _ ~ ((exchange.ended? first (exchange.verdict first)).toList ++
              (exchange.step first).exchange.roll) ++ _ :=
            List.perm_append_comm.append_right _
        _ = (exchange.ended? first (exchange.verdict first)).toList ++
              ((exchange.step first).exchange.roll ++ _) := List.append_assoc ..
        _ ~ (exchange.ended? first (exchange.verdict first)).toList ++ (_ ++ _) :=
            hrest.append_left _
        _ = _ := (List.append_assoc ..).symm

/-- A peer value that fails is reported once, and one that succeeds is not. -/
theorem warnings_of_reply {exchange : Exchange} {step : Step σ}
    {result : Except ExchangeError Unit} {computed : Bool}
    (h : (exchange.step step).reply = .otherPublicValueSet result computed) :
    ((exchange.step step).events.filter fun event => event.level = .warn).length =
      if result.isOk then 0 else 1 := by
  cases step with
  | setOtherPublicValue name value =>
      simp only [Exchange.step, setOtherPublicValue, perform] at h ⊢
      cases hpeer : exchange.resolvePeer value with
      | error missing =>
          rw [hpeer] at h
          contradiction
      | ok octets =>
          cases hsession : exchange.session? name with
          | none =>
              simp only [hpeer, hsession] at h
              contradiction
          | some session =>
              obtain ⟨hevents, -, hok⟩ :=
                session.setOtherPublicValue_shows exchange.lookup octets
              simp only [hpeer, hsession, Reply.otherPublicValueSet.injEq] at h ⊢
              rw [← h.1, hok, hevents]
              exact Verdict.length_warnings (session.peerVerdict_ne_absent _ _)
  | create name id route random scope? =>
      simp only [Exchange.step, create] at h
      split at h
      · contradiction
      · split at h
        · contradiction
        · contradiction
  | setPrivateValue name value =>
      simp only [Exchange.step, perform] at h
      split at h
      · contradiction
      · contradiction
  | publicValue name | sharedSecret name | inspect name | drop name =>
      simp only [Exchange.step, ask, drop] at h
      split at h
      · contradiction
      · contradiction
  | compare name other =>
      simp only [Exchange.step, compare] at h
      split at h
      · contradiction
      · contradiction
      · contradiction
  | settings operation => contradiction

end Runs

end Exchange

end EcpAgreement
