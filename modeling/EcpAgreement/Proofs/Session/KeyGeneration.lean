import EcpAgreement.Proofs.Group.BrainpoolP224
import EcpAgreement.Proofs.Random.Attempts
import EcpAgreement.Proofs.Session.Closure

/-!
# Key generation is total and injective

On an explicit group over a prime whose generator has exactly the declared order,
which need not be prime, the multiples of the generator by the scalars of the
group are finite and all different.  So every scalar has a public value, no two
of them the same one, and every public value is read back as a point.

A session on such a group then begins exactly when a scalar can be drawn, with that
scalar, and takes every private value from one to the order less one.
-/

namespace EcpAgreement

namespace CurveGroup

/-- How key pairs are made, for all scalars, sources and sessions of a group. -/
structure GeneratesKeys (curve : CurveGroup) : Prop where
  exists_publicValue : ∀ s k, curve.scalar s = .ok k →
    ∃ value P, Session.publicValueOf curve k = .ok value ∧ curve.decode value = .ok P
  publicValue_eq_iff : ∀ s t k l, curve.scalar s = .ok k → curve.scalar t = .ok l →
    (Session.publicValueOf curve k = Session.publicValueOf curve l ↔
      k.octets.value = l.octets.value)
  drawKeyPair_error : ∀ {σ : Type} [RandomSource σ] (source : σ) e,
    (Session.drawKeyPair curve source).1 = .error e →
      (∃ cause, (curve.randomScalar source).1 = .error cause) ∧
        ∃ context, e = .randomGeneration context
  create_error : ∀ {σ : Type} [RandomSource σ] (group : DhGroup) (source : σ) e,
    group.curveGroup.value = .ok curve → (Session.create group source).value.1 = .error e →
      (∃ cause, (curve.randomScalar source).1 = .error cause) ∧
        ∃ context, e = .randomGeneration context
  create_ok : ∀ {σ : Type} [RandomSource σ] (group : DhGroup) (source : σ) k,
    group.curveGroup.value = .ok curve → (curve.randomScalar source).1 = .ok k →
      ∃ session, (Session.create group source).value.1 = .ok session ∧ session.privateKey = k
  setPrivateValue_iff : ∀ (session : Session) value, session.curve = curve →
    ((session.setPrivateValue value).outcome = .ok () ↔
      0 < Octets.value value ∧ Octets.value value < curve.order)

end CurveGroup

namespace Session

variable {curve : CurveGroup} {session : Session} {value : Octets}

/-- A private value is taken when it writes a scalar that has a public value. -/
theorem outcome_setPrivateValue_iff (session : Session) (value : Octets) :
    (session.setPrivateValue value).outcome = .ok () ↔
      ∃ k publicValue, session.curve.scalar value = .ok k ∧
        publicValueOf session.curve k = .ok publicValue := by
  cases hscalar : session.curve.scalar value with
  | error e => simp [setPrivateValue_of_unread hscalar]
  | ok k =>
      cases hvalue : publicValueOf session.curve k with
      | error e => simp [setPrivateValue_of_unpublished hscalar hvalue, hvalue]
      | ok publicValue => simp [setPrivateValue_of_published hscalar hvalue, hvalue]

theorem drawKeyPair_of_error {σ : Type} [RandomSource σ] {source : σ} {e : CurveError}
    (h : (curve.randomScalar source).1 = .error e) :
    (drawKeyPair curve source).1 = .error e.toExchange := by
  rw [drawKeyPair]
  split
  · rename_i cause next hdraw
    rw [hdraw] at h
    rw [Except.error.inj h]
  · rename_i k next hdraw
    rw [hdraw] at h
    contradiction

/-- Once there is a scalar, only its public value can fail. -/
theorem drawKeyPair_of_drawn {σ : Type} [RandomSource σ] {source : σ} {k : Scalar}
    (h : (curve.randomScalar source).1 = .ok k) :
    (drawKeyPair curve source).1 = (publicValueOf curve k).map fun value => (k, value) := by
  rw [drawKeyPair]
  split
  · rename_i cause next hdraw
    rw [hdraw] at h
    contradiction
  · rename_i k' next hdraw
    rw [hdraw] at h
    obtain rfl := Except.ok.inj h
    rfl

theorem drawKeyPair_of_create {σ : Type} [RandomSource σ] {group : DhGroup} {source : σ}
    {e : ExchangeError} (hcurve : group.curveGroup.value = .ok curve)
    (h : (create group source).value.1 = .error e) :
    (drawKeyPair curve source).1 = .error e := by
  rw [create_of_curve hcurve] at h
  cases hdraw : (drawKeyPair curve source).1 with
  | error cause =>
      rw [hdraw] at h
      rw [Except.error.inj h]
  | ok keyPair =>
      rw [hdraw] at h
      contradiction

end Session

namespace ExplicitGroup

open Session

section Generated

variable {group : ExplicitGroup} [Fact (CurveGroup.explicit group).modulus.Prime]
  {G : (CurveGroup.explicit group).law.Point} {k l : Scalar}

/-- The multiple of the generator by a scalar in range is finite, so it has a
written form. -/
theorem exists_publicValueOf
    (hG : (CurveGroup.explicit group).generator = (CurveGroup.explicit group).write G)
    (horder : addOrderOf G = (CurveGroup.explicit group).order)
    (hk : (CurveGroup.explicit group).InRange k) :
    ∃ value P, publicValueOf (.explicit group) k = .ok value ∧
      (CurveGroup.explicit group).decode value = .ok P := by
  have hacts := CurveGroup.acts_explicit hG horder
  have hne : k.octets.value • G ≠ 0 := by
    apply nsmul_ne_zero_of_lt_addOrderOf hk.pos.ne'
    rw [horder]
    exact hk.lt_order
  obtain ⟨⟨value⟩, hencode⟩ := CurveGroup.exists_encode_write hne false
  have hvalue : publicValueOf (.explicit group) k = .ok value :=
    publicValueOf_eq_ok_iff.mpr ⟨_, hacts.mulGenerator_eq k hk, hencode⟩
  obtain ⟨P, -, hP⟩ := decode_of_publicValueOf hvalue
  exact ⟨value, P, hvalue, hP⟩

/-- A public value is read back as the multiple, and the multiple tells the
scalar. -/
theorem eq_of_publicValueOf_eq
    (hG : (CurveGroup.explicit group).generator = (CurveGroup.explicit group).write G)
    (horder : addOrderOf G = (CurveGroup.explicit group).order)
    (hk : (CurveGroup.explicit group).InRange k) (hl : (CurveGroup.explicit group).InRange l)
    (h : publicValueOf (.explicit group) k = publicValueOf (.explicit group) l) : k = l := by
  have hprime : Fact group.curve.field.size.Prime :=
    ‹Fact (CurveGroup.explicit group).modulus.Prime›
  have hacts := CurveGroup.acts_explicit hG horder
  obtain ⟨value, P, hvalue, hdecode⟩ := exists_publicValueOf hG horder hk
  obtain ⟨R, hmulk, hR⟩ := decode_of_publicValueOf hvalue
  obtain ⟨S, hmull, hS⟩ := decode_of_publicValueOf (h.symm.trans hvalue)
  have hsame : R = S := Except.ok.inj (hR.symm.trans hS)
  have hwritek := hacts.mulGenerator_eq k hk
  have hwritel := hacts.mulGenerator_eq l hl
  have hwrite : group.curve.write (k.octets.value • G) =
      group.curve.write (l.octets.value • G) := by
    calc group.curve.write (k.octets.value • G)
        = R := Except.ok.inj (hwritek.symm.trans hmulk)
      _ = S := hsame
      _ = group.curve.write (l.octets.value • G) := Except.ok.inj (hmull.symm.trans hwritel)
  have hmultiple : k.octets.value • G = l.octets.value • G := PrimeCurve.write_injective hwrite
  apply hk.eq_of_value_eq hl
  refine nsmul_injOn_Iio_addOrderOf ?_ ?_ hmultiple
  · rw [Set.mem_Iio, horder]
    exact hk.lt_order
  · rw [Set.mem_Iio, horder]
    exact hl.lt_order

theorem drawKeyPair_error
    (hG : (CurveGroup.explicit group).generator = (CurveGroup.explicit group).write G)
    (horder : addOrderOf G = (CurveGroup.explicit group).order) {σ : Type} [RandomSource σ]
    {source : σ} {e : ExchangeError}
    (h : (drawKeyPair (.explicit group) source).1 = .error e) :
    (∃ cause, ((CurveGroup.explicit group).randomScalar source).1 = .error cause) ∧
      ∃ context, e = .randomGeneration context := by
  cases hdraw : ((CurveGroup.explicit group).randomScalar source).1 with
  | error cause =>
      obtain ⟨context, rfl⟩ := CurveGroup.eq_randomGeneration_of_randomScalar hdraw
      rw [drawKeyPair_of_error hdraw] at h
      exact ⟨⟨_, rfl⟩, context, (Except.error.inj h).symm⟩
  | ok k =>
      have hrange : (CurveGroup.explicit group).InRange k :=
        CurveGroup.inRange_of_randomScalarWithin (Prod.ext hdraw rfl)
      obtain ⟨value, P, hvalue, -⟩ := exists_publicValueOf hG horder hrange
      rw [drawKeyPair_of_drawn hdraw, hvalue] at h
      contradiction

/-- Once a scalar is drawn, nothing keeps the session from beginning. -/
theorem exists_create
    (hG : (CurveGroup.explicit group).generator = (CurveGroup.explicit group).write G)
    (horder : addOrderOf G = (CurveGroup.explicit group).order) {σ : Type} [RandomSource σ]
    {dhGroup : DhGroup} {source : σ}
    (hcurve : dhGroup.curveGroup.value = .ok (.explicit group))
    (hdraw : ((CurveGroup.explicit group).randomScalar source).1 = .ok k) :
    ∃ session, (create dhGroup source).value.1 = .ok session ∧ session.privateKey = k := by
  have hrange : (CurveGroup.explicit group).InRange k :=
    CurveGroup.inRange_of_randomScalarWithin (Prod.ext hdraw rfl)
  obtain ⟨value, P, hvalue, -⟩ := exists_publicValueOf hG horder hrange
  refine ⟨begun dhGroup (.explicit group) (k, value), ?_, rfl⟩
  rw [create_of_curve hcurve, drawKeyPair_of_drawn hdraw, hvalue]
  rfl

end Generated

/-- When the generator of an explicit group over a prime has the declared order,
every scalar of the group makes a key pair of its own. -/
theorem generates_keys {group : ExplicitGroup} [Fact (CurveGroup.explicit group).modulus.Prime]
    {G : (CurveGroup.explicit group).law.Point}
    (hG : (CurveGroup.explicit group).generator = (CurveGroup.explicit group).write G)
    (horder : addOrderOf G = (CurveGroup.explicit group).order) :
    (CurveGroup.explicit group).GeneratesKeys := by
  constructor
  case exists_publicValue =>
    intro s k hs
    exact exists_publicValueOf hG horder (CurveGroup.inRange_of_scalar hs)
  case publicValue_eq_iff =>
    intro s t k l hs ht
    have hk := CurveGroup.inRange_of_scalar hs
    have hl := CurveGroup.inRange_of_scalar ht
    constructor
    · intro h
      rw [eq_of_publicValueOf_eq hG horder hk hl h]
    · intro h
      rw [hk.eq_of_value_eq hl h]
  case drawKeyPair_error =>
    intro σ _ source e h
    exact drawKeyPair_error hG horder h
  case create_error =>
    intro σ _ dhGroup source e hcurve h
    exact drawKeyPair_error hG horder (drawKeyPair_of_create hcurve h)
  case create_ok =>
    intro σ _ dhGroup source k hcurve hdraw
    exact exists_create hG horder hcurve hdraw
  case setPrivateValue_iff =>
    intro session value hcurve
    rw [outcome_setPrivateValue_iff, hcurve]
    constructor
    · rintro ⟨k, publicValue, hk, -⟩
      exact CurveGroup.exists_scalar_iff.mp ⟨k, hk⟩
    · intro hvalue
      obtain ⟨k, hk⟩ := CurveGroup.exists_scalar_iff.mpr hvalue
      obtain ⟨publicValue, P, hpublic, -⟩ :=
        exists_publicValueOf hG horder (CurveGroup.inRange_of_scalar hk)
      exact ⟨k, publicValue, hk, hpublic⟩

/-- The generator of brainpoolP224r1 has the declared order. -/
theorem generates_keys_brainpoolP224 :
    ∃ group, DomainParams.brainpoolP224r1.build.value = .ok group ∧
      ∃ (_ : Fact (CurveGroup.explicit group).modulus.Prime)
        (G : (CurveGroup.explicit group).law.Point),
        (CurveGroup.explicit group).generator = (CurveGroup.explicit group).write G ∧
          addOrderOf G = (CurveGroup.explicit group).order ∧
          (CurveGroup.explicit group).GeneratesKeys := by
  obtain ⟨group, hgroup⟩ := NamedCurve.exists_build .brainpoolP224r1
  have hprime := BrainpoolP224.hasPrimeOrder hgroup
  have hmodulus : Fact (CurveGroup.explicit group).modulus.Prime := ⟨hprime.modulus_prime⟩
  obtain ⟨G, hG, horder⟩ := hprime.exists_generator
  exact ⟨group, hgroup, hmodulus, G, hG, horder, generates_keys hG horder⟩

end ExplicitGroup

end EcpAgreement
