import EcpAgreement.Proofs.Group.BrainpoolP224
import EcpAgreement.Proofs.Group.WrittenForms
import EcpAgreement.Proofs.Session.Reachable

/-!
# Acceptance of peer values

On an explicit group of prime order a peer value is accepted exactly when it is
two field elements long and its halves write a solution of the curve equation.
Such a value is a finite point of the curve, and a scalar in range takes no
finite point to infinity, so that after the value has been read nothing is left
that could fail.  The answer is therefore the same in every reachable session,
whatever its scalar and its settings (`outcome_eq_verdict`).
-/

namespace EcpAgreement

namespace CurveGroup

variable {group : CurveGroup} {value : Octets}

/-- What is answered to a peer value, told without points and scalars. -/
def verdict (group : CurveGroup) (value : Octets) : Except ExchangeError Unit :=
  if value.length ≠ 2 * group.fieldElementLength then
    .error (.malformedInput "public value" "unexpected length")
  else if group.HoldsSolution value then
    .ok ()
  else
    .error (.invalidPoint "ECDH public value")

/-- An answer to a peer value that depends on the value alone. -/
structure Judges (group : CurveGroup) (value : Octets)
    (outcome : Except ExchangeError Unit) : Prop where
  malformed_iff : outcome = .error (.malformedInput "public value" "unexpected length") ↔
    value.length ≠ 2 * group.fieldElementLength
  invalid_iff : outcome = .error (.invalidPoint "ECDH public value") ↔
    value.length = 2 * group.fieldElementLength ∧ ¬group.HoldsSolution value
  accepted_iff : outcome = .ok () ↔
    value.length = 2 * group.fieldElementLength ∧ group.HoldsSolution value
  ne_arithmeticFailure : ∀ details, outcome ≠ .error (.arithmeticFailure details)

theorem judges_verdict (group : CurveGroup) (value : Octets) :
    group.Judges value (group.verdict value) := by
  by_cases hlength : value.length = 2 * group.fieldElementLength
  · by_cases hsolution : group.HoldsSolution value
    · constructor <;> simp [verdict, hlength, hsolution]
    · constructor <;> simp [verdict, hlength, hsolution]
  · constructor <;> simp [verdict, hlength]

/-- Two strings of the right length, of which one holds a solution. -/
example : (explicit ExplicitGroup.sevenPoints).verdict [0, 1] = .ok () ∧
    (explicit ExplicitGroup.sevenPoints).verdict [0, 2] =
      .error (.invalidPoint "ECDH public value") := by
  decide

end CurveGroup

namespace Session

variable {group : ExplicitGroup} {session : Session} {settings : Lookup} {value : Octets}

/-- A scalar in range derives a secret from every finite point. -/
theorem exists_deriveSecret [Fact (CurveGroup.explicit group).modulus.Prime]
    (h : (CurveGroup.explicit group).HasPrimeOrder) (hcurve : session.curve = .explicit group)
    (hpos : 0 < session.privateKey.octets.value)
    (hlt : session.privateKey.octets.value < group.order.value) (settings : Lookup)
    {A : (CurveGroup.explicit group).law.Point} (hA : A ≠ 0) :
    ∃ secret, session.deriveSecret settings ((CurveGroup.explicit group).write A) =
        .ok secret ∧
      (CurveGroup.explicit group).encode
        ((CurveGroup.explicit group).write (session.privateKey.octets.value • A))
        (settings session.formatKey true) = .ok secret := by
  obtain ⟨secret, hencode⟩ := CurveGroup.exists_encode_write
    (h.nsmul_ne_zero hpos hlt hA) (settings session.formatKey true)
  refine ⟨secret, ?_, hencode⟩
  rw [deriveSecret_eq_ok_iff, hcurve]
  exact ⟨_, h.mul_write A session.privateKey, hencode⟩

/-- What a call answers is decided by the peer value. -/
theorem outcome_eq_verdict (h : (CurveGroup.explicit group).HasPrimeOrder)
    (hsession : session.Reachable (.explicit group)) (settings : Lookup) (value : Octets) :
    (session.setOtherPublicValue settings value).outcome =
      (CurveGroup.explicit group).verdict value := by
  have hprime : Fact (CurveGroup.explicit group).modulus.Prime := ⟨h.modulus_prime⟩
  have hcoherent : (CurveGroup.explicit group).Coherent := trivial
  by_cases hlength : value.length = 2 * (CurveGroup.explicit group).fieldElementLength
  · have hread := hsession.readPeer_of_length hlength
    by_cases hsolution : (CurveGroup.explicit group).HoldsSolution value
    · obtain ⟨A, hA, hdecode⟩ := hcoherent.exists_write_of_holdsSolution hlength hsolution
      have hrange := hsession.inRange
      obtain ⟨secret, hderive, -⟩ := exists_deriveSecret h hsession.curve_eq hrange.pos
        hrange.lt_order settings hA
      rw [setOtherPublicValue_of_derived (hread.trans hdecode) hderive, CurveGroup.verdict,
        if_neg (not_not.mpr hlength), if_pos hsolution]
    · rw [hcoherent.decode_of_not_holdsSolution hlength hsolution] at hread
      rw [setOtherPublicValue_of_unread hread, CurveGroup.verdict, if_neg (not_not.mpr hlength),
        if_neg hsolution]
  · rw [setOtherPublicValue_of_unread (hsession.readPeer_of_length_ne hlength),
      CurveGroup.verdict, if_pos hlength]

/-- On a group of prime order every reachable session judges a peer value by its
length and the curve equation, and all of them judge alike. -/
theorem accepts_exactly {group : ExplicitGroup} (h : (CurveGroup.explicit group).HasPrimeOrder)
    {session : Session} (hsession : session.Reachable (.explicit group)) (settings : Lookup)
    (value : Octets) :
    (CurveGroup.explicit group).Judges value
        (session.setOtherPublicValue settings value).outcome ∧
      ∀ other : Session, other.Reachable (.explicit group) → ∀ settings' : Lookup,
        (other.setOtherPublicValue settings' value).outcome =
          (session.setOtherPublicValue settings value).outcome := by
  rw [outcome_eq_verdict h hsession settings value]
  constructor
  · exact CurveGroup.judges_verdict (.explicit group) value
  · intro other hother settings'
    exact outcome_eq_verdict h hother settings' value

/-- A session on brainpoolP224r1 whose scalar is one, after it was given its own
public value and then another scalar. -/
theorem accepts_exactly_ecp224Bp :
    ∃ created group,
      (create DhGroup.ecp224Bp (Script.ofOctets (Octets.ofNat 28 1) none)).value.1 =
        .ok created ∧
      (CurveGroup.explicit group).HasPrimeOrder ∧
      (Party.after ⟨created, fun _ default => default⟩
        [.setOtherPublicValue created.publicValue, .setPrivateValue [2]]).session.Reachable
          (.explicit group) ∧
      (CurveGroup.explicit group).Judges created.publicValue
        ((Party.after ⟨created, fun _ default => default⟩
          [.setOtherPublicValue created.publicValue,
            .setPrivateValue [2]]).session.setOtherPublicValue (fun _ _ => false)
              created.publicValue).outcome := by
  have hok : (create DhGroup.ecp224Bp
      (Script.ofOctets (Octets.ofNat 28 1) none)).value.1.isOk = true := by
    decide +kernel
  obtain ⟨created, hcreated⟩ := exists_of_isOk hok
  obtain ⟨group, hgroup⟩ := NamedCurve.exists_build .brainpoolP224r1
  have hprime := BrainpoolP224.hasPrimeOrder hgroup
  have hreachable := reachable_of_create hcreated
  rw [BrainpoolP224.curve_of_create hcreated hgroup] at hreachable
  have hparty : (Party.mk created fun _ default => default).session.Reachable
      (.explicit group) := hreachable
  have hafter := hparty.after [.setOtherPublicValue created.publicValue, .setPrivateValue [2]]
  obtain ⟨hjudges, -⟩ := accepts_exactly hprime hafter (fun _ _ => false) created.publicValue
  exact ⟨created, group, hcreated, hprime, hafter, hjudges⟩

end Session

end EcpAgreement
