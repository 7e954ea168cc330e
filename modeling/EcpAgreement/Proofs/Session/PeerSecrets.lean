import EcpAgreement.Proofs.Session.Acceptance
import EcpAgreement.Proofs.Session.Closure

/-!
# The secret determines the peer

On an explicit group of prime order one scalar derives different secrets from
different peer values, as long as both coordinates are written.  The first
coordinate alone leaves two values, which are opposite.  Both follow from what
written forms tell of points, since multiplying by a scalar in range is a
bijection that keeps opposite points opposite.
-/

namespace EcpAgreement.Session

/-- The secrets that one scalar derives from two accepted values are equal only
where the values are, and in the first coordinate also where the values are
opposite. -/
theorem secret_determines_peer {group : ExplicitGroup}
    (h : (CurveGroup.explicit group).HasPrimeOrder) {session : Session}
    (hcurve : session.curve = .explicit group)
    (hpos : 0 < session.privateKey.octets.value)
    (hlt : session.privateKey.octets.value < group.order.value) {value value' : Octets}
    {P P' : Point} (hP : (CurveGroup.explicit group).decode value = .ok P)
    (hP' : (CurveGroup.explicit group).decode value' = .ok P') (settings settings' : Lookup) :
    ∃ secret secret', session.deriveSecret settings P = .ok secret ∧
      session.deriveSecret settings' P' = .ok secret' ∧
      (settings session.formatKey true = false → settings' session.formatKey true = false →
        (secret = secret' ↔ value = value')) ∧
      (settings session.formatKey true = true → settings' session.formatKey true = true →
        (secret = secret' ↔
          value' = value ∨ value' = (CurveGroup.explicit group).opposite value)) := by
  have hprime : Fact (CurveGroup.explicit group).modulus.Prime := ⟨h.modulus_prime⟩
  have hcoherent : (CurveGroup.explicit group).Coherent := trivial
  obtain ⟨A, hA, rfl⟩ := hcoherent.exists_write_of_decode hP
  obtain ⟨B, hB, rfl⟩ := hcoherent.exists_write_of_decode hP'
  obtain ⟨secret, hderive, hencode⟩ := exists_deriveSecret h hcurve hpos hlt settings hA
  obtain ⟨secret', hderive', hencode'⟩ := exists_deriveSecret h hcurve hpos hlt settings' hB
  refine ⟨secret, secret', hderive, hderive', ?_, ?_⟩
  · intro hfull hfull'
    rw [hfull] at hencode
    rw [hfull'] at hencode'
    rw [hcoherent.encode_eq_iff hencode hencode', h.nsmul_inj hpos hlt,
      hcoherent.decode_eq_iff hP hP']
  · intro hfirst hfirst'
    rw [hfirst] at hencode
    rw [hfirst'] at hencode'
    have hopposite := hcoherent.decode_opposite (h.odd_addOrderOf A) hP
    rw [hcoherent.encode_first_eq_iff hencode hencode', ← neg_nsmul, h.nsmul_inj hpos hlt,
      h.nsmul_inj hpos hlt, hcoherent.decode_eq_iff hP' hP,
      hcoherent.decode_eq_iff hP' hopposite, eq_comm (a := A) (b := B),
      eq_comm (a := A) (b := -B), neg_eq_iff_eq_neg]

/-- The scalar one on brainpoolP224r1, with its own public value and that of the
scalar two. -/
theorem secret_determines_peer_ecp224Bp :
    ∃ a b group P Q,
      (create DhGroup.ecp224Bp (Script.ofOctets (Octets.ofNat 28 1) none)).value.1 = .ok a ∧
      (create DhGroup.ecp224Bp (Script.ofOctets (Octets.ofNat 28 2) none)).value.1 = .ok b ∧
      (CurveGroup.explicit group).HasPrimeOrder ∧ a.curve = .explicit group ∧
      0 < a.privateKey.octets.value ∧ a.privateKey.octets.value < group.order.value ∧
      (CurveGroup.explicit group).decode a.publicValue = .ok P ∧
      (CurveGroup.explicit group).decode b.publicValue = .ok Q ∧
      ∃ secret secret', a.deriveSecret (fun _ _ => true) P = .ok secret ∧
        a.deriveSecret (fun _ _ => true) Q = .ok secret' ∧
        (secret = secret' ↔ b.publicValue = a.publicValue ∨
          b.publicValue = (CurveGroup.explicit group).opposite a.publicValue) := by
  have hokA : (create DhGroup.ecp224Bp
      (Script.ofOctets (Octets.ofNat 28 1) none)).value.1.isOk = true := by
    decide +kernel
  have hokB : (create DhGroup.ecp224Bp
      (Script.ofOctets (Octets.ofNat 28 2) none)).value.1.isOk = true := by
    decide +kernel
  obtain ⟨a, ha⟩ := exists_of_isOk hokA
  obtain ⟨b, hb⟩ := exists_of_isOk hokB
  obtain ⟨group, hgroup⟩ := NamedCurve.exists_build .brainpoolP224r1
  have hprime := BrainpoolP224.hasPrimeOrder hgroup
  have hfreshA := fresh_of_create ha
  have hfreshB := fresh_of_create hb
  have hcurveA := BrainpoolP224.curve_of_create ha hgroup
  have hcurveB := BrainpoolP224.curve_of_create hb hgroup
  have hvalueA := hfreshA.keyed.publicValue_eq
  have hvalueB := hfreshB.keyed.publicValue_eq
  have hrange := hfreshA.keyed.inRange
  rw [hcurveA] at hvalueA hrange
  rw [hcurveB] at hvalueB
  obtain ⟨P, -, hP⟩ := ExplicitGroup.decode_of_publicValueOf hvalueA
  obtain ⟨Q, -, hQ⟩ := ExplicitGroup.decode_of_publicValueOf hvalueB
  obtain ⟨secret, secret', hsecret, hsecret', -, hfirst⟩ := secret_determines_peer hprime hcurveA
    hrange.pos hrange.lt_order hP hQ (fun _ _ => true) (fun _ _ => true)
  exact ⟨a, b, group, P, Q, ha, hb, hprime, hcurveA, hrange.pos, hrange.lt_order, hP, hQ,
    secret, secret', hsecret, hsecret', hfirst rfl rfl⟩

end EcpAgreement.Session
