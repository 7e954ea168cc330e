import EcpAgreement.Group.Construction
import EcpAgreement.Proofs.Field.PrimeCertificate
import EcpAgreement.Proofs.Group.PrimeOrder

/-!
# The group of brainpoolP224r1 has prime order

The modulus and the order of the curve brainpoolP224r1 are prime, its cubic has
no root, and the order takes its generator to infinity.
-/

namespace EcpAgreement.BrainpoolP224

/-- Certificates for the order and the modulus, and for every prime that one of
them rests on. -/
def certificates : List PrimeCertificate :=
  [ ⟨2, 1, []⟩,
    ⟨3, 2, [2]⟩,
    ⟨5, 2, [2]⟩,
    ⟨7, 3, [2, 3]⟩,
    ⟨11, 2, [2, 5]⟩,
    ⟨13, 2, [2, 3]⟩,
    ⟨17, 3, [2]⟩,
    ⟨19, 2, [2, 3]⟩,
    ⟨23, 5, [2, 11]⟩,
    ⟨29, 2, [2, 7]⟩,
    ⟨31, 3, [2, 3, 5]⟩,
    ⟨37, 2, [2, 3]⟩,
    ⟨43, 3, [2, 3, 7]⟩,
    ⟨53, 2, [2, 13]⟩,
    ⟨61, 2, [2, 3, 5]⟩,
    ⟨67, 2, [2, 3, 11]⟩,
    ⟨73, 5, [2, 3]⟩,
    ⟨89, 3, [2, 11]⟩,
    ⟨103, 5, [2, 3, 17]⟩,
    ⟨107, 2, [2, 53]⟩,
    ⟨109, 6, [2, 3]⟩,
    ⟨113, 3, [2, 7]⟩,
    ⟨131, 2, [2, 5, 13]⟩,
    ⟨137, 3, [2, 17]⟩,
    ⟨139, 2, [2, 3, 23]⟩,
    ⟨173, 2, [2, 43]⟩,
    ⟨181, 2, [2, 3, 5]⟩,
    ⟨193, 5, [2, 3]⟩,
    ⟨211, 2, [2, 3, 5, 7]⟩,
    ⟨239, 7, [2, 7, 17]⟩,
    ⟨241, 7, [2, 3, 5]⟩,
    ⟨257, 3, [2]⟩,
    ⟨293, 2, [2, 73]⟩,
    ⟨311, 17, [2, 5, 31]⟩,
    ⟨449, 3, [2, 7]⟩,
    ⟨461, 2, [2, 5, 23]⟩,
    ⟨773, 2, [2, 193]⟩,
    ⟨1091, 2, [2, 5, 109]⟩,
    ⟨1409, 3, [2, 11]⟩,
    ⟨1427, 2, [2, 23, 31]⟩,
    ⟨1933, 5, [2, 3, 7, 23]⟩,
    ⟨2713, 5, [2, 3, 113]⟩,
    ⟨2887, 5, [2, 3, 13, 37]⟩,
    ⟨3257, 3, [2, 11, 37]⟩,
    ⟨3877, 2, [2, 3, 17, 19]⟩,
    ⟨5431, 3, [2, 3, 5, 181]⟩,
    ⟨6553, 10, [2, 3, 7, 13]⟩,
    ⟨9631, 3, [2, 3, 5, 107]⟩,
    ⟨14081, 3, [2, 5, 11]⟩,
    ⟨22367, 5, [2, 53, 211]⟩,
    ⟨114799, 3, [2, 3, 19, 53]⟩,
    ⟨173359, 3, [2, 3, 9631]⟩,
    ⟨236713, 5, [2, 3, 7, 1409]⟩,
    ⟨324661, 2, [2, 3, 5, 7, 773]⟩,
    ⟨440717, 2, [2, 239, 461]⟩,
    ⟨2203433, 3, [2, 7, 11, 73]⟩,
    ⟨37901663, 5, [2, 43, 440717]⟩,
    ⟨1942793987, 2, [2, 7, 137, 311, 3257]⟩,
    ⟨9478738254589, 2, [2, 3, 31, 103, 1427, 173359]⟩,
    ⟨73831150867459, 2, [2, 3, 324661, 37901663]⟩,
    ⟨273564821309471, 23, [2, 5, 14081, 1942793987]⟩,
    ⟨1322801685354439, 3, [2, 3, 139, 211, 449, 1933, 2887]⟩,
    ⟨18114915337470550679, 11, [2, 113, 293, 273564821309471]⟩,
    ⟨1685556642320959799579593, 7, [2, 3, 3877, 18114915337470550679]⟩,
    ⟨806539990497420485986591867, 2, [2, 3, 67, 114799, 236713, 73831150867459]⟩,
    ⟨8065399904974204859865918671, 13, [2, 5, 806539990497420485986591867]⟩,
    ⟨983978788406852992903642077863, 5, [2, 61, 8065399904974204859865918671]⟩,
    ⟨13036179062997789943375385313119191, 15, [2, 3, 5, 13, 2203433, 1685556642320959799579593]⟩,
    ⟨1161088527226980043552900118830014153077, 2,
      [2, 11, 109, 22367, 983978788406852992903642077863]⟩,
    ⟨1990826783253337021526517590177438885463180347771, 2,
      [2, 5, 131, 241, 5431, 1161088527226980043552900118830014153077]⟩,
    ⟨21889810146873172242343485545193568027521720946368744885738498041, 3,
      [2, 5, 29, 9478738254589, 1990826783253337021526517590177438885463180347771]⟩,
    ⟨22721622932454352787552537995910923612567546342330757191396560966559, 3,
      [2, 3, 173, 21889810146873172242343485545193568027521720946368744885738498041]⟩,
    ⟨22721622932454352787552537995910928073340732145944992304435472941311, 3,
      [2, 3, 5, 11, 89, 257, 1091, 2713, 6553, 1322801685354439,
        13036179062997789943375385313119191]⟩ ]

theorem checked : PrimeCertificate.checkAll [] certificates = true := by
  decide +kernel

theorem modulus_prime : DomainParams.brainpoolP224r1.p.value.Prime := by
  apply PrimeCertificate.prime_of_checked checked
  decide +kernel

theorem order_prime : DomainParams.brainpoolP224r1.q.value.Prime := by
  apply PrimeCertificate.prime_of_checked checked
  decide +kernel

theorem mulByOrder_generator {group : ExplicitGroup}
    (h : DomainParams.brainpoolP224r1.build.value = .ok group) :
    (group.mulByOrder group.generator).toOption = some .identity := by
  have hall : (DomainParams.brainpoolP224r1.build.value.toOption.all fun group =>
      (group.mulByOrder group.generator).toOption == some .identity) = true := by
    decide +kernel
  rw [h] at hall
  exact beq_iff_eq.mp hall

theorem hasPrimeOrder {group : ExplicitGroup}
    (h : DomainParams.brainpoolP224r1.build.value = .ok group) :
    (CurveGroup.explicit group).HasPrimeOrder := by
  obtain ⟨curve, generator, hcurve, -, hgroup⟩ := DomainParams.stages_of_build h
  obtain ⟨hsize, -⟩ := PrimeCurve.eq_of_ofOctets hcurve
  obtain ⟨-, rfl, -, horder, -⟩ := PrimeCurve.withGenerator_eq_ok_iff.mp hgroup
  have hvalue : group.order.value = DomainParams.brainpoolP224r1.q.value := by
    rw [horder, Octets.value_significant]
  apply CurveGroup.hasPrimeOrder_of_checks
  · rw [hsize]
    exact modulus_prime
  · rw [hvalue]
    exact order_prime
  · have hbuilt : NamedCurve.brainpoolP224r1.params.build.value = .ok group := h
    exact NamedCurve.norm_ne_zero_of_build hbuilt
  · exact mulByOrder_generator h
  · rw [hsize, hvalue]
    decide +kernel

theorem curveGroup_eq {group : ExplicitGroup}
    (h : DomainParams.brainpoolP224r1.build.value = .ok group) :
    DhGroup.ecp224Bp.curveGroup.value = .ok (.explicit group) := by
  have hserved : DhGroup.ecp224Bp.curveGroup.value =
      (DomainParams.brainpoolP224r1.build.value.map CurveGroup.explicit).mapError
        AgreementError.toExchange := rfl
  rw [hserved, h]
  rfl

/-- The sessions that begin on the group run on the curve of its table. -/
theorem curve_of_create {σ : Type} [RandomSource σ] {source : σ} {session : Session}
    (h : (Session.create DhGroup.ecp224Bp source).value.1 = .ok session)
    {group : ExplicitGroup} (hgroup : DomainParams.brainpoolP224r1.build.value = .ok group) :
    session.curve = .explicit group := by
  have hserved := (Session.fresh_of_create h).curve_eq
  rw [curveGroup_eq hgroup] at hserved
  exact (Except.ok.inj hserved).symm

end EcpAgreement.BrainpoolP224
