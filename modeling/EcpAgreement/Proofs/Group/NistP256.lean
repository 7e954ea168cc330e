import EcpAgreement.Proofs.Field.PrimeCertificate
import EcpAgreement.Proofs.Group.Genuine

/-!
# The group of P-256 is genuine

The modulus and the order of the curve P-256 are prime, and its generator has
that order.  The two numbers are the last of a table of certificates, and the
complete formulas take the multiple of the generator by the order to infinity.
-/

namespace EcpAgreement.NistP256

/-- Certificates for the order and the modulus, and for every prime that one of
them rests on. -/
def certificates : List PrimeCertificate :=
  [ ⟨2, 1, []⟩,
    ⟨3, 2, [2]⟩,
    ⟨5, 2, [2]⟩,
    ⟨7, 3, [2, 3]⟩,
    ⟨11, 2, [2, 5]⟩,
    ⟨13, 2, [2, 3]⟩,
    ⟨17, 3, [2]⟩,
    ⟨19, 2, [2, 3]⟩,
    ⟨23, 5, [2, 11]⟩,
    ⟨29, 2, [2, 7]⟩,
    ⟨31, 3, [2, 3, 5]⟩,
    ⟨37, 2, [2, 3]⟩,
    ⟨41, 6, [2, 5]⟩,
    ⟨43, 3, [2, 3, 7]⟩,
    ⟨53, 2, [2, 13]⟩,
    ⟨71, 7, [2, 5, 7]⟩,
    ⟨97, 5, [2, 3]⟩,
    ⟨107, 2, [2, 53]⟩,
    ⟨127, 3, [2, 3, 7]⟩,
    ⟨131, 2, [2, 5, 13]⟩,
    ⟨151, 6, [2, 3, 5]⟩,
    ⟨157, 5, [2, 3, 13]⟩,
    ⟨173, 2, [2, 43]⟩,
    ⟨181, 2, [2, 3, 5]⟩,
    ⟨197, 2, [2, 7]⟩,
    ⟨229, 6, [2, 3, 19]⟩,
    ⟨241, 7, [2, 3, 5]⟩,
    ⟨257, 3, [2]⟩,
    ⟨263, 5, [2, 131]⟩,
    ⟨311, 17, [2, 5, 31]⟩,
    ⟨313, 10, [2, 3, 13]⟩,
    ⟨337, 10, [2, 3, 7]⟩,
    ⟨373, 2, [2, 3, 31]⟩,
    ⟨641, 3, [2, 5]⟩,
    ⟨661, 2, [2, 3, 5, 11]⟩,
    ⟨727, 5, [2, 3, 11]⟩,
    ⟨757, 2, [2, 3, 7]⟩,
    ⟨919, 7, [2, 3, 17]⟩,
    ⟨1087, 3, [2, 3, 181]⟩,
    ⟨1201, 11, [2, 3, 5]⟩,
    ⟨1297, 10, [2, 3]⟩,
    ⟨1511, 11, [2, 5, 151]⟩,
    ⟨1531, 2, [2, 3, 5, 17]⟩,
    ⟨2411, 6, [2, 5, 241]⟩,
    ⟨3023, 5, [2, 1511]⟩,
    ⟨3407, 5, [2, 13, 131]⟩,
    ⟨3677, 2, [2, 919]⟩,
    ⟨3769, 7, [2, 3, 157]⟩,
    ⟨4349, 2, [2, 1087]⟩,
    ⟨9547, 2, [2, 3, 37, 43]⟩,
    ⟨16879, 3, [2, 3, 29, 97]⟩,
    ⟨17449, 14, [2, 3, 727]⟩,
    ⟨18169, 11, [2, 3, 757]⟩,
    ⟨38189, 2, [2, 9547]⟩,
    ⟨65537, 3, [2]⟩,
    ⟨78283, 3, [2, 3, 4349]⟩,
    ⟨104471, 11, [2, 5, 31, 337]⟩,
    ⟨126241, 7, [2, 3, 5, 263]⟩,
    ⟨155317, 5, [2, 3, 7, 43]⟩,
    ⟨490463, 14, [2, 7, 53, 661]⟩,
    ⟨704251, 2, [2, 3, 5, 313]⟩,
    ⟨3969899, 2, [2, 19, 104471]⟩,
    ⟨6700417, 5, [2, 3, 17449]⟩,
    ⟨9350987, 2, [2, 17, 229, 1201]⟩,
    ⟨187019741, 2, [2, 5, 9350987]⟩,
    ⟨191039911, 3, [2, 3, 5, 41, 155317]⟩,
    ⟨204061199, 11, [2, 11, 23, 107, 3769]⟩,
    ⟨311245691, 2, [2, 5, 7, 17, 29, 311]⟩,
    ⟨622491383, 5, [2, 311245691]⟩,
    ⟨34282281433, 17, [2, 3, 7, 204061199]⟩,
    ⟨66417393611, 6, [2, 5, 53, 173, 197, 3677]⟩,
    ⟨1002328039319, 19, [2, 126241, 3969899]⟩,
    ⟨11290956913871, 13, [2, 5, 17, 66417393611]⟩,
    ⟨46076956964474543, 5, [2, 23, 18169, 78283, 704251]⟩,
    ⟨208150935158385979, 2, [2, 3, 11, 43, 127, 3023, 191039911]⟩,
    ⟨2624747550333869278416773953, 7, [2, 3, 1297, 16879, 208150935158385979]⟩,
    ⟨774023187263532362759620327192479577272145303, 3,
      [2, 3, 2411, 34282281433, 11290956913871, 46076956964474543]⟩,
    ⟨835945042244614951780389953367877943453916927241, 11,
      [2, 3, 5, 774023187263532362759620327192479577272145303]⟩,
    ⟨115792089210356248762697446949407573529996955224135760342422259061068512044369, 7,
      [2, 3, 71, 131, 373, 3407, 17449, 38189, 187019741, 622491383, 1002328039319,
        2624747550333869278416773953]⟩,
    ⟨115792089210356248762697446949407573530086143415290314195533631308867097853951, 6,
      [2, 3, 5, 17, 257, 641, 1531, 65537, 490463, 6700417,
        835945042244614951780389953367877943453916927241]⟩ ]

theorem checked : PrimeCertificate.checkAll [] certificates = true := by
  decide +kernel

theorem modulus_prime : DomainParams.nistP256.p.value.Prime := by
  apply PrimeCertificate.prime_of_checked checked
  decide +kernel

theorem order_prime : DomainParams.nistP256.q.value.Prime := by
  apply PrimeCertificate.prime_of_checked checked
  decide +kernel

/-- The curve group that serves the group. -/
abbrev group : CurveGroup :=
  .builtIn NamedCurve.nistP256.builtInGroup

instance : Fact group.modulus.Prime :=
  ⟨modulus_prime⟩

theorem curveGroup_eq : DhGroup.ecp256.curveGroup.value = .ok group :=
  rfl

theorem genuine : group.Genuine := by
  have hcoherent := BuiltInGroup.coherent_builtInGroup NamedCurve.nistP256
  have hprime : Fact NamedCurve.nistP256.builtInGroup.curve.size.Prime := ⟨modulus_prime⟩
  refine ⟨order_prime, hcoherent.point, hcoherent.write_point.symm, ?_⟩
  apply hcoherent.addOrderOf_point order_prime
  · decide +kernel
  · decide +kernel

end EcpAgreement.NistP256
