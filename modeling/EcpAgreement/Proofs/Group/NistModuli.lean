import EcpAgreement.Proofs.Group.NistP256

/-!
# The moduli of the NIST curves are prime

Each of the five moduli is one of the numbers of a table of certificates: that of
P-256 of the table of its own module, the others of the one below.
-/

namespace EcpAgreement.NistModuli

/-- Certificates for the moduli of P-192, P-224, P-384 and P-521, and for every
prime that one of them rests on. -/
def certificates : List PrimeCertificate :=
  [ ⟨2, 1, []⟩,
    ⟨3, 2, [2]⟩,
    ⟨5, 2, [2]⟩,
    ⟨7, 3, [2, 3]⟩,
    ⟨11, 2, [2, 5]⟩,
    ⟨13, 2, [2, 3]⟩,
    ⟨17, 3, [2]⟩,
    ⟨19, 2, [2, 3]⟩,
    ⟨23, 5, [2, 11]⟩,
    ⟨29, 2, [2, 7]⟩,
    ⟨31, 3, [2, 3, 5]⟩,
    ⟨37, 2, [2, 3]⟩,
    ⟨41, 6, [2, 5]⟩,
    ⟨43, 3, [2, 3, 7]⟩,
    ⟨47, 5, [2, 23]⟩,
    ⟨53, 2, [2, 13]⟩,
    ⟨59, 2, [2, 29]⟩,
    ⟨61, 2, [2, 3, 5]⟩,
    ⟨67, 2, [2, 3, 11]⟩,
    ⟨73, 5, [2, 3]⟩,
    ⟨79, 3, [2, 3, 13]⟩,
    ⟨89, 3, [2, 11]⟩,
    ⟨97, 5, [2, 3]⟩,
    ⟨101, 2, [2, 5]⟩,
    ⟨103, 5, [2, 3, 17]⟩,
    ⟨109, 6, [2, 3]⟩,
    ⟨113, 3, [2, 7]⟩,
    ⟨131, 2, [2, 5, 13]⟩,
    ⟨139, 2, [2, 3, 23]⟩,
    ⟨151, 6, [2, 3, 5]⟩,
    ⟨157, 5, [2, 3, 13]⟩,
    ⟨163, 2, [2, 3]⟩,
    ⟨173, 2, [2, 43]⟩,
    ⟨179, 2, [2, 89]⟩,
    ⟨181, 2, [2, 3, 5]⟩,
    ⟨191, 19, [2, 5, 19]⟩,
    ⟨211, 2, [2, 3, 5, 7]⟩,
    ⟨223, 3, [2, 3, 37]⟩,
    ⟨227, 2, [2, 113]⟩,
    ⟨229, 6, [2, 3, 19]⟩,
    ⟨233, 3, [2, 29]⟩,
    ⟨257, 3, [2]⟩,
    ⟨263, 5, [2, 131]⟩,
    ⟨271, 6, [2, 3, 5]⟩,
    ⟨277, 5, [2, 3, 23]⟩,
    ⟨283, 3, [2, 3, 47]⟩,
    ⟨293, 2, [2, 73]⟩,
    ⟨317, 2, [2, 79]⟩,
    ⟨347, 2, [2, 173]⟩,
    ⟨373, 2, [2, 3, 31]⟩,
    ⟨397, 5, [2, 3, 11]⟩,
    ⟨521, 3, [2, 5, 13]⟩,
    ⟨599, 7, [2, 13, 23]⟩,
    ⟨607, 3, [2, 3, 101]⟩,
    ⟨619, 2, [2, 3, 103]⟩,
    ⟨631, 3, [2, 3, 5, 7]⟩,
    ⟨641, 3, [2, 5]⟩,
    ⟨661, 2, [2, 3, 5, 11]⟩,
    ⟨683, 5, [2, 11, 31]⟩,
    ⟨727, 5, [2, 3, 11]⟩,
    ⟨881, 3, [2, 5, 11]⟩,
    ⟨907, 2, [2, 3, 151]⟩,
    ⟨937, 5, [2, 3, 13]⟩,
    ⟨1033, 5, [2, 3, 43]⟩,
    ⟨1051, 7, [2, 3, 5, 7]⟩,
    ⟨1237, 2, [2, 3, 103]⟩,
    ⟨1373, 2, [2, 7]⟩,
    ⟨1381, 2, [2, 3, 5, 23]⟩,
    ⟨1433, 3, [2, 179]⟩,
    ⟨1579, 3, [2, 3, 263]⟩,
    ⟨1613, 3, [2, 13, 31]⟩,
    ⟨1663, 3, [2, 3, 277]⟩,
    ⟨2213, 2, [2, 7, 79]⟩,
    ⟨2437, 2, [2, 3, 7, 29]⟩,
    ⟨2477, 2, [2, 619]⟩,
    ⟨2731, 3, [2, 3, 5, 7, 13]⟩,
    ⟨3191, 11, [2, 5, 11, 29]⟩,
    ⟨3253, 2, [2, 3, 271]⟩,
    ⟨3517, 2, [2, 3, 293]⟩,
    ⟨6317, 2, [2, 1579]⟩,
    ⟨8191, 17, [2, 3, 5, 7, 13]⟩,
    ⟨8389, 6, [2, 3, 233]⟩,
    ⟨16657, 5, [2, 3, 347]⟩,
    ⟨17449, 14, [2, 3, 727]⟩,
    ⟨21407, 5, [2, 7, 11, 139]⟩,
    ⟨23609, 6, [2, 13, 227]⟩,
    ⟨28793, 3, [2, 59, 61]⟩,
    ⟨38557, 2, [2, 3, 7, 17]⟩,
    ⟨42641, 3, [2, 5, 13, 41]⟩,
    ⟨49481, 3, [2, 5, 1237]⟩,
    ⟨51481, 17, [2, 3, 5, 11, 13]⟩,
    ⟨54251, 2, [2, 5, 7, 31]⟩,
    ⟨61681, 29, [2, 3, 5, 257]⟩,
    ⟨65537, 3, [2]⟩,
    ⟨149309, 2, [2, 163, 229]⟩,
    ⟨166571, 2, [2, 5, 16657]⟩,
    ⟨274177, 5, [2, 3, 7, 17]⟩,
    ⟨275729, 3, [2, 19, 907]⟩,
    ⟨312289, 14, [2, 3, 3253]⟩,
    ⟨336757, 2, [2, 3, 7, 19, 211]⟩,
    ⟨363557, 2, [2, 97, 937]⟩,
    ⟨379787, 2, [2, 11, 61, 283]⟩,
    ⟨409891, 14, [2, 3, 5, 13, 1051]⟩,
    ⟨568151, 17, [2, 5, 11, 1033]⟩,
    ⟨723127, 3, [2, 3, 191, 631]⟩,
    ⟨858001, 17, [2, 3, 5, 11, 13]⟩,
    ⟨2995763, 2, [2, 7, 11, 397]⟩,
    ⟨2998279, 3, [2, 3, 166571]⟩,
    ⟨5746001, 15, [2, 5, 13, 17]⟩,
    ⟨6051631, 6, [2, 3, 5, 13, 59, 263]⟩,
    ⟨6700417, 5, [2, 3, 17449]⟩,
    ⟨7623851, 6, [2, 5, 13, 37, 317]⟩,
    ⟨8413201, 29, [2, 3, 5, 19, 41]⟩,
    ⟨8620289, 3, [2, 151, 223]⟩,
    ⟨9211861, 2, [2, 3, 5, 7, 2437]⟩,
    ⟨11393611, 10, [2, 3, 5, 379787]⟩,
    ⟨34110701, 15, [2, 5, 13, 19, 1381]⟩,
    ⟨105957871, 3, [2, 3, 5, 19, 211, 881]⟩,
    ⟨246608641, 19, [2, 3, 5, 21407]⟩,
    ⟨252396031, 3, [2, 3, 5, 8413201]⟩,
    ⟨308761441, 17, [2, 3, 5, 13, 49481]⟩,
    ⟨513928823, 5, [2, 11, 59, 599, 661]⟩,
    ⟨532247449, 7, [2, 3, 61, 363557]⟩,
    ⟨2400573761, 3, [2, 5, 13, 347, 1663]⟩,
    ⟨2534364967, 3, [2, 3, 7, 8620289]⟩,
    ⟨2862218959, 3, [2, 3, 157, 1373, 2213]⟩,
    ⟨24098228377, 7, [2, 3, 109, 9211861]⟩,
    ⟨53448597593, 3, [2, 13, 513928823]⟩,
    ⟨65427463921, 17, [2, 3, 5, 7, 13, 2995763]⟩,
    ⟨455827231987, 2, [2, 3, 7, 43, 252396031]⟩,
    ⟨674750394557, 2, [2, 7, 24098228377]⟩,
    ⟨807145746439, 3, [2, 3, 47, 2862218959]⟩,
    ⟨44925942675193, 5, [2, 3, 3517, 532247449]⟩,
    ⟨67280421310721, 3, [2, 5, 47, 373, 2998279]⟩,
    ⟨108140989558681, 17, [2, 3, 5, 13, 683, 1433, 23609]⟩,
    ⟨145295143558111, 7, [2, 3, 5, 7, 13, 2534364967]⟩,
    ⟨108341181769254293, 2, [2, 17, 43, 2477, 54251, 275729]⟩,
    ⟨361725589517273017, 17, [2, 3, 7, 3191, 674750394557]⟩,
    ⟨1357291859799823621, 2, [2, 3, 5, 67, 6317, 53448597593]⟩,
    ⟨5933177618131140283, 2, [2, 3, 723127, 455827231987]⟩,
    ⟨529709925838459440593, 3, [2, 7, 181, 105957871, 246608641]⟩,
    ⟨35581458644053887931343, 5, [2, 17, 41, 568151, 44925942675193]⟩,
    ⟨173308343918874810521923841, 3, [2, 5, 13, 28793, 361725589517273017]⟩,
    ⟨288626509448065367648032903, 6, [2, 3, 19, 37, 607, 5933177618131140283]⟩,
    ⟨23964610537191310276190549303, 5, [2, 336757, 35581458644053887931343]⟩,
    ⟨862725979338887169942859774909, 2, [2, 3, 23964610537191310276190549303]⟩,
    ⟨20705423504133292078628634597817, 5, [2, 3, 862725979338887169942859774909]⟩,
    ⟨413244619895455989650825325680172591660047, 5,
      [2, 17, 97, 6051631, 20705423504133292078628634597817]⟩,
    ⟨12397338596863679689524759770405177749801411, 2,
      [2, 3, 5, 413244619895455989650825325680172591660047]⟩,
    ⟨6277101735386680763835789423207666416083908700390324961279, 11,
      [2, 59, 149309, 11393611, 108341181769254293, 288626509448065367648032903]⟩,
    ⟨26959946667150639794667015087019630673557916260026308143510066298881, 22,
      [2, 3, 5, 17, 257, 641, 65537, 274177, 6700417, 67280421310721]⟩,
    ⟨19173790298027098165721053155794528970226934547887232785722672956982046098136719667167519737147526097, 3,
      [2, 11, 8389, 38557, 312289, 1357291859799823621, 529709925838459440593,
        12397338596863679689524759770405177749801411]⟩,
    ⟨39402006196394479212279040100143613805079739270465446667948293404245721771496870329047266088258938001861606973112319, 19,
      [2, 19, 67, 807145746439,
        19173790298027098165721053155794528970226934547887232785722672956982046098136719667167519737147526097]⟩,
    ⟨6864797660130609714981900799081393217269435300143305409394463459185543183397656052122559640661454554977296311391480858037121987999716643812574028291115057151, 3,
      [2, 3, 5, 11, 17, 31, 41, 53, 131, 157, 521, 1613, 2731, 8191, 42641, 51481, 61681, 409891,
        858001, 5746001, 7623851, 34110701, 308761441, 2400573761, 65427463921, 108140989558681,
        145295143558111, 173308343918874810521923841]⟩ ]

theorem checked : PrimeCertificate.checkAll [] certificates = true := by
  decide +kernel

theorem prime (curve : NamedCurve) (h : curve.isBuiltIn = true) :
    curve.params.p.value.Prime := by
  cases curve with
  | nistP256 => exact NistP256.modulus_prime
  | nistP192 | nistP224 | nistP384 | nistP521 =>
      apply PrimeCertificate.prime_of_checked checked
      decide +kernel
  | _ => contradiction

end EcpAgreement.NistModuli
