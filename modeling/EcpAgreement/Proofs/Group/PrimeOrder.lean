import EcpAgreement.Proofs.Curve.RootFree
import EcpAgreement.Proofs.Group.Coordinates
import EcpAgreement.Proofs.Group.Stages

/-!
# Groups of prime order

A curve group has prime order when its modulus is prime and its curve has
exactly as many points as the declared order, which is prime too.  Multiplying by
a positive number below the order is then a bijection of the points, and explicit
groups multiply every point.

The points need not be counted.  An odd number of points leaves no room for
another multiple of the order once the order is above two thirds of the modulus,
so that it is enough that the cubic has no root and that the generator is taken
to infinity by the order (`hasPrimeOrder_of_checks`).  The standard tables pass all
stages of a construction, and the cubics of their curves have no root.
-/

namespace EcpAgreement

namespace CurveGroup

/-- The curve over a prime field has as many points as the declared order says,
and that number is prime. -/
structure HasPrimeOrder (group : CurveGroup) : Prop where
  modulus_prime : group.modulus.Prime
  order_prime : group.order.Prime
  card_points : Nat.card group.law.Point = group.order

section Multiples

variable {group : CurveGroup} [Fact group.modulus.Prime] {n : ℕ} {A B : group.law.Point}

theorem HasPrimeOrder.nsmul_bijective (h : group.HasPrimeOrder) (hpos : 0 < n)
    (hlt : n < group.order) : Function.Bijective fun A : group.law.Point => n • A := by
  have hcoprime : (Nat.card group.law.Point).Coprime n := by
    rw [h.card_points]
    exact Nat.coprime_of_lt_prime hpos.ne' hlt h.order_prime
  exact (nsmulCoprime hcoprime).bijective

theorem HasPrimeOrder.nsmul_inj (h : group.HasPrimeOrder) (hpos : 0 < n)
    (hlt : n < group.order) : n • A = n • B ↔ A = B :=
  (h.nsmul_bijective hpos hlt).injective.eq_iff

theorem HasPrimeOrder.nsmul_ne_zero (h : group.HasPrimeOrder) (hpos : 0 < n)
    (hlt : n < group.order) (hA : A ≠ 0) : n • A ≠ 0 := by
  intro hzero
  apply hA
  rw [← h.nsmul_inj hpos hlt, hzero, nsmul_zero]

end Multiples

section Explicit

variable {group : ExplicitGroup} [Fact (explicit group).modulus.Prime]
  {A : (explicit group).law.Point}

theorem HasPrimeOrder.odd_addOrderOf (h : (explicit group).HasPrimeOrder)
    (A : (explicit group).law.Point) : Odd (addOrderOf A) := by
  have hodd : Odd (Nat.card (explicit group).law.Point) := by
    rw [h.card_points]
    exact Nat.odd_iff.mpr group.order_odd
  exact hodd.of_dvd_nat (addOrderOf_dvd_natCard A)

theorem HasPrimeOrder.mul_write (h : (explicit group).HasPrimeOrder)
    (A : (explicit group).law.Point) (k : Scalar) :
    (explicit group).mul ((explicit group).write A) k =
      .ok ((explicit group).write (k.octets.value • A)) :=
  mul_write_explicit (h.odd_addOrderOf A) k

end Explicit

/-- The generator of an explicit group is a finite point. -/
theorem exists_write_generator (group : ExplicitGroup) [Fact group.curve.field.size.Prime] :
    ∃ G : group.curve.law.Point, group.generator = group.curve.write G ∧ G ≠ 0 := by
  obtain ⟨t, hlift⟩ := PrimeCurve.exists_lift_iff.mpr (Or.inr group.contains_generator)
  obtain ⟨G, hG⟩ := PrimeCurve.exists_write_of_lift hlift
  refine ⟨G, hG, ?_⟩
  rintro rfl
  have hcontains := group.contains_generator
  rw [hG] at hcontains
  contradiction

/-- A group of prime order is generated by its generator. -/
theorem HasPrimeOrder.exists_generator {group : ExplicitGroup}
    [Fact (explicit group).modulus.Prime] (h : (explicit group).HasPrimeOrder) :
    ∃ G : (explicit group).law.Point, (explicit group).generator = (explicit group).write G ∧
      addOrderOf G = (explicit group).order := by
  have hprime : Fact group.curve.field.size.Prime := ‹Fact (explicit group).modulus.Prime›
  have horder : Fact (explicit group).order.Prime := ⟨h.order_prime⟩
  obtain ⟨G, hG, hne⟩ := exists_write_generator group
  refine ⟨G, hG, addOrderOf_eq_prime ?_ hne⟩
  rw [← h.card_points]
  exact card_nsmul_eq_zero'

/-- What shows that a group has prime order, once the modulus and the order are
known to be prime.  The formulas are exact on points of odd order, so what they leave
of the generator is its multiple. -/
theorem hasPrimeOrder_of_checks {group : ExplicitGroup} (hmodulus : group.curve.field.size.Prime)
    (horder : group.order.value.Prime) (hnorm : group.curve.frobeniusNorm.val ≠ 0)
    (hmul : (group.mulByOrder group.generator).toOption = some .identity)
    (hbound : 2 * group.curve.field.size + 1 < 3 * group.order.value) :
    (explicit group).HasPrimeOrder := by
  have hprime : Fact group.curve.field.size.Prime := ⟨hmodulus⟩
  have hprime' : Fact group.order.value.Prime := ⟨horder⟩
  have hodd := PrimeCurve.odd_card_of_norm hnorm
  obtain ⟨G, hG, hne⟩ := exists_write_generator group
  have hzero : group.order.value • G = 0 := by
    rw [ExplicitGroup.mulByOrder, hG,
      PrimeCurve.multiple_write (hodd.of_dvd_nat (addOrderOf_dvd_natCard G))] at hmul
    exact PrimeCurve.write_eq_identity_iff.mp (Option.some.inj hmul)
  have horderOf : addOrderOf G = group.order.value := addOrderOf_eq_prime hzero hne
  rw [← horderOf] at hbound
  refine ⟨hmodulus, horder, ?_⟩
  exact (card_points_eq group.curve.field.size_odd hodd hbound).trans horderOf

end CurveGroup

/-! ## Standard tables -/

namespace NamedCurve

theorem exists_build (named : NamedCurve) :
    ∃ group, named.params.build.value = .ok group := by
  apply exists_of_isOk
  cases named <;> decide +kernel

/-- The cubic of a standard curve has no root. -/
theorem norm_ne_zero_of_build {named : NamedCurve} {group : ExplicitGroup}
    (h : named.params.build.value = .ok group) : group.curve.frobeniusNorm.val ≠ 0 := by
  have hall : (named.params.build.value.toOption.all
      fun group => group.curve.frobeniusNorm.val != 0) = true := by
    cases named <;> decide +kernel
  rw [h] at hall
  exact bne_iff_ne.mp hall

end NamedCurve

end EcpAgreement
