import EcpAgreement.Group.Construction
import EcpAgreement.Proofs.Curve.BuiltInMultiplication
import EcpAgreement.Proofs.Curve.Closure
import EcpAgreement.Proofs.Curve.Multiplication
import EcpAgreement.Proofs.Session.KeyPair

/-!
# Genuine groups

A curve group over a prime is genuine when its generator is a point of prime
order and that order is the declared one.  Both kinds of groups then multiply
alike: on the multiples of the generator they give the written multiples of the
group of the curve (`acts_of_genuine`).  For an explicit group this uses that
the declared order is odd, so that no two gathered points differ by a point of
order two.
-/

namespace EcpAgreement.CurveGroup

/-- The modulus of the coordinates. -/
def modulus : CurveGroup → ℕ
  | builtIn group => group.curve.size
  | explicit group => group.curve.field.size

/-- The residues of the coefficients. -/
def coefficients : (group : CurveGroup) → ZMod group.modulus × ZMod group.modulus
  | builtIn group => (residue group.curve.a, residue group.curve.b)
  | explicit group => (residue group.curve.a, residue group.curve.b)

/-- The curve over the residues. -/
abbrev law (group : CurveGroup) : WeierstrassCurve.Affine (ZMod group.modulus) :=
  shortWeierstrass group.coefficients.1 group.coefficients.2

/-- A point of the curve as the group writes it. -/
def write (group : CurveGroup) (A : group.law.Point) : Point :=
  writePoint group.fieldElementLength A

/-- The generator has prime order, and it is the declared one. -/
structure Genuine (group : CurveGroup) [Fact group.modulus.Prime] : Prop where
  order_prime : group.order.Prime
  generator : ∃ G : group.law.Point, group.generator = group.write G ∧
    addOrderOf G = group.order

/-- The group admits the points of its curve, and on the multiples of one of
them, from which it starts, it multiplies in the group of the curve. -/
structure Acts (group : CurveGroup) [Fact group.modulus.Prime] (G : group.law.Point) :
    Prop where
  mulGenerator_eq : ∀ k, group.InRange k →
    group.mulGenerator k = .ok (group.write (k.octets.value • G))
  mul_eq : ∀ (n : ℕ) k, group.InRange k →
    group.mul (group.write (n • G)) k = .ok (group.write (k.octets.value • n • G))
  pointOfAffine_eq : ∀ A x y, group.write A = .affine x y →
    group.pointOfAffine x y = .ok (.affine x y)

/-! ## Written points -/

section Written

variable {group : CurveGroup}

theorem length_of_write {A : group.law.Point} {x y : Octets}
    (h : group.write A = .affine x y) :
    x.length = group.fieldElementLength ∧ y.length = group.fieldElementLength := by
  cases A with
  | zero => contradiction
  | some u v k =>
      obtain ⟨rfl, rfl⟩ := Point.affine.inj h
      exact ⟨Octets.length_ofNat _ _, Octets.length_ofNat _ _⟩

theorem exists_encode_write {A : group.law.Point} (hA : A ≠ 0) (xOnly : Bool) :
    ∃ secret, group.encode (group.write A) xOnly = .ok secret := by
  cases hwrite : group.write A with
  | identity => exact absurd (writePoint_eq_identity_iff.mp hwrite) hA
  | affine x y =>
      obtain ⟨hx, hy⟩ := length_of_write hwrite
      exact ⟨_, encode_affine hx hy xOnly⟩

end Written

/-! ## Built-in groups -/

section BuiltIn

variable {group : BuiltInGroup}

theorem write_builtIn (h : group.Coherent) (A : (builtIn group).law.Point) :
    (builtIn group).write A = writePoint group.curve.width A := by
  rw [← h.width_eq]
  rfl

/-- Scalars of the table are multipliers of the curve. -/
theorem multiplier_bounds (h : group.Coherent) {k : Scalar}
    (hk : (builtIn group).InRange k) :
    k.octets.length = group.curve.width ∧ 0 < k.octets.value ∧
      k.octets.value < group.curve.order := by
  refine ⟨?_, hk.pos, ?_⟩
  · rw [← h.orderLength_eq]
    exact hk.length_eq
  · rw [← h.order_eq]
    exact hk.lt_order

theorem acts_builtIn [Fact (builtIn group).modulus.Prime] (h : group.Coherent)
    {G : (builtIn group).law.Point} (hG : (builtIn group).generator = (builtIn group).write G) :
    (builtIn group).Acts G := by
  have hprime : Fact group.curve.size.Prime := ‹Fact (builtIn group).modulus.Prime›
  have hsame : G = h.point := by
    apply writePoint_injective h.size_lt.le
    exact (write_builtIn h G).symm.trans (hG.symm.trans h.write_point.symm)
  subst hsame
  refine ⟨?_, ?_, ?_⟩
  · intro k hk
    obtain ⟨hlength, hpos, hlt⟩ := multiplier_bounds h hk
    rw [write_builtIn h]
    exact h.mulGenerator_eq hlength hpos hlt
  · intro n k hk
    obtain ⟨hlength, hpos, hlt⟩ := multiplier_bounds h hk
    rw [write_builtIn h, write_builtIn h]
    exact h.mul_write (n • h.point) hlength hpos hlt
  · intro A x y hxy
    rw [write_builtIn h] at hxy
    exact h.pointOfAffine_write hxy

end BuiltIn

/-! ## Explicit groups -/

section Explicit

variable {group : ExplicitGroup}

theorem mul_write_explicit [Fact (explicit group).modulus.Prime]
    {A : (explicit group).law.Point} (hodd : Odd (addOrderOf A)) (k : Scalar) :
    (explicit group).mul ((explicit group).write A) k =
      .ok ((explicit group).write (k.octets.value • A)) := by
  have hprime : Fact group.curve.field.size.Prime := ‹Fact (explicit group).modulus.Prime›
  exact PrimeCurve.multiple_write hodd k.octets

/-- A multiple of the generator has an odd order too, so that none of its products is
lost. -/
theorem acts_explicit [Fact (explicit group).modulus.Prime]
    {G : (explicit group).law.Point} (hG : (explicit group).generator = (explicit group).write G)
    (horder : addOrderOf G = (explicit group).order) : (explicit group).Acts G := by
  have hprime : Fact group.curve.field.size.Prime := ‹Fact (explicit group).modulus.Prime›
  have hodd : Odd (addOrderOf G) := by
    rw [horder]
    exact Nat.odd_iff.mpr group.order_odd
  have hmultiple : ∀ (n : ℕ) (s : Octets),
      group.curve.multiple (group.curve.write (n • G)) s =
        .ok (group.curve.write (s.value • n • G)) := by
    intro n s
    exact PrimeCurve.multiple_write (hodd.of_dvd_nat (addOrderOf_smul_dvd n)) s
  refine ⟨?_, ?_, ?_⟩
  · intro k hk
    have hone := hmultiple 1 k.octets
    rw [one_nsmul] at hone
    have hgenerator : group.generator = group.curve.write G := hG
    rw [← hgenerator] at hone
    exact hone
  · intro n k hk
    exact hmultiple n k.octets
  · intro A x y hxy
    exact PrimeCurve.point_of_contains (PrimeCurve.contains_of_write hxy)

end Explicit

/-! ## The groups of a negotiation -/

theorem eq_of_curveGroup {group : DhGroup} {curve : CurveGroup}
    (h : group.curveGroup.value = .ok curve) :
    (∃ named : NamedCurve, curve = .builtIn named.builtInGroup) ∨
      ∃ explicitGroup, curve = .explicit explicitGroup := by
  rw [DhGroup.curveGroup] at h
  split at h
  · rename_i named hprovision
    rw [NamedCurve.group] at h
    split at h
    · exact Or.inl ⟨named, (Except.ok.inj h).symm⟩
    · contradiction
  · rename_i params hprovision
    cases hbuilt : params.build.value with
    | error e =>
        simp only [hbuilt, Except.map, mapError_error] at h
        contradiction
    | ok explicitGroup =>
        simp only [hbuilt, Except.map, mapError_ok] at h
        exact Or.inr ⟨explicitGroup, (Except.ok.inj h).symm⟩
  · contradiction

/-- A public value of a group holds two field elements of its curve. -/
theorem fieldElementLength_curveGroup (group : DhGroup) :
    group.curveGroup.value.toOption.map fieldElementLength = group.fieldElementLength? := by
  cases group <;> decide +kernel

theorem fieldElementLength_of_curveGroup {group : DhGroup} {curve : CurveGroup}
    (h : group.curveGroup.value = .ok curve) :
    group.fieldElementLength? = some curve.fieldElementLength := by
  rw [← fieldElementLength_curveGroup, h]
  rfl

theorem acts_of_genuine {group : DhGroup} {curve : CurveGroup}
    (hcurve : group.curveGroup.value = .ok curve) [Fact curve.modulus.Prime]
    (h : curve.Genuine) :
    ∃ G : curve.law.Point, addOrderOf G = curve.order ∧ curve.Acts G := by
  obtain ⟨G, hG, horder⟩ := h.generator
  refine ⟨G, horder, ?_⟩
  rcases eq_of_curveGroup hcurve with ⟨named, rfl⟩ | ⟨explicitGroup, rfl⟩
  · exact acts_builtIn (BuiltInGroup.coherent_builtInGroup named) hG
  · exact acts_explicit hG horder

end EcpAgreement.CurveGroup
