import EcpAgreement.Proofs.Group.PrimeOrder
import EcpAgreement.Proofs.Group.NistModuli

/-!
# Two arithmetics for one curve

The library has arithmetic of its own for the NIST curves, by chords and
tangents, and it can also build an explicit group from the table of such a
curve, which computes with the complete formulas.  Two groups match when they
are on the same curve, with the same generator and order.  If both multiply all
points of that curve, then they agree on every input (`Matches.agrees`).  Own
arithmetic always does.  The explicit groups do because the moduli are prime and
the curves have an odd number of points.
-/

namespace EcpAgreement

/-- A curve given by its numbers has the same written points, and multiples of
them, however these numbers are come by. -/
theorem exists_same_multiples {m n : ℕ} [Fact m.Prime] [Fact n.Prime] {a b : ZMod m}
    {c d : ZMod n} (hsize : m = n) (ha : a.val = c.val) (hb : b.val = d.val) (width : ℕ)
    (A : (shortWeierstrass a b).Point) :
    ∃ B : (shortWeierstrass c d).Point, ∀ k : ℕ,
      writePoint width (k • B) = writePoint width (k • A) := by
  subst hsize
  obtain rfl := ZMod.val_injective m ha
  obtain rfl := ZMod.val_injective m hb
  exact ⟨A, fun _ => rfl⟩

namespace CurveGroup

/-- A scalar that the group gives out for some string. -/
def Produces (group : CurveGroup) (k : Scalar) : Prop :=
  ∃ s, group.scalar s = .ok k

/-- The same results on every input.  Where one of the two fails at a point, the
other fails as well, not always for the same reason. -/
structure Agrees (first second : CurveGroup) : Prop where
  pointOfAffine_iff : ∀ x y R,
    first.pointOfAffine x y = .ok R ↔ second.pointOfAffine x y = .ok R
  contains_eq : ∀ P, first.contains P = second.contains P
  scalar_eq : ∀ s, first.scalar s = second.scalar s
  mul_iff : ∀ P k, first.Produces k ∨ second.Produces k →
    ∀ R, first.mul P k = .ok R ↔ second.mul P k = .ok R
  mulGenerator_eq : ∀ k, first.Produces k ∨ second.Produces k →
    ∃ R, first.mulGenerator k = .ok R ∧ second.mulGenerator k = .ok R

/-! ## Groups that multiply all points of their curve -/

/-- Every point of the curve is multiplied in the group of the curve. -/
def MultipliesAll (group : CurveGroup) [Fact group.modulus.Prime] : Prop :=
  ∀ (A : group.law.Point) k, group.InRange k →
    group.mul (group.write A) k = .ok (group.write (k.octets.value • A))

theorem multipliesAll_builtIn {group : BuiltInGroup} [Fact (builtIn group).modulus.Prime]
    (h : group.Coherent) : (builtIn group).MultipliesAll := by
  have hprime : Fact group.curve.size.Prime := ‹Fact (builtIn group).modulus.Prime›
  intro A k hk
  obtain ⟨hlength, hpos, hlt⟩ := multiplier_bounds h hk
  rw [write_builtIn h, write_builtIn h]
  exact h.mul_write A hlength hpos hlt

theorem multipliesAll_explicit {group : ExplicitGroup} [Fact (explicit group).modulus.Prime]
    (h : Odd (Nat.card (explicit group).law.Point)) : (explicit group).MultipliesAll := by
  intro A k hk
  exact mul_write_explicit (h.of_dvd_nat (addOrderOf_dvd_natCard A)) k

variable {first second group : CurveGroup} {P R : Point} {k : Scalar}

theorem val_coefficient_a : group.coefficients.1.val = group.a := by
  cases group with
  | builtIn group => exact val_residue group.curve.a
  | explicit group => exact val_residue group.curve.a

theorem val_coefficient_b : group.coefficients.2.val = group.b := by
  cases group with
  | builtIn group => exact val_residue group.curve.b
  | explicit group => exact val_residue group.curve.b

/-- What can be multiplied is at infinity or on the curve. -/
theorem Coherent.coordinates_of_mul (h : group.Coherent) (hR : group.mul P k = .ok R) :
    P = .identity ∨ ∃ x y, P = .affine x y ∧ group.Coordinates x y := by
  cases P with
  | identity => exact Or.inl rfl
  | affine x y =>
      refine Or.inr ⟨x, y, rfl, ?_⟩
      cases group with
      | builtIn group =>
          rw [← BuiltInGroup.Coherent.exists_residues_iff h]
          cases hresidues : group.residues (.affine x y) with
          | ok pair => exact ⟨pair, rfl⟩
          | error e =>
              simp only [mul, BuiltInGroup.mul, hresidues] at hR
              contradiction
      | explicit group =>
          obtain ⟨t, hlift⟩ := PrimeCurve.exists_lift_of_multiple hR
          rcases PrimeCurve.exists_lift_iff.mp ⟨t, hlift⟩ with hidentity | hcontains
          · contradiction
          · exact contains_explicit_iff.mp hcontains

theorem Coherent.exists_write_of_mul [Fact group.modulus.Prime] (h : group.Coherent)
    (hR : group.mul P k = .ok R) : ∃ A : group.law.Point, group.write A = P := by
  rcases h.coordinates_of_mul hR with rfl | ⟨x, y, rfl, hcoordinates⟩
  · exact ⟨0, rfl⟩
  · exact h.coordinates_iff_exists_write.mp hcoordinates

theorem exists_mul_generator [Fact group.modulus.Prime] (h : group.Coherent)
    (hall : group.MultipliesAll) (hk : group.InRange k) :
    ∃ R, group.mul group.generator k = .ok R ∧ group.mulGenerator k = .ok R := by
  cases group with
  | builtIn group =>
      have hprime : Fact group.curve.size.Prime := ‹Fact (builtIn group).modulus.Prime›
      obtain ⟨hlength, hpos, hlt⟩ := multiplier_bounds h hk
      refine ⟨_, ?_, BuiltInGroup.Coherent.mulGenerator_eq h hlength hpos hlt⟩
      have hmul := BuiltInGroup.Coherent.mul_write h (BuiltInGroup.Coherent.point h) hlength
        hpos hlt
      rw [BuiltInGroup.Coherent.write_point h] at hmul
      exact hmul
  | explicit group =>
      have hcontains : (explicit group).contains group.generator = true :=
        group.contains_generator
      obtain ⟨x, y, hgenerator, hcoordinates⟩ := h.contains_iff.mp hcontains
      obtain ⟨G, hG⟩ := h.coordinates_iff_exists_write.mp hcoordinates
      have hmul := hall G k hk
      rw [hG, ← hgenerator] at hmul
      exact ⟨_, hmul, hmul⟩

/-! ## Groups on the same curve -/

/-- Two groups on the same curve, with the same generator and order. -/
structure Matches (first second : CurveGroup) : Prop where
  name_eq : first.name = second.name
  width_eq : first.fieldElementLength = second.fieldElementLength
  modulus_eq : first.modulus = second.modulus
  a_eq : first.a = second.a
  b_eq : first.b = second.b
  generator_eq : first.generator = second.generator
  order_eq : first.order = second.order
  orderLength_eq : first.orderLength = second.orderLength

namespace Matches

theorem symm (h : first.Matches second) : second.Matches first where
  name_eq := h.name_eq.symm
  width_eq := h.width_eq.symm
  modulus_eq := h.modulus_eq.symm
  a_eq := h.a_eq.symm
  b_eq := h.b_eq.symm
  generator_eq := h.generator_eq.symm
  order_eq := h.order_eq.symm
  orderLength_eq := h.orderLength_eq.symm

theorem coordinates (h : first.Matches second) {x y : Octets} (k : first.Coordinates x y) :
    second.Coordinates x y := by
  obtain ⟨hx, hy, hsolves⟩ := k
  obtain ⟨hxlt, hylt, hequation⟩ := hsolves
  rw [h.width_eq] at hx hy
  rw [h.modulus_eq] at hxlt hylt hequation
  rw [h.a_eq, h.b_eq] at hequation
  exact ⟨hx, hy, hxlt, hylt, hequation⟩

theorem inRange (h : first.Matches second) (hk : first.InRange k) : second.InRange k := by
  refine ⟨hk.pos, ?_, ?_⟩
  · rw [← h.order_eq]
    exact hk.lt_order
  · rw [← h.orderLength_eq]
    exact hk.length_eq

theorem scalar_of_scalar (h : first.Matches second) {s : Octets}
    (hk : first.scalar s = .ok k) : second.scalar s = .ok k := by
  rw [scalar_eq_ok_iff, h.order_eq, h.orderLength_eq] at hk
  exact scalar_eq_ok_iff.mpr hk

/-- There is one way for a string to be refused, and it shows the name alone. -/
theorem scalar_eq (h : first.Matches second) (s : Octets) : first.scalar s = second.scalar s := by
  cases hfirst : first.scalar s with
  | ok k => exact (h.scalar_of_scalar hfirst).symm
  | error e =>
      cases hsecond : second.scalar s with
      | ok k =>
          rw [h.symm.scalar_of_scalar hsecond] at hfirst
          contradiction
      | error e' =>
          rw [eq_scalarRange_of_scalar hfirst, eq_scalarRange_of_scalar hsecond, h.name_eq]

theorem inRange_of_produces (h : first.Matches second)
    (hk : first.Produces k ∨ second.Produces k) : first.InRange k := by
  rcases hk with ⟨s, hs⟩ | ⟨s, hs⟩
  · exact inRange_of_scalar hs
  · exact h.symm.inRange (inRange_of_scalar hs)

variable [Fact first.modulus.Prime] [Fact second.modulus.Prime]

/-- The curves of two groups have different types, and a point is carried over from one
to the other by its written multiples. -/
theorem exists_write (h : first.Matches second) (A : first.law.Point) :
    ∃ B : second.law.Point, ∀ n : ℕ, second.write (n • B) = first.write (n • A) := by
  have ha : first.coefficients.1.val = second.coefficients.1.val := by
    rw [val_coefficient_a, val_coefficient_a, h.a_eq]
  have hb : first.coefficients.2.val = second.coefficients.2.val := by
    rw [val_coefficient_b, val_coefficient_b, h.b_eq]
  obtain ⟨B, hB⟩ := exists_same_multiples h.modulus_eq ha hb first.fieldElementLength A
  refine ⟨B, ?_⟩
  intro n
  rw [write, ← h.width_eq]
  exact hB n

theorem mul_of_mul (h : first.Matches second) (hfirst : first.Coherent)
    (hall : first.MultipliesAll) (hall' : second.MultipliesAll) (hk : first.InRange k)
    (hR : first.mul P k = .ok R) : second.mul P k = .ok R := by
  obtain ⟨A, rfl⟩ := hfirst.exists_write_of_mul hR
  obtain ⟨B, hB⟩ := h.exists_write A
  have hsame := hB 1
  rw [one_nsmul, one_nsmul] at hsame
  rw [hall A k hk, ← hB, ← hall' B k (h.inRange hk), hsame] at hR
  exact hR

/-- Matching groups that multiply all points of their curve agree. -/
theorem agrees (h : first.Matches second) (hfirst : first.Coherent)
    (hsecond : second.Coherent) (hall : first.MultipliesAll)
    (hall' : second.MultipliesAll) : first.Agrees second := by
  have hcoordinates : ∀ x y, first.Coordinates x y ↔ second.Coordinates x y := by
    intro x y
    constructor
    · exact h.coordinates
    · exact h.symm.coordinates
  have hmul : ∀ P k, first.Produces k ∨ second.Produces k →
      ∀ R, first.mul P k = .ok R ↔ second.mul P k = .ok R := by
    intro P k hk R
    have hrange := h.inRange_of_produces hk
    constructor
    · exact h.mul_of_mul hfirst hall hall' hrange
    · exact h.symm.mul_of_mul hsecond hall' hall (h.inRange hrange)
  constructor
  case pointOfAffine_iff =>
    intro x y R
    rw [hfirst.pointOfAffine_eq_ok_iff, hsecond.pointOfAffine_eq_ok_iff, hcoordinates]
  case contains_eq =>
    intro P
    rw [Bool.eq_iff_iff, hfirst.contains_iff, hsecond.contains_iff]
    simp only [hcoordinates]
  case scalar_eq => exact h.scalar_eq
  case mul_iff => exact hmul
  case mulGenerator_eq =>
    intro k hk
    have hrange := h.inRange_of_produces hk
    obtain ⟨R, hR, hgenerator⟩ := exists_mul_generator hfirst hall hrange
    obtain ⟨S, hS, hgenerator'⟩ := exists_mul_generator hsecond hall' (h.inRange hrange)
    rw [h.generator_eq, hmul _ k hk, hS] at hR
    obtain rfl := Except.ok.inj hR
    exact ⟨S, hgenerator, hgenerator'⟩

end Matches

end CurveGroup

/-! ## The NIST curves -/

namespace NamedCurve

/-- The own arithmetic of a standard curve is about the curve that its table is
built into. -/
theorem matches_of_build {named : NamedCurve} {group : ExplicitGroup}
    (h : named.params.build.value = .ok group) :
    (CurveGroup.builtIn named.builtInGroup).Matches (.explicit group) := by
  obtain ⟨curve, generator, hcurve, hpoint, hgroup⟩ := DomainParams.stages_of_build h
  obtain ⟨hsize, hwidth, ha, hb⟩ := PrimeCurve.eq_of_ofOctets hcurve
  obtain ⟨hgenerator, -⟩ := PrimeCurve.eq_affine_of_point hpoint
  obtain ⟨hname, rfl, rfl, horder, -⟩ := PrimeCurve.withGenerator_eq_ok_iff.mp hgroup
  have hlength : named.params.p.significant.length = named.params.p.length := by
    cases named <;> decide +kernel
  have ha' : named.params.a.value < named.params.p.value := by
    rw [← ha, ← hsize]
    exact group.curve.a.isLt
  have hb' : named.params.b.value < named.params.p.value := by
    rw [← hb, ← hsize]
    exact group.curve.b.isLt
  constructor
  case name_eq => exact hname.symm
  case width_eq => exact hlength.symm.trans hwidth.symm
  case modulus_eq => exact hsize.symm
  case a_eq => exact (Nat.mod_eq_of_lt ha').trans ha.symm
  case b_eq => exact (Nat.mod_eq_of_lt hb').trans hb.symm
  case generator_eq => exact hgenerator.symm
  case order_eq =>
    rw [CurveGroup.order, CurveGroup.order, horder, Octets.value_significant]
    rfl
  case orderLength_eq =>
    rw [CurveGroup.orderLength, CurveGroup.orderLength, CurveGroup.orderBits,
      CurveGroup.orderBits, ExplicitGroup.orderBits, horder, Octets.bitLength_significant]
    rfl

theorem isBuiltIn_iff (named : NamedCurve) :
    named.isBuiltIn = true ↔ named.params ∈ DomainParams.nist := by
  cases named <;> decide +kernel

/-- The own arithmetic of a NIST curve and the group built from its table agree. -/
theorem arithmetics_agree {named : NamedCurve} (h : named.params ∈ DomainParams.nist) :
    ∃ own built, named.group = .ok own ∧ named.params.build.value = .ok built ∧
      own.Agrees (.explicit built) := by
  have hbuiltIn := named.isBuiltIn_iff.mpr h
  obtain ⟨built, hbuilt⟩ := named.exists_build
  have hmatches := matches_of_build hbuilt
  have hcoherent := BuiltInGroup.coherent_builtInGroup named
  have hprime : Fact (CurveGroup.builtIn named.builtInGroup).modulus.Prime :=
    ⟨NistModuli.prime named hbuiltIn⟩
  have hprime' : Fact (CurveGroup.explicit built).modulus.Prime := by
    rw [← hmatches.modulus_eq]
    exact hprime
  have hodd : Odd (Nat.card (CurveGroup.explicit built).law.Point) := by
    have hfact : Fact built.curve.field.size.Prime := hprime'
    exact PrimeCurve.odd_card_of_norm (norm_ne_zero_of_build hbuilt)
  refine ⟨.builtIn named.builtInGroup, built, ?_, hbuilt, ?_⟩
  · rw [group, if_pos hbuiltIn]
  · exact hmatches.agrees hcoherent trivial (CurveGroup.multipliesAll_builtIn hcoherent)
      (CurveGroup.multipliesAll_explicit hodd)

/-- The two arithmetics of P-256 agree. -/
theorem arithmetics_agree_nistP256 :
    nistP256.params ∈ DomainParams.nist ∧
      ∃ own built, nistP256.group = .ok own ∧ nistP256.params.build.value = .ok built ∧
        own.Agrees (.explicit built) := by
  have h : nistP256.params ∈ DomainParams.nist := by decide +kernel
  exact ⟨h, arithmetics_agree h⟩

end NamedCurve

end EcpAgreement
