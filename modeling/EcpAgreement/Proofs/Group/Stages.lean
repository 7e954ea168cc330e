import EcpAgreement.Group.Construction
import EcpAgreement.Proofs.Curve.Closure

/-!
# The stages of a construction

A table becomes a field, then a curve over it and then a group on that.  What a
stage gives is determined by its numbers, and it carries the conditions under
which they are accepted.  So each stage is told by one equivalence, which says
what its result consists of, and the conditions for success are read off the
result.  The strings of the modulus and of the order enter without their leading
zeros.
-/

namespace EcpAgreement

/- Powers are those of the natural numbers themselves, whatever else is in scope. -/
attribute [local instance (2000)] instPowNat

namespace PrimeField

variable {p r : Octets} {field : PrimeField}

theorem size_of_modulus_eq (h : field.modulus = p.significant) : field.size = p.value := by
  rw [← field.value_modulus, h, Octets.value_significant]

/-- A field is told by its modulus. -/
theorem eq_of_modulus_eq {other : PrimeField} (h : field.modulus = other.modulus) :
    field = other := by
  have hsize : field.size = other.size := by
    rw [← field.value_modulus, h, other.value_modulus]
  cases field
  cases other
  simp only [mk.injEq]
  exact ⟨h, hsize⟩

/-- A modulus must be short enough for its bits to be counted. -/
theorem ofOctets_eq_ok_iff :
    ofOctets p = .ok field ↔ field.modulus = p.significant ∧ field.width + 7 < 2 ^ 29 := by
  have hlength := Octets.length_significant p
  constructor
  · intro h
    rw [ofOctets] at h
    split at h
    · split at h
      · rename_i hwidth
        split at h
        · obtain rfl := Except.ok.inj h
          have hfieldwidth := Octets.length_suffix p _ p.significantLength_le
          refine ⟨Octets.suffix_significantLength p, ?_⟩
          rw [width, hfieldwidth]
          exact le_precision_iff.mp hwidth
        · contradiction
      · contradiction
    · contradiction
  · rintro ⟨h, hwidth⟩
    have hsize := size_of_modulus_eq h
    have hthree := field.three_lt_size
    have hodd := field.size_odd
    rw [hsize] at hthree hodd
    rw [width, h, hlength] at hwidth
    have hbits : 2 < p.bitLength := Octets.lt_bitLength_iff.mpr hthree
    rw [ofOctets, dif_pos hbits, if_pos (le_precision_iff.mpr hwidth), dif_pos hodd]
    have hsuffix := Octets.suffix_significantLength p
    exact congrArg Except.ok (eq_of_modulus_eq (hsuffix.trans h.symm))

end PrimeField

namespace PrimeCurve

variable {p a b q : Octets} {curve : PrimeCurve} {name : String} {P : Point} {cofactor : ℕ}
  {group : ExplicitGroup}

theorem ofOctets_eq_ok_iff :
    ofOctets p a b = .ok curve ↔
      PrimeField.ofOctets p = .ok curve.field ∧
        curve.field.element? a = some curve.a ∧ curve.field.element? b = some curve.b := by
  constructor
  · intro h
    cases hfield : PrimeField.ofOctets p with
    | error e =>
        simp only [ofOctets, hfield] at h
        contradiction
    | ok field =>
        simp only [ofOctets, hfield, bind, Except.bind] at h
        split at h
        · rename_i u hu
          split at h
          · rename_i v hv
            split at h
            · rw [← Except.ok.inj h]
              exact ⟨rfl, hu, hv⟩
            · contradiction
          · contradiction
        · contradiction
  · rintro ⟨hfield, ha, hb⟩
    have hnonsingular := mt discriminant_eq_zero_iff.mp curve.nonsingular
    simp only [ofOctets, hfield, bind, Except.bind, ha, hb, dif_pos hnonsingular]
    rfl

/-- The numbers of a curve are those that it was made from. -/
theorem eq_of_ofOctets (h : ofOctets p a b = .ok curve) :
    curve.field.size = p.value ∧ curve.field.width = p.significant.length ∧
      curve.a.val = a.value ∧ curve.b.val = b.value := by
  obtain ⟨hfield, ha, hb⟩ := ofOctets_eq_ok_iff.mp h
  obtain ⟨hmodulus, -⟩ := PrimeField.ofOctets_eq_ok_iff.mp hfield
  exact ⟨PrimeField.size_of_modulus_eq hmodulus, congrArg List.length hmodulus,
    (PrimeField.element?_eq_some_iff.mp ha).2.symm,
    (PrimeField.element?_eq_some_iff.mp hb).2.symm⟩

theorem withGenerator_eq_ok_iff :
    curve.withGenerator name P q cofactor = .ok group ↔
      group.name = name ∧ group.curve = curve ∧ group.generator = P ∧
        group.order = q.significant ∧ group.cofactor = cofactor := by
  constructor
  · intro h
    rw [withGenerator] at h
    split at h
    · split at h
      · split at h
        · split at h
          · rw [← Except.ok.inj h]
            exact ⟨rfl, rfl, rfl, Octets.suffix_significantLength q, rfl⟩
          · contradiction
        · contradiction
      · contradiction
    · contradiction
  · rintro ⟨rfl, rfl, rfl, horder, rfl⟩
    have hbits := group.one_lt_bitLength_order
    have hodd := group.order_odd
    rw [horder, Octets.bitLength_significant] at hbits
    rw [horder, Octets.value_significant] at hodd
    rw [withGenerator, dif_pos group.cofactor_eq_one, dif_pos group.contains_generator,
      dif_pos hbits, dif_pos hodd]
    simp only [Octets.suffix_significantLength, ← horder]

/-- A curve becomes a group with cofactor one, a generator on the curve and an odd
order above one, and with nothing else. -/
theorem exists_withGenerator_iff :
    (∃ group, curve.withGenerator name P q cofactor = .ok group) ↔
      cofactor = 1 ∧ curve.contains P = true ∧ q.value % 2 = 1 ∧ 3 ≤ q.value := by
  constructor
  · rintro ⟨group, h⟩
    obtain ⟨-, rfl, rfl, horder, rfl⟩ := withGenerator_eq_ok_iff.mp h
    have hvalue : group.order.value = q.value := by rw [horder, Octets.value_significant]
    have hbits : 2 ^ 1 ≤ group.order.value :=
      Octets.lt_bitLength_iff.mp group.one_lt_bitLength_order
    have hodd := group.order_odd
    rw [hvalue] at hbits hodd
    exact ⟨group.cofactor_eq_one, group.contains_generator, hodd, by omega⟩
  · rintro ⟨hcofactor, hP, hodd, hthree⟩
    have htwo : 2 ^ 1 ≤ q.value := by omega
    rw [withGenerator, dif_pos hcofactor, dif_pos hP, dif_pos (Octets.lt_bitLength_iff.mpr htwo),
      dif_pos hodd]
    exact ⟨_, rfl⟩

end PrimeCurve

/-- The three stages that a table goes through. -/
theorem DomainParams.stages_of_build {params : DomainParams} {group : ExplicitGroup}
    (h : params.build.value = .ok group) :
    ∃ curve generator, PrimeCurve.ofOctets params.p params.a params.b = .ok curve ∧
      curve.point params.x params.y = .ok generator ∧
      curve.withGenerator params.name generator params.q params.cofactor = .ok group := by
  rw [DomainParams.build] at h
  split at h
  · contradiction
  · rename_i curve hcurve
    split at h
    · contradiction
    · rename_i generator hgenerator
      split at h
      · contradiction
      · rename_i built hbuilt
        obtain rfl := Except.ok.inj h
        exact ⟨curve, generator, hcurve, hgenerator, hbuilt⟩

end EcpAgreement
