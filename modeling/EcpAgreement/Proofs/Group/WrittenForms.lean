import EcpAgreement.Proofs.Group.Codec

/-!
# What written forms tell

Over a prime the public values that a group reads are the written finite points
of its curve.  A point that is written in full is told by what is written, and
one of which the first coordinate alone is written is told up to its opposite.
The opposite of a public value, which has the same first coordinate, is read as
the opposite point, unless that is the point itself.
-/

namespace EcpAgreement.CurveGroup

variable {group : CurveGroup} {value value' : Octets} {P : Point} {s t : Secret}

theorem affine_of_encode_write {A : group.law.Point} {xOnly : Bool}
    (hs : group.encode (group.write A) xOnly = .ok s) :
    ∃ x y, group.write A = .affine x y ∧ x.length = group.fieldElementLength ∧
      s = ⟨if xOnly then x else x ++ y⟩ := by
  cases hA : group.write A with
  | identity =>
      rw [hA, encode_identity] at hs
      contradiction
  | affine x y =>
      obtain ⟨hx, hy⟩ := length_of_write hA
      rw [hA, encode_affine hx hy] at hs
      exact ⟨x, y, rfl, hx, (Except.ok.inj hs).symm⟩

/-- What is read tells what was read. -/
theorem Coherent.decode_injective (h : group.Coherent) (hvalue : group.decode value = .ok P)
    (hvalue' : group.decode value' = .ok P) : value = value' := by
  obtain ⟨hlength, rfl⟩ := h.halves_of_decode hvalue
  obtain ⟨hlength', heq⟩ := h.halves_of_decode hvalue'
  have hencode := encode_halves hlength
  rw [heq, encode_halves hlength'] at hencode
  exact (Secret.mk.inj (Except.ok.inj hencode)).symm

variable [Fact group.modulus.Prime] {A B : group.law.Point}

theorem Coherent.write_injective (h : group.Coherent) : Function.Injective group.write :=
  writePoint_injective h.size_le

/-! ## Public values -/

/-- A string that holds a solution is read as a finite point of the curve. -/
theorem Coherent.exists_write_of_holdsSolution (h : group.Coherent)
    (hlength : value.length = 2 * group.fieldElementLength)
    (hsolution : group.HoldsSolution value) :
    ∃ A : group.law.Point, A ≠ 0 ∧ group.decode value = .ok (group.write A) := by
  have hcoordinates := (coordinates_halves_iff hlength).mpr hsolution
  obtain ⟨A, hA⟩ := h.coordinates_iff_exists_write.mp hcoordinates
  refine ⟨A, ?_, ?_⟩
  · rintro rfl
    contradiction
  · rw [hA]
    exact h.decode_of_holdsSolution hlength hsolution

theorem Coherent.exists_write_of_decode (h : group.Coherent)
    (hP : group.decode value = .ok P) :
    ∃ A : group.law.Point, A ≠ 0 ∧ group.write A = P := by
  rcases h.decode_cases value with ⟨-, hdecode⟩ | ⟨hlength, hsolution, -⟩ | ⟨-, -, hdecode⟩
  · rw [hdecode] at hP
    contradiction
  · obtain ⟨A, hA, hdecode⟩ := h.exists_write_of_holdsSolution hlength hsolution
    rw [hP] at hdecode
    exact ⟨A, hA, (Except.ok.inj hdecode).symm⟩
  · rw [hdecode] at hP
    contradiction

theorem Coherent.decode_eq_iff (h : group.Coherent)
    (hA : group.decode value = .ok (group.write A))
    (hB : group.decode value' = .ok (group.write B)) : value = value' ↔ A = B := by
  constructor
  · rintro rfl
    rw [hA] at hB
    exact h.write_injective (Except.ok.inj hB)
  · rintro rfl
    exact h.decode_injective hA hB

/-! ## Secrets -/

/-- The points with one first coordinate are equal or opposite. -/
theorem Coherent.first_eq_iff (h : group.Coherent) {x y u v : Octets}
    (hA : group.write A = .affine x y) (hB : group.write B = .affine u v) :
    x = u ↔ A = B ∨ A = -B := by
  cases A with
  | zero => contradiction
  | some X Y k =>
      cases B with
      | zero => contradiction
      | some U V l =>
          obtain ⟨rfl, rfl⟩ := Point.affine.inj hA
          obtain ⟨rfl, rfl⟩ := Point.affine.inj hB
          rw [WeierstrassCurve.Affine.Point.neg_some, WeierstrassCurve.Affine.Point.some.injEq,
            WeierstrassCurve.Affine.Point.some.injEq]
          constructor
          · intro hx
            obtain rfl := ofNat_val_injective h.size_le hx
            rcases WeierstrassCurve.Affine.Y_eq_of_X_eq k.1 l.1 rfl with hy | hy
            · exact Or.inl ⟨rfl, hy⟩
            · exact Or.inr ⟨rfl, hy⟩
          · rintro (⟨rfl, -⟩ | ⟨rfl, -⟩)
            · rfl
            · rfl

theorem Coherent.encode_eq_iff (h : group.Coherent)
    (hs : group.encode (group.write A) false = .ok s)
    (ht : group.encode (group.write B) false = .ok t) : s = t ↔ A = B := by
  obtain ⟨x, y, hA, hx, rfl⟩ := affine_of_encode_write hs
  obtain ⟨u, v, hB, hu, rfl⟩ := affine_of_encode_write ht
  rw [← h.write_injective.eq_iff, hA, hB]
  constructor
  · intro heq
    obtain ⟨rfl, rfl⟩ := List.append_inj (Secret.mk.inj heq) (hx.trans hu.symm)
    rfl
  · intro heq
    obtain ⟨rfl, rfl⟩ := Point.affine.inj heq
    rfl

theorem Coherent.encode_first_eq_iff (h : group.Coherent)
    (hs : group.encode (group.write A) true = .ok s)
    (ht : group.encode (group.write B) true = .ok t) : s = t ↔ A = B ∨ A = -B := by
  obtain ⟨x, y, hA, -, rfl⟩ := affine_of_encode_write hs
  obtain ⟨u, v, hB, -, rfl⟩ := affine_of_encode_write ht
  rw [← h.first_eq_iff hA hB, Secret.mk.injEq]
  rfl

/-! ## Opposite values -/

/-- The public value with the second coordinate negated. -/
def opposite (group : CurveGroup) (value : Octets) : Octets :=
  value.take group.fieldElementLength ++
    Octets.ofNat group.fieldElementLength
      (group.modulus - Octets.value (value.drop group.fieldElementLength))

/-- A point of odd order is not on the first axis, so that its second coordinate
has another residue for its opposite. -/
theorem Coherent.write_neg (h : group.Coherent) (hodd : Odd (addOrderOf A)) {x y : Octets}
    (hA : group.write A = .affine x y) :
    group.write (-A) =
      .affine x (Octets.ofNat group.fieldElementLength (group.modulus - y.value)) := by
  cases A with
  | zero => contradiction
  | some X Y k =>
      obtain ⟨rfl, rfl⟩ := Point.affine.inj hA
      have hY : Y ≠ 0 := by
        intro hzero
        rw [(addOrderOf_some_eq_two_iff h.two_ne_zero k).mpr hzero] at hodd
        contradiction
      have hne : NeZero Y := ⟨hY⟩
      have hneg : (-Y).val = group.modulus - Y.val := ZMod.val_neg_of_ne_zero Y
      rw [WeierstrassCurve.Affine.Point.neg_some,
        Octets.value_ofNat_of_lt ((ZMod.val_lt Y).trans_le h.size_le), ← hneg]
      simp only [write, writePoint, negY_shortWeierstrass]

theorem Coherent.decode_opposite (h : group.Coherent) (hodd : Odd (addOrderOf A))
    (hA : group.decode value = .ok (group.write A)) :
    group.decode (group.opposite value) = .ok (group.write (-A)) := by
  obtain ⟨-, hhalves⟩ := h.halves_of_decode hA
  have hwrite := h.write_neg hodd hhalves
  have hcoordinates := h.coordinates_iff_exists_write.mpr ⟨_, hwrite⟩
  have hpoint := h.pointOfAffine_eq_ok_iff.mpr ⟨rfl, hcoordinates⟩
  rw [opposite, decode_append hcoordinates.length_x hcoordinates.length_y, hpoint, hwrite]
  rfl

end EcpAgreement.CurveGroup
