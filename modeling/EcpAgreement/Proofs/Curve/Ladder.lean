import EcpAgreement.Octets.Lemmas
import EcpAgreement.Proofs.Curve.PointGroup
import EcpAgreement.Proofs.Field.Residue

/-!
# Multiplication by a string of bits

What each round of a multiplication keeps, and what a whole multiplication
therefore gives.  Over every commutative ring the gathered triple stays on the
curve, and at infinity if it starts there and the point is there.  Over a field
it is, after the bits of `n`, a multiple of the triple of `n • P`; it can become
`(0, 0, 0)` only where two gathered points differ by a point of order two, which
no multiple of a point of odd order is.
-/

namespace EcpAgreement.Triple

/-! ## Rounds on the curve -/

section Closure

variable {R : Type} [CommRing R] {a b : R}

theorem onCurve_round {p gathered : Triple R} (hp : OnCurve a b p)
    (hgathered : OnCurve a b gathered) (bit : Bool) :
    OnCurve a b (round a (3 * b) p gathered bit) := by
  have hdouble := onCurve_double hgathered
  cases bit with
  | false => exact hdouble
  | true => exact onCurve_add hdouble hp

theorem onCurve_multiple {p infinity : Triple R} (hp : OnCurve a b p)
    (hinfinity : OnCurve a b infinity) (bits : List Bool) :
    OnCurve a b (multiple p a (3 * b) infinity bits) := by
  rw [multiple]
  induction bits generalizing infinity with
  | nil => exact hinfinity
  | cons bit rest ih =>
      rw [List.foldl_cons]
      exact ih (onCurve_round hp hinfinity bit)

end Closure

/-! ## Rounds at infinity -/

section Infinity

variable {R : Type} [CommRing R] {a b3 : R}

/-- A multiple of the triple of the point at infinity, the zero triple included. -/
def AtInfinity (t : Triple R) : Prop :=
  t.x = 0 ∧ t.z = 0

theorem atInfinity_double {t : Triple R} (h : t.AtInfinity) :
    (double a b3 t).AtInfinity := by
  obtain ⟨hx, hz⟩ := h
  constructor
  · simp only [double, hx, hz]
    ring
  · simp only [double, hz]
    ring

theorem atInfinity_add {p q : Triple R} (hp : p.AtInfinity) (hq : q.AtInfinity) :
    (add a b3 p q).AtInfinity := by
  obtain ⟨hpx, hpz⟩ := hp
  obtain ⟨hqx, hqz⟩ := hq
  constructor
  · simp only [add, hpx, hpz, hqx, hqz]
    ring
  · simp only [add, hpx, hpz, hqx, hqz]
    ring

theorem atInfinity_round {p gathered : Triple R} (hp : p.AtInfinity)
    (hgathered : gathered.AtInfinity) (bit : Bool) :
    (round a b3 p gathered bit).AtInfinity := by
  have hdouble : AtInfinity (double a b3 gathered) := atInfinity_double hgathered
  cases bit with
  | false => exact hdouble
  | true => exact atInfinity_add hdouble hp

theorem atInfinity_multiple {p infinity : Triple R} (hp : p.AtInfinity)
    (hinfinity : infinity.AtInfinity) (bits : List Bool) :
    (multiple p a b3 infinity bits).AtInfinity := by
  rw [multiple]
  induction bits generalizing infinity with
  | nil => exact hinfinity
  | cons bit rest ih =>
      rw [List.foldl_cons]
      exact ih (atInfinity_round hp hinfinity bit)

end Infinity

/-! ## Rounds in the group -/

section Group

variable {F : Type} [Field F] [DecidableEq F] {a b : F}

/-- A triple gathers `n • P` if it is a multiple of the triple of that point,
and not by zero when `P` has odd order. -/
def Gathers (P : (shortWeierstrass a b).Point) (n : ℕ) (t : Triple F) : Prop :=
  ∃ c, t = scale c (ofPoint (n • P)) ∧ (Odd (addOrderOf P) → c ≠ 0)

theorem gathers_zero (P : (shortWeierstrass a b).Point) :
    Gathers P 0 ⟨0, 1, 0⟩ := by
  refine ⟨1, ?_, ?_⟩
  · rw [zero_nsmul, scale_one]
    rfl
  · intro _
    exact one_ne_zero

theorem addOrderOf_ne_two_of_mem {P Q : (shortWeierstrass a b).Point}
    (hodd : Odd (addOrderOf P)) (hmem : Q ∈ AddSubgroup.zmultiples P) :
    addOrderOf Q ≠ 2 := by
  intro htwo
  have hdvd : addOrderOf Q ∣ addOrderOf P := addOrderOf_dvd_of_mem_zmultiples hmem
  rw [htwo] at hdvd
  exact Nat.not_even_iff_odd.mpr hodd (even_iff_two_dvd.mpr hdvd)

theorem gathers_double (htwo : (2 : F) ≠ 0) (hdisc : 4 * a ^ 3 + 27 * b ^ 2 ≠ 0)
    {P : (shortWeierstrass a b).Point} {n : ℕ} {t : Triple F} (h : Gathers P n t) :
    Gathers P (2 * n) (double a (3 * b) t) := by
  obtain ⟨c, rfl, hc⟩ := h
  obtain ⟨d, hdouble, hd⟩ := exists_scale_double htwo hdisc (n • P)
  refine ⟨c ^ 4 * d, ?_, ?_⟩
  · rw [double_scale, hdouble, scale_scale, two_mul, add_nsmul]
  · intro hodd
    exact mul_ne_zero (pow_ne_zero 4 (hc hodd)) hd

theorem gathers_add (htwo : (2 : F) ≠ 0) (hdisc : 4 * a ^ 3 + 27 * b ^ 2 ≠ 0)
    {P : (shortWeierstrass a b).Point} {n : ℕ} {t : Triple F} (h : Gathers P n t) :
    Gathers P (n + 1) (add a (3 * b) t (ofPoint P)) := by
  obtain ⟨c, rfl, hc⟩ := h
  obtain ⟨d, hadd, hd⟩ := exists_scale_add htwo hdisc (n • P) P
  refine ⟨c ^ 2 * d, ?_, ?_⟩
  · rw [← scale_one (ofPoint P), add_scale, mul_one, hadd, scale_scale, succ_nsmul]
  · intro hodd
    refine mul_ne_zero (pow_ne_zero 2 (hc hodd)) ?_
    intro hzero
    have hmem : n • P - P ∈ AddSubgroup.zmultiples P :=
      sub_mem (AddSubgroup.nsmul_mem_zmultiples P n) (AddSubgroup.mem_zmultiples P)
    exact addOrderOf_ne_two_of_mem hodd hmem (hd.mp hzero)

theorem gathers_round (htwo : (2 : F) ≠ 0) (hdisc : 4 * a ^ 3 + 27 * b ^ 2 ≠ 0)
    {P : (shortWeierstrass a b).Point} {n : ℕ} {t : Triple F} (h : Gathers P n t)
    (bit : Bool) :
    Gathers P (2 * n + bit.toNat) (round a (3 * b) (ofPoint P) t bit) := by
  have hdouble := gathers_double htwo hdisc h
  cases bit with
  | false => exact hdouble
  | true => exact gathers_add htwo hdisc hdouble

/-- Every round goes on from whatever multiple was gathered before it. -/
theorem gathers_multiple (htwo : (2 : F) ≠ 0) (hdisc : 4 * a ^ 3 + 27 * b ^ 2 ≠ 0)
    (P : (shortWeierstrass a b).Point) (bits : List Bool) :
    Gathers P (Octets.bitsValue bits)
      (multiple (ofPoint P) a (3 * b) ⟨0, 1, 0⟩ bits) := by
  have hfold : ∀ (bits : List Bool) (n : ℕ) (t : Triple F), Gathers P n t →
      Gathers P (bits.foldl (fun n bit => 2 * n + bit.toNat) n)
        (bits.foldl (round a (3 * b) (ofPoint P)) t) := by
    intro bits
    induction bits with
    | nil =>
        intro n t h
        exact h
    | cons bit rest ih =>
        intro n t h
        rw [List.foldl_cons, List.foldl_cons]
        exact ih _ _ (gathers_round htwo hdisc h bit)
  exact hfold bits 0 ⟨0, 1, 0⟩ (gathers_zero P)

/-- A triple at infinity that is not zero shows that the bits kill the point. -/
theorem nsmul_eq_zero_of_multiple (htwo : (2 : F) ≠ 0)
    (hdisc : 4 * a ^ 3 + 27 * b ^ 2 ≠ 0) {P : (shortWeierstrass a b).Point}
    {bits : List Bool}
    (hz : (multiple (ofPoint P) a (3 * b) ⟨0, 1, 0⟩ bits).z = 0)
    (hy : (multiple (ofPoint P) a (3 * b) ⟨0, 1, 0⟩ bits).y ≠ 0) :
    Octets.bitsValue bits • P = 0 := by
  obtain ⟨c, hgathered, -⟩ := gathers_multiple htwo hdisc P bits
  rw [hgathered] at hz hy
  have hc : c ≠ 0 := left_ne_zero_of_mul hy
  cases hpoint : Octets.bitsValue bits • P with
  | zero => rfl
  | some x y h =>
      rw [hpoint] at hz
      have hone : c * 1 = 0 := hz
      rw [mul_one] at hone
      exact absurd hone hc

end Group

/-! ## Triples of bounded numbers -/

section Residues

variable {m : ℕ}

/-- The triple of the residue classes. -/
def residues (t : Triple (Fin m)) : Triple (ZMod m) where
  x := residue t.x
  y := residue t.y
  z := residue t.z

theorem residues_add (a b3 : Fin m) (p q : Triple (Fin m)) :
    residues (add a b3 p q) =
      add (residue a) (residue b3) (residues p) (residues q) := by
  simp only [residues, add, residue_add, residue_sub, residue_mul]

theorem residues_double (a b3 : Fin m) (p : Triple (Fin m)) :
    residues (double a b3 p) = double (residue a) (residue b3) (residues p) := by
  simp only [residues, double, residue_add, residue_sub, residue_mul]

theorem residues_round (a b3 : Fin m) (p gathered : Triple (Fin m)) (bit : Bool) :
    residues (round a b3 p gathered bit) =
      round (residue a) (residue b3) (residues p) (residues gathered) bit := by
  cases bit with
  | false => exact residues_double a b3 gathered
  | true =>
      have hdouble := residues_double a b3 gathered
      have hsum := residues_add a b3 (double a b3 gathered) p
      rw [hdouble] at hsum
      exact hsum

theorem residues_multiple (a b3 : Fin m) (p infinity : Triple (Fin m)) (bits : List Bool) :
    residues (multiple p a b3 infinity bits) =
      multiple (residues p) (residue a) (residue b3) (residues infinity) bits := by
  simp only [multiple]
  induction bits generalizing infinity with
  | nil => rfl
  | cons bit rest ih =>
      rw [List.foldl_cons, List.foldl_cons, ih, residues_round]

end Residues

end EcpAgreement.Triple
