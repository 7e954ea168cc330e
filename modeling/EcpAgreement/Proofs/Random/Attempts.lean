import EcpAgreement.Proofs.Session.KeyPair
import EcpAgreement.Random.Scalar

/-!
# Attempts at a scalar

A source that is asked again and again for strings of one width gives a sequence
of answers.  Drawing a scalar reads this sequence from its start.  Answers whose
lowest bits, as many as the order has, write no scalar are of no use and cost an
attempt; the first answer of use ends the drawing, and so do a refusal and the
last attempt (`ends_randomScalarWithin`).  The source comes back as it is after
the requests made until then.
-/

namespace EcpAgreement

/- Powers are those of the natural numbers themselves, whatever else is in scope. -/
attribute [local instance (2000)] instPowNat

namespace RandomSource

variable {σ : Type} [RandomSource σ]

/-- The source after a number of requests of one width. -/
def afterRequests (source : σ) (width : ℕ) : ℕ → σ
  | 0 => source
  | n + 1 => afterRequests (draw source width).2 width n

/-- What the source answers after a number of requests of one width. -/
def answer (source : σ) (width n : ℕ) : Option { s : Octets // s.length = width } :=
  (draw (afterRequests source width n) width).1

/-- A count that every request raises by one tells the number of requests. -/
theorem count_afterRequests {width : ℕ} {count : σ → ℕ}
    (h : ∀ source, count (draw source width).2 = count source + 1) (source : σ) (n : ℕ) :
    count (afterRequests source width n) = count source + n := by
  induction n generalizing source with
  | zero => rfl
  | succ n ih =>
      rw [afterRequests, ih, h]
      omega

end RandomSource

open RandomSource (afterRequests answer)

namespace CurveGroup

variable {group : CurveGroup}

theorem order_lt_width (group : CurveGroup) : group.order < 256 ^ group.orderLength := by
  cases group with
  | builtIn group => exact Scalar.value_lt_width _
  | explicit group => exact Scalar.value_lt_width _

/-- The scalar of a group with a given number. -/
def scalarOf (group : CurveGroup) (n : ℕ) : Scalar :=
  ⟨Octets.ofNat group.orderLength n⟩

theorem value_scalarOf {n : ℕ} (h : n < group.order) : (group.scalarOf n).octets.value = n :=
  Octets.value_ofNat_of_lt (Nat.lt_trans h group.order_lt_width)

theorem inRange_scalarOf {n : ℕ} (hpos : 0 < n) (hlt : n < group.order) :
    group.InRange (group.scalarOf n) where
  pos := by rwa [value_scalarOf hlt]
  lt_order := by rwa [value_scalarOf hlt]
  length_eq := Octets.length_ofNat group.orderLength n

theorem InRange.eq_scalarOf {k : Scalar} (h : group.InRange k) :
    k = group.scalarOf k.octets.value :=
  h.eq_of_value_eq (inRange_scalarOf h.pos h.lt_order) (value_scalarOf h.lt_order).symm

/-- How a string is written does not matter, only its number. -/
theorem scalar_eq_scalarOf {s : Octets} (hpos : 0 < s.value) (hlt : s.value < group.order) :
    group.scalar s = .ok (group.scalarOf s.value) :=
  scalar_eq_ok_iff.mpr
    ⟨⟨hpos, hlt⟩, Octets.length_ofNat group.orderLength s.value, value_scalarOf hlt⟩

/-- The numbers from one to the order less one are those of scalars. -/
theorem exists_scalar_iff {s : Octets} :
    (∃ k, group.scalar s = .ok k) ↔ 0 < s.value ∧ s.value < group.order := by
  constructor
  · rintro ⟨k, hk⟩
    exact (scalar_eq_ok_iff.mp hk).1
  · rintro ⟨hpos, hlt⟩
    exact ⟨_, scalar_eq_scalarOf hpos hlt⟩

/-- The number that a draw stands for: its lowest bits, as many as the order
has. -/
def drawnNumber (group : CurveGroup) (s : Octets) : ℕ :=
  s.value % 2 ^ group.orderBits

/-- The draw stands for a number from one to the order less one. -/
def Usable (group : CurveGroup) (s : Octets) : Prop :=
  0 < group.drawnNumber s ∧ group.drawnNumber s < group.order

theorem orderBits_le (group : CurveGroup) : group.orderBits ≤ 8 * group.orderLength :=
  Octets.bits_le_octetsFor group.orderBits

/-- Clearing the bits above the order leaves the number that the draw stands
for. -/
theorem value_clearTop_excessBits {s : Octets} (h : s.length = group.orderLength) :
    (s.clearTop group.excessBits).value = group.drawnNumber s := by
  have hle := group.orderBits_le
  have hexcess : group.excessBits.val = 8 * group.orderLength - group.orderBits := rfl
  have hbits : 8 * s.length - group.excessBits.val = group.orderBits := by
    rw [hexcess, h]
    omega
  rw [Octets.value_clearTop, hbits, drawnNumber]

theorem scalarOfDraw_eq_ok_iff {s : Octets} (h : s.length = group.orderLength) {k : Scalar} :
    group.scalarOfDraw s = .ok k ↔
      group.Usable s ∧
        k.octets.length = group.orderLength ∧ k.octets.value = group.drawnNumber s := by
  rw [scalarOfDraw, scalar_eq_ok_iff, value_clearTop_excessBits h, Usable]

theorem exists_scalarOfDraw_iff {s : Octets} (h : s.length = group.orderLength) :
    (∃ k, group.scalarOfDraw s = .ok k) ↔ group.Usable s := by
  rw [Usable, ← value_clearTop_excessBits h]
  exact exists_scalar_iff

section Drawing

variable {σ : Type} [RandomSource σ]

/-- The first answers of the source are strings of no use. -/
def Wasted (group : CurveGroup) (source : σ) (n : ℕ) : Prop :=
  ∀ i < n, ∃ s, answer source group.orderLength i = some s ∧ ¬group.Usable s.val

/-- How drawing ends, with the source as it is left: by the first answer of use,
by a refusal that comes before it, or because the attempts are used up. -/
inductive Ends (group : CurveGroup) (source : σ) (attempts : ℕ) :
    Except CurveError Scalar × σ → Prop where
  | found {i : ℕ} {s : { s : Octets // s.length = group.orderLength }} {k : Scalar}
      (hi : i < attempts) (hbefore : group.Wasted source i)
      (hs : answer source group.orderLength i = some s) (husable : group.Usable s.val)
      (hlength : k.octets.length = group.orderLength)
      (hvalue : k.octets.value = group.drawnNumber s.val) :
      Ends group source attempts (.ok k, afterRequests source group.orderLength (i + 1))
  | refused {i : ℕ} (hi : i < attempts) (hbefore : group.Wasted source i)
      (hs : answer source group.orderLength i = none) :
      Ends group source attempts
        (.error (.randomGeneration "scalar generation"),
          afterRequests source group.orderLength (i + 1))
  | exhausted (hbefore : group.Wasted source attempts) :
      Ends group source attempts
        (.error (.randomGeneration "scalar generation exhausted its attempts"),
          afterRequests source group.orderLength attempts)

theorem wasted_succ {source : σ} {n : ℕ}
    {s : { s : Octets // s.length = group.orderLength }}
    (hs : answer source group.orderLength 0 = some s) (huseless : ¬group.Usable s.val)
    (h : group.Wasted (RandomSource.draw source group.orderLength).2 n) :
    group.Wasted source (n + 1) := by
  intro i hi
  cases i with
  | zero => exact ⟨s, hs, huseless⟩
  | succ i => exact h i (by omega)

/-- An answer of no use costs one attempt and one request. -/
theorem Ends.succ {source : σ} {attempts : ℕ} {result : Except CurveError Scalar × σ}
    {s : { s : Octets // s.length = group.orderLength }}
    (hs : answer source group.orderLength 0 = some s) (huseless : ¬group.Usable s.val)
    (h : group.Ends (RandomSource.draw source group.orderLength).2 attempts result) :
    group.Ends source (attempts + 1) result := by
  cases h with
  | found hi hbefore hs' husable hlength hvalue =>
      exact .found (Nat.succ_lt_succ hi) (wasted_succ hs huseless hbefore) hs' husable hlength
        hvalue
  | refused hi hbefore hs' =>
      exact .refused (Nat.succ_lt_succ hi) (wasted_succ hs huseless hbefore) hs'
  | exhausted hbefore => exact .exhausted (wasted_succ hs huseless hbefore)

theorem ends_randomScalarWithin (group : CurveGroup) (source : σ) (attempts : ℕ) :
    group.Ends source attempts (group.randomScalarWithin attempts source) := by
  induction attempts generalizing source with
  | zero =>
      rw [randomScalarWithin]
      exact .exhausted fun i hi => absurd hi (Nat.not_lt_zero i)
  | succ attempts ih =>
      have hnone : group.Wasted source 0 := fun i hi => absurd hi (Nat.not_lt_zero i)
      rw [randomScalarWithin]
      split
      · rename_i next hdraw
        have hanswer : answer source group.orderLength 0 = none := congrArg Prod.fst hdraw
        obtain rfl : (RandomSource.draw source group.orderLength).2 = next :=
          congrArg Prod.snd hdraw
        exact .refused (Nat.succ_pos attempts) hnone hanswer
      · rename_i s next hdraw
        have hanswer : answer source group.orderLength 0 = some s := congrArg Prod.fst hdraw
        obtain rfl : (RandomSource.draw source group.orderLength).2 = next :=
          congrArg Prod.snd hdraw
        split
        · rename_i k hk
          obtain ⟨husable, hlength, hvalue⟩ := (scalarOfDraw_eq_ok_iff s.property).mp hk
          exact .found (Nat.succ_pos attempts) hnone hanswer husable hlength hvalue
        · rename_i e he
          have huseless : ¬group.Usable s.val := by
            rw [← exists_scalarOfDraw_iff s.property, he]
            rintro ⟨k, hk⟩
            contradiction
          exact .succ hanswer huseless (ih _)

theorem eq_randomGeneration_of_randomScalar {source : σ} {e : CurveError}
    (h : (group.randomScalar source).1 = .error e) :
    ∃ context, e = .randomGeneration context := by
  have hends := ends_randomScalarWithin group source maxScalarAttempts
  rw [randomScalar] at h
  generalize group.randomScalarWithin maxScalarAttempts source = result at h hends
  cases hends with
  | found => contradiction
  | refused => exact ⟨_, (Except.error.inj h).symm⟩
  | exhausted => exact ⟨_, (Except.error.inj h).symm⟩

/-- The first answer of use, which comes before the attempts are used up, stands for
a given number. -/
def DrawsNumber (group : CurveGroup) (source : σ) (n : ℕ) : Prop :=
  ∃ i < maxScalarAttempts, ∃ s, group.Wasted source i ∧
    answer source group.orderLength i = some s ∧ group.Usable s.val ∧
      group.drawnNumber s.val = n

theorem DrawsNumber.range {source : σ} {n : ℕ} (h : group.DrawsNumber source n) :
    0 < n ∧ n < group.order := by
  obtain ⟨i, hi, s, hwasted, hs, husable, rfl⟩ := h
  exact husable

/-- Only what comes before the first answer of use is wasted. -/
theorem Wasted.le_of_usable {source : σ} {i n : ℕ}
    {s : { s : Octets // s.length = group.orderLength }} (h : group.Wasted source n)
    (hs : answer source group.orderLength i = some s) (husable : group.Usable s.val) :
    n ≤ i := by
  apply Nat.le_of_not_lt
  intro hlt
  obtain ⟨t, ht, huseless⟩ := h i hlt
  obtain rfl : s = t := Option.some.inj (hs.symm.trans ht)
  exact huseless husable

/-- What is drawn is the scalar with the number of the first answer of use. -/
theorem randomScalar_of_drawsNumber {source : σ} {n : ℕ} (h : group.DrawsNumber source n) :
    (group.randomScalar source).1 = .ok (group.scalarOf n) := by
  obtain ⟨i, hi, s, hwasted, hs, husable, rfl⟩ := h
  have hends := ends_randomScalarWithin group source maxScalarAttempts
  rw [randomScalar]
  generalize group.randomScalarWithin maxScalarAttempts source = result at hends
  cases hends with
  | @found j t k hj hbefore ht husable' hlength hvalue =>
      obtain rfl : i = j :=
        Nat.le_antisymm (hwasted.le_of_usable ht husable') (hbefore.le_of_usable hs husable)
      obtain rfl : s = t := Option.some.inj (hs.symm.trans ht)
      have hk := (scalarOfDraw_eq_ok_iff s.property).mpr ⟨husable, hlength, hvalue⟩
      rw [← hvalue, ← (inRange_of_scalar hk).eq_scalarOf]
  | @refused j hj hbefore hnone =>
      rcases Nat.lt_or_eq_of_le (hbefore.le_of_usable hs husable) with hlt | rfl
      · obtain ⟨t, ht, -⟩ := hwasted j hlt
        rw [hnone] at ht
        contradiction
      · rw [hnone] at hs
        contradiction
  | exhausted hbefore => exact absurd hi (Nat.not_lt_of_le (hbefore.le_of_usable hs husable))

end Drawing

end CurveGroup

end EcpAgreement
