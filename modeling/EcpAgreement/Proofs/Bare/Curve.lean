import EcpAgreement.Group.Construction
import EcpAgreement.Proofs.Bare.Octets
import EcpAgreement.Proofs.Group.Stages

/-!
# Curves without bounds

Fields, curves and groups as their numbers alone.  What the records of the library
prove about their entries is not known here: each construction computes its
entries, and each operation relies on them as they are, so that a wrong width or
an empty order would leave it without a result.  Numbers are computed with modulo an
odd number, and a number that is not below it has no residue.

The bits of the machine words for a modulus are a product in thirty-two bits, and this
is the only step that ever fails: where overflow is checked, a modulus whose length modulo
`2 ^ 29` is one of the last seven leaves every construction over it without a result
(`Overflows`).  In all other cases a construction comes to the numbers of what the library
constructs, and every operation on such numbers to the result that the library gives.  The
operations rely on it that the bits of an accepted modulus were counted without wrapping
around.
-/

namespace EcpAgreement.Bare

/-- A computation that may be refused for a reason, and has no result when one of
its steps has none. -/
abbrev Evaluation (ε α : Type) : Type := ExceptT ε Option α

namespace Evaluation

variable {ε α β : Type}

/-- The computation that comes to a result. -/
def result (r : Except ε α) : Evaluation ε α :=
  ExceptT.mk (some r)

/-- The computation with a step that has no result. -/
def stuck : Evaluation ε α :=
  ExceptT.mk none

@[simp]
theorem run_result (r : Except ε α) : (result r).run = some r :=
  rfl

@[simp]
theorem run_stuck : (stuck : Evaluation ε α).run = none :=
  rfl

@[simp]
theorem liftM_none : (liftM (none : Option α) : Evaluation ε α) = stuck :=
  rfl

@[simp]
theorem stuck_bind (f : α → Evaluation ε β) : stuck >>= f = stuck :=
  rfl

@[simp]
theorem liftM_some (a : α) : (liftM (some a) : Evaluation ε α) = result (.ok a) :=
  rfl

@[simp]
theorem liftM_except (r : Except ε α) : (liftM r : Evaluation ε α) = result r :=
  rfl

@[simp]
theorem pure_eq (a : α) : (pure a : Evaluation ε α) = result (.ok a) :=
  rfl

@[simp]
theorem throw_eq (e : ε) : (throw e : Evaluation ε α) = result (.error e) :=
  rfl

@[simp]
theorem ok_bind (a : α) (f : α → Evaluation ε β) : result (.ok a) >>= f = f a :=
  rfl

@[simp]
theorem error_bind (e : ε) (f : α → Evaluation ε β) :
    result (.error e) >>= f = result (.error e) :=
  rfl

/-- Results follow each other as they do without computing. -/
theorem result_bind {r : Except ε α} {f : α → Evaluation ε β} {g : α → Except ε β}
    (h : ∀ a, r = .ok a → f a = result (g a)) : result r >>= f = result (r >>= g) := by
  cases r with
  | error e => rfl
  | ok a => exact h a rfl

end Evaluation

open Evaluation

/-! ## Scalars -/

/-- Reads a multiplier that is at least one and below the order `q`. -/
def belowOrder (s q : Octets) (context : String) : Evaluation CurveError Scalar := do
  let width := Octets.octetsFor (← bitLength q)
  let q ← suffix q width
  match ← leftPad? s width with
  | none => throw (.scalarRange context)
  | some padded =>
      if (← less padded q) && padded.isNonzero then
        return ⟨padded⟩
      else
        throw (.scalarRange context)

theorem belowOrder_eq (s q : Octets) (context : String) :
    belowOrder s q context = result (Scalar.belowOrder s q context) := by
  have hsuffix : suffix q (Octets.octetsFor q.bitLength) = some (Scalar.bound q) :=
    suffix_of_le q.significantLength_le
  rw [Scalar.belowOrder]
  split
  · rename_i hpad
    have hnone : s.leftPad? (Octets.octetsFor q.bitLength) = none := hpad
    simp only [belowOrder, bitLength_eq, liftM_some, ok_bind, hsuffix, leftPad?_eq, hnone,
      throw_eq]
  · rename_i padded hpad
    have hsome : s.leftPad? (Octets.octetsFor q.bitLength) = some padded := hpad
    have hless := less_of_length_eq (Scalar.length_eq_bound hpad)
    simp only [belowOrder, bitLength_eq, liftM_some, ok_bind, hsuffix, leftPad?_eq, hsome, hless,
      pure_eq, throw_eq]
    split
    · rfl
    · rfl

/-! ## Fields -/

/-- A modulus as octets, with their number, and as a number.  Residues are held in
machine words, which have octets of their own. -/
structure Field where
  width : ℕ
  modulus : Octets
  wordOctets : ℕ
  size : ℕ

/-- The residue of a number, which must be in range. -/
def residue (size n : ℕ) : Option (Fin size) :=
  if h : n < size then some ⟨n, h⟩ else none

/-- The number as a modulus, which must be odd. -/
def oddModulus (n : ℕ) : Option ℕ :=
  if n % 2 = 1 then some n else none

theorem residue_of_lt {size n : ℕ} (h : n < size) : residue size n = some ⟨n, h⟩ :=
  dif_pos h

theorem oddModulus_of_odd {n : ℕ} (h : n % 2 = 1) : oddModulus n = some n :=
  if_pos h

/-- The bits of the machine words for a number of octets. -/
def precision [OverflowChecks] (width : ℕ) : Option UInt32 :=
  times (PrimeField.words width) 64

/-- The bits of the machine words for a modulus are more than can be counted, and this
is checked. -/
def Overflows [OverflowChecks] (p : Octets) : Prop :=
  OverflowChecks.enabled = true ∧ 2 ^ 29 ≤ p.significant.length % 2 ^ 29 + 7

theorem precision_eq_none_iff [OverflowChecks] {width : ℕ} :
    precision width = none ↔
      OverflowChecks.enabled = true ∧ 2 ^ 29 ≤ width % 2 ^ 29 + 7 := by
  have hconst : (64 : UInt32).toNat = 64 := rfl
  have hbits : UInt32.size ≤ (PrimeField.words width).toNat * 64 ↔
      2 ^ 29 ≤ width % 2 ^ 29 + 7 := by
    rw [PrimeField.toNat_words, UInt32.size]
    omega
  rw [precision, times_eq_none_iff, hconst, hbits]

theorem overflows_iff [OverflowChecks] {p : Octets} :
    Overflows p ↔ precision p.significantLength = none := by
  rw [Overflows, precision_eq_none_iff, Octets.length_significant]

theorem precision_of_not_overflows [OverflowChecks] {p : Octets} (h : ¬Overflows p) :
    precision p.significantLength = some (PrimeField.precision p.significantLength) :=
  times_of_ne_none (mt overflows_iff.mpr h)

/-- Bits that are counted without wrapping around fill whole words. -/
theorem precision_of_lt [OverflowChecks] {width : ℕ} (h : width + 7 < 2 ^ 29) :
    ∃ bits, precision width = some bits ∧ bits.toNat / 8 = Octets.wordAligned width := by
  have hcounted : precision width ≠ none := by
    rw [ne_eq, precision_eq_none_iff]
    omega
  refine ⟨PrimeField.precision width, times_of_ne_none hcounted, ?_⟩
  rw [PrimeField.precision_of_lt h]
  omega

namespace Field

/-- The numbers of a field. -/
abbrev of (field : PrimeField) : Field where
  width := field.width
  modulus := field.modulus
  wordOctets := Octets.wordAligned field.width
  size := field.size

/-- The field whose modulus a string writes. -/
def ofOctets [OverflowChecks] (p : Octets) : Evaluation CurveError Field := do
  let bits ← bitLength p
  CurveError.requireParameter (decide (2 < bits)) "p" "field prime must exceed 3"
  let width := Octets.octetsFor bits
  let modulus ← suffix p width
  let wordOctets := (← precision width).toNat / 8
  CurveError.requireParameter (decide (modulus.length ≤ wordOctets)) "p" "cannot be decoded"
  CurveError.requireParameter (decide (modulus.value % 2 = 1)) "p" "field prime must be odd"
  return {
    width := width
    modulus := modulus
    wordOctets := wordOctets
    size := ← oddModulus modulus.value }

/-- The element that a string writes, if it has the width of the modulus and a
smaller number. -/
def element [OverflowChecks] (field : Field) (s : Octets) : Option (Option (Fin field.size)) := do
  if s.length ≠ field.width then
    return none
  if !(← less s field.modulus) then
    return none
  if (← precision field.width).toNat / 8 < s.length then
    return none
  return some (← residue field.size s.value)

/-- The string that writes an element. -/
def toOctets (field : Field) (e : Fin field.size) : Option Octets :=
  fitWidth (Octets.ofNat field.wordOctets e.val) field.width

theorem ofOctets_of_not_overflows [OverflowChecks] {p : Octets} (h : ¬Overflows p) :
    ofOctets p = result ((PrimeField.ofOctets p).map of) := by
  have hwidth : Octets.octetsFor p.bitLength = p.significantLength := rfl
  have hsuffix := suffix_of_le p.significantLength_le
  simp only [ofOctets, bitLength_eq, liftM_some, ok_bind, liftM_except, hwidth, hsuffix,
    precision_of_not_overflows h, Octets.length_suffix, Octets.value_suffix_significantLength,
    PrimeField.ofOctets, CurveError.requireParameter]
  by_cases hbits : 2 < p.bitLength
  · by_cases hfits :
        p.significantLength ≤ (PrimeField.precision p.significantLength).toNat / 8
    · have hcounted := PrimeField.precision_of_lt (PrimeField.le_precision_iff.mp hfits)
      have hwords : (PrimeField.precision p.significantLength).toNat / 8 =
          Octets.wordAligned p.significantLength := by
        omega
      rw [hwords] at hfits
      by_cases hodd : p.value % 2 = 1
      · simp [hbits, hodd, hfits, hwords, oddModulus_of_odd, Except.map, of, PrimeField.width]
      · simp [hbits, hodd, hfits, hwords, Except.map]
    · simp [hbits, hfits, Except.map]
  · simp [hbits, Except.map]

/-- A modulus of so many octets is above three, so that its words are counted. -/
theorem ofOctets_of_overflows [OverflowChecks] {p : Octets} (h : Overflows p) :
    ofOctets p = stuck := by
  have hwidth : Octets.octetsFor p.bitLength = p.significantLength := rfl
  have hsuffix := suffix_of_le p.significantLength_le
  have hbits : 2 < p.bitLength := by
    have hlength := h.2
    rw [Octets.length_significant, ← hwidth, Octets.octetsFor] at hlength
    omega
  simp only [ofOctets, bitLength_eq, liftM_some, ok_bind, liftM_except, hwidth, hsuffix,
    overflows_iff.mp h, CurveError.requireParameter]
  simp [hbits]

variable {field : PrimeField}

/-- Behind the test of the length, strings of one length are compared, and behind the
comparison the number is in range. -/
theorem element_of [OverflowChecks] (h : field.width + 7 < 2 ^ 29) (s : Octets) :
    (of field).element s = some (field.element? s) := by
  rw [element, PrimeField.element?]
  by_cases hlength : s.length = field.modulus.length
  · have hwidth : s.length = (of field).width := hlength
    obtain ⟨bits, hprecision, hwords⟩ := precision_of_lt h
    have hbits : precision (of field).width = some bits := hprecision
    have hfits : ¬bits.toNat / 8 < s.length := by
      rw [hwords, hwidth]
      exact Nat.not_lt.mpr (Octets.le_wordAligned _)
    have hless : less s (of field).modulus = some (s.less field.modulus hlength) :=
      less_of_length_eq hlength
    rw [if_neg (not_not_intro hwidth), dif_pos hlength, hless]
    by_cases hlt : s.less field.modulus hlength = true
    · have hsize : s.value < field.size :=
        field.value_modulus ▸ (Octets.less_iff hlength).mp hlt
      have hresidue : residue (of field).size s.value = some ⟨s.value, hsize⟩ :=
        residue_of_lt hsize
      rw [dif_pos hlt, hlt, hbits, hresidue]
      simp only [Option.bind_eq_bind, Option.bind_some, Bool.not_true, Bool.false_eq_true,
        if_false, if_neg hfits]
      rfl
    · rw [dif_neg hlt, eq_false_of_ne_true hlt]
      rfl
  · have hwidth : s.length ≠ (of field).width := hlength
    rw [if_pos hwidth, dif_neg hlength]
    rfl

theorem residue_zero : residue field.size 0 = some field.zero :=
  residue_of_lt _

theorem residue_one : residue field.size 1 = some field.one :=
  residue_of_lt _

theorem toOctets_of (e : field.Element) :
    (of field).toOctets e = some (field.toOctets e) :=
  fitWidth_eq _ _

end Field

/-! ## Curves -/

/-- A field with two residues. -/
structure Curve where
  field : Field
  a : Fin field.size
  b : Fin field.size

namespace Curve

/-- The numbers of a curve. -/
abbrev of (curve : PrimeCurve) : Curve where
  field := .of curve.field
  a := curve.a
  b := curve.b

/-- The curve with the given modulus and coefficients. -/
def ofOctets [OverflowChecks] (p a b : Octets) : Evaluation CurveError Curve := do
  let field ← Field.ofOctets p
  let some a ← field.element a
    | throw (.parameter "a" "not a canonical field element")
  let some b ← field.element b
    | throw (.parameter "b" "not a canonical field element")
  let zero ← residue field.size 0
  CurveError.requireParameter (decide (PrimeCurve.discriminant zero a b ≠ zero)) "a, b"
    "curve is singular"
  return { field := field, a := a, b := b }

/-- Whether two residues satisfy the curve equation. -/
def satisfies (curve : Curve) (x y : Fin curve.field.size) : Bool :=
  y * y == x * x * x + curve.a * x + curve.b

/-- Whether a point is on the curve. -/
def contains [OverflowChecks] (curve : Curve) (point : Point) : Option Bool := do
  match point with
  | .identity => return false
  | .affine x y =>
      match ← curve.field.element x, ← curve.field.element y with
      | some x, some y => return curve.satisfies x y
      | _, _ => return false

/-- The point with the given coordinates, if it is on the curve. -/
def point [OverflowChecks] (curve : Curve) (x y : Octets) : Evaluation CurveError Point := do
  CurveError.requireLength "affine x-coordinate" x.length curve.field.width
  CurveError.requireLength "affine y-coordinate" y.length curve.field.width
  CurveError.requireOnCurve (← curve.contains (.affine x y)) "affine point"
  return .affine x y

/-- The triple of the point at infinity. -/
def infinity (curve : Curve) : Option (Triple (Fin curve.field.size)) := do
  let zero ← residue curve.field.size 0
  let one ← residue curve.field.size 1
  return { x := zero, y := one, z := zero }

/-- The triple of a point. -/
def lift [OverflowChecks] (curve : Curve) (point : Point) :
    Evaluation CurveError (Triple (Fin curve.field.size)) := do
  match point with
  | .identity => curve.infinity
  | .affine x y =>
      let some x ← curve.field.element x
        | throw (.invalidPoint "x-coordinate")
      let some y ← curve.field.element y
        | throw (.invalidPoint "y-coordinate")
      CurveError.requireOnCurve (curve.satisfies x y) "affine point"
      return { x := x, y := y, z := ← residue curve.field.size 1 }

/-- The point of a triple. -/
def normalize (curve : Curve) (t : Triple (Fin curve.field.size)) : Option Point := do
  match inverse? t.z with
  | some w =>
      return .affine (← curve.field.toOctets (t.x * w)) (← curve.field.toOctets (t.y * w))
  | none => return .identity

/-- The multiple of a point by the number that a string writes. -/
def multiple [OverflowChecks] (curve : Curve) (point : Point) (s : Octets) :
    Evaluation CurveError Point := do
  let t ← curve.lift point
  let b3 := curve.b + curve.b + curve.b
  curve.normalize (t.multiple curve.a b3 (← curve.infinity) (← bits s))

theorem ofOctets_of_not_overflows [OverflowChecks] {p : Octets} (h : ¬Overflows p) (a b : Octets) :
    ofOctets p a b = result ((PrimeCurve.ofOctets p a b).map of) := by
  rw [ofOctets, Field.ofOctets_of_not_overflows h, PrimeCurve.ofOctets]
  cases hfield : PrimeField.ofOctets p with
  | error e => rfl
  | ok field =>
      have hwidth := (PrimeField.ofOctets_eq_ok_iff.mp hfield).2
      have hnumbers : (Except.ok field : Except CurveError PrimeField).map Field.of =
          .ok (.of field) := rfl
      simp only [hnumbers, ok_bind, Field.element_of hwidth, liftM_some]
      simp only [bind, Except.bind]
      cases field.element? a with
      | none => rfl
      | some a =>
          cases field.element? b with
          | none => rfl
          | some b =>
              have hzero : residue (Field.of field).size 0 = some field.zero :=
                Field.residue_zero
              simp only [hzero, liftM_some, CurveError.requireParameter, decide_eq_true_eq]
              change result (.ok field.zero) >>= _ = _
              rw [ok_bind]
              split
              · rfl
              · rfl

theorem ofOctets_of_overflows [OverflowChecks] {p : Octets} (h : Overflows p) (a b : Octets) :
    ofOctets p a b = stuck := by
  rw [ofOctets, Field.ofOctets_of_overflows h]
  rfl

variable {curve : PrimeCurve}

/-- The bits of an accepted modulus were counted. -/
theorem width_of_ofOctets {p a b : Octets} (h : PrimeCurve.ofOctets p a b = .ok curve) :
    curve.field.width + 7 < 2 ^ 29 := by
  obtain ⟨hfield, -, -⟩ := PrimeCurve.ofOctets_eq_ok_iff.mp h
  exact (PrimeField.ofOctets_eq_ok_iff.mp hfield).2

theorem contains_of [OverflowChecks] (h : curve.field.width + 7 < 2 ^ 29) (P : Point) :
    (of curve).contains P = some (curve.contains P) := by
  cases P with
  | identity => rfl
  | affine x y =>
      simp only [contains, PrimeCurve.contains, Field.element_of h, Option.bind_eq_bind,
        Option.bind_some]
      cases curve.field.element? x with
      | none => rfl
      | some u =>
          cases curve.field.element? y with
          | none => rfl
          | some v => rfl

theorem point_of [OverflowChecks] (h : curve.field.width + 7 < 2 ^ 29) (x y : Octets) :
    (of curve).point x y = result (curve.point x y) := by
  rw [point, PrimeCurve.point, contains_of h]
  apply result_bind
  intro _ _
  apply result_bind
  intro _ _
  rw [liftM_some, ok_bind]
  apply result_bind
  intro _ _
  rfl

theorem infinity_of : (of curve).infinity = some curve.infinity := by
  rw [infinity, Field.residue_zero, Field.residue_one]
  rfl

theorem lift_of [OverflowChecks] (h : curve.field.width + 7 < 2 ^ 29) (P : Point) :
    (of curve).lift P = result (curve.lift P) := by
  cases P with
  | identity =>
      rw [lift, infinity_of]
      rfl
  | affine x y =>
      simp only [lift, PrimeCurve.lift, Field.element_of h, Field.residue_one, liftM_some, ok_bind]
      cases curve.field.element? x with
      | none => rfl
      | some u =>
          cases curve.field.element? y with
          | none => rfl
          | some v =>
              apply result_bind
              intro _ _
              rfl

theorem normalize_of (t : Triple curve.field.Element) :
    (of curve).normalize t = some (curve.normalize t) := by
  rw [PrimeCurve.normalize]
  cases h : inverse? t.z with
  | none =>
      simp only [normalize, h, Option.pure_def]
  | some w =>
      simp only [normalize, h, Field.toOctets_of, Option.bind_eq_bind, Option.bind_some,
        Option.pure_def]

theorem multiple_of [OverflowChecks] (h : curve.field.width + 7 < 2 ^ 29) (P : Point) (s : Octets) :
    (of curve).multiple P s = result (curve.multiple P s) := by
  rw [multiple, PrimeCurve.multiple, lift_of h, infinity_of, bits_eq]
  apply result_bind
  intro t _
  simp only [liftM_some, ok_bind]
  exact congrArg liftM (normalize_of (t.multiple curve.a curve.b3 curve.infinity s.bits))

end Curve

end EcpAgreement.Bare
