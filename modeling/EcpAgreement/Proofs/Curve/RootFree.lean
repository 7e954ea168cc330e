import EcpAgreement.Proofs.Curve.Multiplication
import EcpAgreement.Proofs.Curve.PointCount
import Mathlib.FieldTheory.Finite.Basic

/-!
# Curves without a point of order two

Whether `x³ + ax + b` has a root modulo a prime `p` is told by one power.  The
remainder of `X ^ p` modulo the cubic takes the same value as `X` at every root,
so their difference vanishes there, and so does its norm, which is a number.  If
the norm is not zero, then there is no root, and the number of points of the
curve is odd (`PrimeCurve.odd_card_of_norm`).  The norm takes one multiplication
of remainders for every bit of `p` and is computed by evaluation.
-/

namespace EcpAgreement

/-- A remainder modulo a cubic, as three coefficients of ascending degree. -/
structure Remainder (m : ℕ) where
  constant : Fin m
  linear : Fin m
  square : Fin m
  deriving DecidableEq

namespace Remainder

variable {m : ℕ}

/-- The product of two remainders modulo `X³ + aX + b`. -/
def mul (a b : Fin m) (f g : Remainder m) : Remainder m :=
  let third := f.linear * g.square + f.square * g.linear
  let fourth := f.square * g.square
  { constant := f.constant * g.constant - b * third
    linear := f.constant * g.linear + f.linear * g.constant - a * third - b * fourth
    square := f.constant * g.square + f.linear * g.linear + f.square * g.constant -
      a * fourth }

/-- One round of a power: squares what has been gathered, and multiplies it by
the base once more when the bit is set. -/
def round (a b : Fin m) (f gathered : Remainder m) (bit : Bool) : Remainder m :=
  let squared := mul a b gathered gathered
  if bit then mul a b squared f else squared

/-- The power of a remainder by the number whose bits are given, the most
significant one first. -/
def power (a b : Fin m) (one f : Remainder m) (bits : List Bool) : Remainder m :=
  bits.foldl (round a b f) one

/-- The norm of a remainder, which is the product of its values at the three
roots of the cubic wherever these are. -/
def norm (a b : Fin m) (f : Remainder m) : Fin m :=
  let shortened := f.constant - a * f.square
  let constant := shortened * shortened + b * f.linear * f.square + a * f.linear * f.linear
  let linear := f.constant * f.linear + b * f.square * f.square
  let square := f.linear * f.linear - f.square * shortened
  f.constant * constant + b * (f.square * linear - f.linear * square)

/-- The value of a remainder. -/
def valueAt (f : Remainder m) (r : ZMod m) : ZMod m :=
  residue f.constant + residue f.linear * r + residue f.square * r ^ 2

section Root

variable {a b : Fin m} {r : ZMod m}

theorem valueAt_mul (hr : r ^ 3 + residue a * r + residue b = 0) (f g : Remainder m) :
    (mul a b f g).valueAt r = f.valueAt r * g.valueAt r := by
  simp only [valueAt, mul, residue_add, residue_sub, residue_mul]
  linear_combination
    (-(residue f.linear * residue g.square + residue f.square * residue g.linear) -
      residue f.square * residue g.square * r) * hr

theorem valueAt_round (hr : r ^ 3 + residue a * r + residue b = 0) (f gathered : Remainder m)
    (bit : Bool) :
    (round a b f gathered bit).valueAt r =
      gathered.valueAt r ^ 2 * f.valueAt r ^ bit.toNat := by
  cases bit with
  | false =>
      rw [Bool.toNat_false, pow_zero, mul_one, pow_two]
      exact valueAt_mul hr gathered gathered
  | true =>
      rw [Bool.toNat_true, pow_one, pow_two, ← valueAt_mul hr gathered gathered]
      exact valueAt_mul hr (mul a b gathered gathered) f

/-- Every round goes on from whatever power was gathered before it. -/
theorem valueAt_power (hr : r ^ 3 + residue a * r + residue b = 0) {one : Remainder m}
    (hone : one.valueAt r = 1) (f : Remainder m) (bits : List Bool) :
    (power a b one f bits).valueAt r = f.valueAt r ^ Octets.bitsValue bits := by
  have hfold : ∀ (bits : List Bool) (n : ℕ) (gathered : Remainder m),
      gathered.valueAt r = f.valueAt r ^ n →
      (bits.foldl (round a b f) gathered).valueAt r =
        f.valueAt r ^ bits.foldl (fun n bit => 2 * n + bit.toNat) n := by
    intro bits
    induction bits with
    | nil =>
        intro n gathered h
        exact h
    | cons bit rest ih =>
        intro n gathered h
        rw [List.foldl_cons, List.foldl_cons]
        apply ih
        rw [valueAt_round hr, h, ← pow_mul, ← pow_add, mul_comm n 2]
  exact hfold bits 0 one (by rw [hone, pow_zero])

/-- The norm of a remainder with a root in common with the cubic is zero. -/
theorem norm_eq_zero (hr : r ^ 3 + residue a * r + residue b = 0) {f : Remainder m}
    (hf : f.valueAt r = 0) : residue (norm a b f) = 0 := by
  simp only [valueAt] at hf
  simp only [norm, residue_add, residue_sub, residue_mul]
  linear_combination
    ((residue f.constant - residue a * residue f.square) ^ 2 +
        residue b * residue f.linear * residue f.square + residue a * residue f.linear ^ 2 -
        (residue f.constant * residue f.linear + residue b * residue f.square ^ 2) * r +
        (residue f.linear ^ 2 - residue f.constant * residue f.square +
          residue a * residue f.square ^ 2) * r ^ 2) * hf -
      (residue f.linear *
          (residue f.linear ^ 2 - residue f.constant * residue f.square +
            residue a * residue f.square ^ 2) -
        residue f.square *
          (residue f.constant * residue f.linear + residue b * residue f.square ^ 2) +
        residue f.square * (residue f.linear ^ 2 - residue f.constant * residue f.square +
          residue a * residue f.square ^ 2) * r) * hr

end Root

end Remainder

namespace PrimeCurve

variable {curve : PrimeCurve}

/-- The remainder one. -/
def oneRemainder (curve : PrimeCurve) : Remainder curve.field.size where
  constant := curve.field.one
  linear := curve.field.zero
  square := curve.field.zero

/-- The remainder `X`. -/
def rootRemainder (curve : PrimeCurve) : Remainder curve.field.size where
  constant := curve.field.zero
  linear := curve.field.one
  square := curve.field.zero

/-- The remainder of `X ^ p - X`. -/
def frobeniusDifference (curve : PrimeCurve) : Remainder curve.field.size :=
  let gathered := Remainder.power curve.a curve.b curve.oneRemainder curve.rootRemainder
    curve.field.modulus.bits
  { gathered with linear := gathered.linear - curve.field.one }

/-- The norm of that remainder. -/
def frobeniusNorm (curve : PrimeCurve) : curve.field.Element :=
  Remainder.norm curve.a curve.b curve.frobeniusDifference

theorem valueAt_frobeniusDifference [Fact curve.field.size.Prime] {r : ZMod curve.field.size}
    (hr : r ^ 3 + residue curve.a * r + residue curve.b = 0) :
    curve.frobeniusDifference.valueAt r = 0 := by
  have hone : curve.oneRemainder.valueAt r = 1 := by
    simp only [Remainder.valueAt, oneRemainder, residue_zero, residue_one]
    ring
  have hroot : curve.rootRemainder.valueAt r = r := by
    simp only [Remainder.valueAt, rootRemainder, residue_zero, residue_one]
    ring
  have hpower := Remainder.valueAt_power hr hone curve.rootRemainder curve.field.modulus.bits
  rw [hroot, Octets.bitsValue_bits, curve.field.value_modulus, ZMod.pow_card] at hpower
  simp only [Remainder.valueAt] at hpower
  simp only [frobeniusDifference, Remainder.valueAt, residue_sub, residue_one]
  linear_combination hpower

/-- A curve whose cubic has no root has an odd number of points. -/
theorem odd_card_of_norm [Fact curve.field.size.Prime] (h : curve.frobeniusNorm.val ≠ 0) :
    Odd (Nat.card curve.law.Point) := by
  apply odd_card_points curve.field.size_odd
  intro r hr
  apply h
  have hzero := Remainder.norm_eq_zero hr (valueAt_frobeniusDifference hr)
  rw [← val_residue, frobeniusNorm, hzero, ZMod.val_zero]

end PrimeCurve

end EcpAgreement
