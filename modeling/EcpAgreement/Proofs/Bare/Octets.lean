import EcpAgreement.Curve.Point
import Mathlib.Data.Nat.Notation

/-!
# Octet strings without bounds

The operations of the library hand the bounds along that they rely on.  Here they
stand once more without any: lengths are computed and subtracted, strings are cut,
indexed, shifted and compared as the computed numbers say, and a step whose bound
is broken has no result at all.  Such a step leaves the whole computation without
one.  Lengths are natural numbers, as memory ends long before sixty-four bits do.  A
product in thirty-two bits may be too large; whether it has no result then or wraps
around is a choice of the build, and both builds are considered.

None of the operations on strings is ever left so.  Each comes to the result of the
operation that has its bounds, whatever strings it is given.
-/

namespace EcpAgreement.Bare

/-! ## Steps that may have no result -/

/-- Whether a build checks products for overflow. -/
class OverflowChecks where
  enabled : Bool

/-- The product in thirty-two bits, unless it has more of them and this is checked. -/
def times [OverflowChecks] (m n : UInt32) : Option UInt32 :=
  if OverflowChecks.enabled = true ∧ UInt32.size ≤ m.toNat * n.toNat then none else some (m * n)

/-- The difference of two numbers, unless it is below zero. -/
def minus (m n : ℕ) : Option ℕ :=
  if n ≤ m then some (m - n) else none

/-- The octets from a position on, unless it is behind the end. -/
def slice (s : Octets) (start : ℕ) : Option Octets :=
  if start ≤ s.length then some (s.drop start) else none

/-- The octets before a position and those from it on, unless it is behind the
end. -/
def split (s : Octets) (position : ℕ) : Option (Octets × Octets) :=
  if position ≤ s.length then some (s.take position, s.drop position) else none

/-- The octet moved down by a number of bits, which must be less than it has. -/
def shiftRight (o : UInt8) (n : ℕ) : Option UInt8 :=
  if n < 8 then some (o >>> UInt8.ofNat n) else none

/-- Whether a string writes a smaller number than another one, which must have the
same length. -/
def less (s t : Octets) : Option Bool :=
  if h : s.length = t.length then some (s.less t h) else none

/-- The string put into a place of a certain width, which it must fill. -/
def copy (s : Octets) (width : ℕ) : Option Octets :=
  if s.length = width then some s else none

theorem times_eq_none_iff [OverflowChecks] {m n : UInt32} :
    times m n = none ↔ OverflowChecks.enabled = true ∧ UInt32.size ≤ m.toNat * n.toNat := by
  rw [times]
  split
  · rename_i h
    exact iff_of_true rfl h
  · rename_i h
    exact iff_of_false (Option.some_ne_none _) h

theorem times_of_ne_none [OverflowChecks] {m n : UInt32} (h : times m n ≠ none) :
    times m n = some (m * n) :=
  if_neg (mt times_eq_none_iff.mpr h)

theorem minus_of_le {m n : ℕ} (h : n ≤ m) : minus m n = some (m - n) :=
  if_pos h

theorem slice_of_le {s : Octets} {start : ℕ} (h : start ≤ s.length) :
    slice s start = some (s.drop start) :=
  if_pos h

theorem split_of_le {s : Octets} {position : ℕ} (h : position ≤ s.length) :
    split s position = some (s.take position, s.drop position) :=
  if_pos h

theorem less_of_length_eq {s t : Octets} (h : s.length = t.length) :
    less s t = some (s.less t h) :=
  dif_pos h

theorem copy_of_length_eq {s : Octets} {width : ℕ} (h : s.length = width) :
    copy s width = some s :=
  if_pos h

/-! ## Lengths -/

/-- The last octets, as many as asked for. -/
def suffix (s : Octets) (width : ℕ) : Option Octets := do
  slice s (← minus s.length width)

theorem suffix_of_le {s : Octets} {width : ℕ} (h : width ≤ s.length) :
    suffix s width = some (s.suffix width h) := by
  rw [suffix, minus_of_le h, Option.bind_eq_bind, Option.bind_some,
    slice_of_le (Nat.sub_le s.length width)]
  rfl

/-- The clear bits of an octet above the highest one that is set. -/
def leadingZeros (o : UInt8) : ℕ :=
  ((Octets.octetBits o).takeWhile fun bit => !bit).length

/-- The position of the highest bit that is set, counted from one, as it is
computed from the position of the first nonzero octet. -/
def bitLength (s : Octets) : Option ℕ :=
  match s.findIdx? (· != 0) with
  | some i => do
      let behind ← minus (← minus s.length i) 1
      let first ← s[i]?
      return behind * 8 + (← minus 8 (leadingZeros first))
  | none => some 0

theorem leadingZeros_add_log2 {o : UInt8} (h : o ≠ 0) :
    leadingZeros o + o.toNat.log2 = 7 := by
  have hall : ∀ n : Fin 256, n ≠ 0 →
      leadingZeros (UInt8.ofFin n) + (UInt8.ofFin n).toNat.log2 = 7 := by
    decide +kernel
  apply hall o.toFin
  rintro hzero
  exact h (UInt8.toFin_inj.mp hzero)

theorem bitLength_cons_zero (rest : Octets) : bitLength (0 :: rest) = bitLength rest := by
  rw [bitLength, bitLength, List.findIdx?_cons]
  cases rest.findIdx? (· != 0) with
  | none => rfl
  | some i =>
      have hminus : minus (rest.length + 1) (i + 1) = minus rest.length i := by
        simp [minus]
      simp [hminus]

theorem bitLength_cons {o : UInt8} (h : o ≠ 0) (rest : Octets) :
    bitLength (o :: rest) = some (8 * rest.length + (o.toNat.log2 + 1)) := by
  have hzeros := leadingZeros_add_log2 h
  have hfirst : (o :: rest).findIdx? (· != 0) = some 0 := by simp [List.findIdx?_cons, h]
  have htop : minus 8 (leadingZeros o) = some (o.toNat.log2 + 1) := by
    rw [minus_of_le (by omega)]
    congr 1
    omega
  have hbehind : minus (rest.length + 1) 1 = some rest.length := minus_of_le (by omega)
  rw [bitLength, hfirst]
  simp only [List.length_cons, minus_of_le (Nat.zero_le _), Nat.sub_zero, Option.bind_eq_bind,
    Option.bind_some, hbehind, List.getElem?_cons_zero, htop, Option.pure_def, Nat.mul_comm]

theorem bitLength_eq (s : Octets) : bitLength s = some s.bitLength := by
  induction s with
  | nil => rfl
  | cons o rest ih =>
      rw [Octets.bitLength]
      split
      · rename_i h
        rw [h, bitLength_cons_zero, ih]
      · rename_i h
        exact bitLength_cons h rest

/-! ## Widths -/

/-- The number of a string in an exact width, when it fits. -/
def leftPad? (s : Octets) (width : ℕ) : Option (Option Octets) := do
  let significant ← slice s (s.findIdx (· != 0))
  if significant.length > width then
    return none
  let zeros ← minus width significant.length
  return some (List.replicate zeros 0 ++ significant)

theorem leftPad?_eq (s : Octets) (width : ℕ) : leftPad? s width = some (s.leftPad? width) := by
  have hdrop : s.drop (s.findIdx (· != 0)) = s.significant := by
    rw [Octets.significant, List.dropWhile_eq_drop_findIdx_not]
    rfl
  rw [leftPad?, slice_of_le List.findIdx_le_length, hdrop, Octets.leftPad?]
  by_cases h : s.significant.length ≤ width
  · simp [h, minus_of_le h]
  · simp [h]

/-- The last octets, or the string with zeros in front when it is shorter. -/
def fitWidth (s : Octets) (width : ℕ) : Option Octets :=
  if s.length ≥ width then
    suffix s width
  else do
    return List.replicate (← minus width s.length) 0 ++ s

theorem fitWidth_eq (s : Octets) (width : ℕ) : fitWidth s width = some (s.fitWidth width) := by
  rw [fitWidth, Octets.fitWidth]
  by_cases h : width ≤ s.length
  · rw [if_pos h, dif_pos h, suffix_of_le h]
  · rw [if_neg h, dif_neg h, minus_of_le (Nat.le_of_not_le h)]
    rfl

/-! ## Bits -/

/-- The bits of an octet, the most significant one first, each moved down to the
lowest place. -/
def octetBits (o : UInt8) : Option (List Bool) :=
  [7, 6, 5, 4, 3, 2, 1, 0].mapM fun i => do return (← shiftRight o i) &&& 1 == 1

/-- All bits of a string, the most significant one first. -/
def bits (s : Octets) : Option (List Bool) := do
  return (← s.mapM octetBits).flatten

/-- Steps that all have a result have one together. -/
theorem mapM_eq_some_map {α β : Type} {f : α → Option β} {g : α → β} {l : List α}
    (h : ∀ a ∈ l, f a = some (g a)) : l.mapM f = some (l.map g) := by
  induction l with
  | nil => rfl
  | cons a rest ih =>
      rw [List.mapM_cons, h a List.mem_cons_self, Option.bind_eq_bind, Option.bind_some,
        ih fun b hb => h b (List.mem_cons_of_mem a hb)]
      rfl

/-- The lowest bit of an octet. -/
theorem and_one_beq (o : UInt8) : (o &&& 1 == 1) = decide (o.toNat % 2 = 1) := by
  rw [Bool.eq_iff_iff, beq_iff_eq, decide_eq_true_iff, ← UInt8.toNat_inj, UInt8.toNat_and,
    ← Nat.and_one_is_mod]
  rfl

theorem shiftRight_eq {o : UInt8} {i : ℕ} (h : i < 8) :
    (do return (← shiftRight o i) &&& 1 == 1) = some (o.toNat.testBit i) := by
  have hi : i < UInt8.size := Nat.lt_trans h (by decide)
  rw [shiftRight, if_pos h, Option.bind_eq_bind, Option.bind_some, and_one_beq,
    UInt8.toNat_shiftRight, UInt8.toNat_ofNat_of_lt' hi, Nat.mod_eq_of_lt h,
    Nat.shiftRight_eq_div_pow, Nat.testBit_eq_decide_div_mod_eq]
  rfl

theorem octetBits_eq (o : UInt8) : octetBits o = some (Octets.octetBits o) := by
  apply mapM_eq_some_map
  intro i hi
  have hall : ∀ i ∈ [7, 6, 5, 4, 3, 2, 1, 0], i < 8 := by decide
  exact shiftRight_eq (hall i hi)

theorem bits_eq (s : Octets) : bits s = some s.bits := by
  rw [bits, mapM_eq_some_map fun o _ => octetBits_eq o]
  rfl

/-- The string with the clear bits of a mask cleared in its first octet. -/
def maskFirst (s : Octets) (mask : UInt8) : Option Octets := do
  return s.set 0 ((← s[0]?) &&& mask)

theorem shiftRight_mask (excess : Fin 8) :
    shiftRight 0xFF excess.val = some (Octets.topMask excess) := by
  revert excess
  decide

theorem maskFirst_eq {s : Octets} (h : 0 < s.length) (excess : Fin 8) :
    maskFirst s (Octets.topMask excess) = some (s.clearTop excess) := by
  obtain ⟨o, rest, rfl⟩ := List.exists_cons_of_length_pos h
  rfl

end EcpAgreement.Bare
