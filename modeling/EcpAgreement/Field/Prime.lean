import EcpAgreement.Error
import EcpAgreement.Octets.Lemmas

/-!
# Prime fields

Arithmetic modulo an odd number above three, and the octet strings of one width
that write its residues. The number is called a prime because every use of a
field hopes for one; it is not tested, and nothing in this file needs it.

An element is a residue, so addition, subtraction and multiplication are those
of `Fin`. An octet string writes an element if it has the width of the modulus
and a smaller number; each element has exactly one such string.

The modulus is read into machine words, and how many bits these have is counted in
a word of thirty-two bits. The count for a modulus of `2 ^ 29 - 7` octets or more
wraps around, and such a modulus is refused because too few bits are found for it
(`le_precision_iff`). This is what a build without overflow checks does.
-/

namespace EcpAgreement

/- Powers are those of the natural numbers themselves, whatever else is in scope. -/
attribute [local instance (2000)] instPowNat

/-- A modulus with its octets. -/
structure PrimeField where
  /-- The modulus, without leading zeros. -/
  modulus : Octets
  /-- The number of elements. -/
  size : Nat
  value_modulus : modulus.value = size
  significantLength_modulus : modulus.significantLength = modulus.length
  three_lt_size : 3 < size
  size_odd : size % 2 = 1

namespace PrimeField

abbrev Element (field : PrimeField) : Type :=
  Fin field.size

def zero (field : PrimeField) : field.Element :=
  ⟨0, Nat.lt_trans (by decide) field.three_lt_size⟩

def one (field : PrimeField) : field.Element :=
  ⟨1, Nat.lt_trans (by decide) field.three_lt_size⟩

/-- The octets of one element. -/
def width (field : PrimeField) : Nat :=
  field.modulus.length

/-- The machine words of sixty-four bits that hold a number of `width` octets. -/
def words (width : Nat) : UInt32 :=
  let bits := UInt32.ofNat (width * 8)
  bits / 64 + if bits % 64 = 0 then 0 else 1

/-- The bits of these words, wrapped around where thirty-two bits do not count them. -/
def precision (width : Nat) : UInt32 :=
  words width * 64

theorem three_lt_value {p : Octets} (h : 2 < p.bitLength) : 3 < p.value :=
  Octets.lt_bitLength_iff.mp h

/-- The field whose modulus a string writes. Leading zeros do not matter. -/
def ofOctets (p : Octets) : Except CurveError PrimeField :=
  if hbits : 2 < p.bitLength then
    if p.significantLength ≤ (precision p.significantLength).toNat / 8 then
      if hodd : p.value % 2 = 1 then
        .ok
          { modulus := p.suffix p.significantLength p.significantLength_le
            size := p.value
            value_modulus := p.value_suffix_significantLength
            significantLength_modulus := p.significantLength_suffix
            three_lt_size := three_lt_value hbits
            size_odd := hodd }
      else
        .error (.parameter "p" "field prime must be odd")
    else
      .error (.parameter "p" "cannot be decoded")
  else
    .error (.parameter "p" "field prime must exceed 3")

/-- The element that a string writes, if it has the width of the modulus and a
smaller number. -/
def element? (field : PrimeField) (s : Octets) : Option field.Element :=
  if hlength : s.length = field.modulus.length then
    if hless : s.less field.modulus hlength = true then
      some ⟨s.value, field.value_modulus ▸ (Octets.less_iff hlength).mp hless⟩
    else
      none
  else
    none

/-- The string that writes an element. The residue is first written in whole
machine words, and then cut to the width of the modulus. -/
def toOctets (field : PrimeField) (e : field.Element) : Octets :=
  (Octets.ofNat (Octets.wordAligned field.width) e.val).fitWidth field.width

/-! ## Counting bits -/

theorem toNat_words (width : Nat) :
    (words width).toNat = (width * 8 % 2 ^ (32 : Nat) + 63) / 64 := by
  have hbits : (UInt32.ofNat (width * 8)).toNat = width * 8 % 2 ^ (32 : Nat) := UInt32.toNat_ofNat
  have hzero : UInt32.ofNat (width * 8) % 64 = 0 ↔ width * 8 % 2 ^ (32 : Nat) % 64 = 0 := by
    rw [← UInt32.toNat_inj, UInt32.toNat_mod, hbits]
    rfl
  have hdiv : (UInt32.ofNat (width * 8) / 64).toNat = width * 8 % 2 ^ (32 : Nat) / 64 := by
    rw [UInt32.toNat_div, hbits]
    rfl
  unfold words
  by_cases h : UInt32.ofNat (width * 8) % 64 = 0
  · have hmod := hzero.mp h
    simp only [if_pos h, UInt32.add_zero, hdiv]
    omega
  · have hmod := mt hzero.mpr h
    have hone : (1 : UInt32).toNat = 1 := rfl
    simp only [if_neg h, UInt32.toNat_add, hdiv, hone]
    omega

theorem toNat_precision (width : Nat) :
    (precision width).toNat = (words width).toNat * 64 % 2 ^ (32 : Nat) :=
  UInt32.toNat_mul (words width) 64

/-- The words have bits for all octets of a number unless the count of their bits
wraps around. -/
theorem le_precision_iff {width : Nat} :
    width ≤ (precision width).toNat / 8 ↔ width + 7 < 2 ^ (29 : Nat) := by
  rw [toNat_precision, toNat_words]
  omega

/-- The last width for which the words have enough bits, and the next one. -/
example : (precision 536870904).toNat / 8 = 536870904 ∧ (precision 536870905).toNat / 8 = 0 := by
  decide

theorem precision_of_lt {width : Nat} (h : width + 7 < 2 ^ (29 : Nat)) :
    (precision width).toNat = 8 * Octets.wordAligned width := by
  rw [toNat_precision, toNat_words, Octets.wordAligned]
  omega

/-! ## Elements and their strings -/

theorem size_lt (field : PrimeField) : field.size < 256 ^ field.width := by
  rw [← field.value_modulus]
  exact Octets.value_lt field.modulus

/-- A string is read as an element exactly when it has the width of the modulus
and writes the element's residue. -/
theorem element?_eq_some_iff {field : PrimeField} {s : Octets} {e : field.Element} :
    field.element? s = some e ↔ s.length = field.width ∧ s.value = e.val := by
  constructor
  · intro h
    unfold element? at h
    split at h
    · rename_i hlength
      split at h
      · exact ⟨hlength, congrArg Fin.val (Option.some.inj h)⟩
      · contradiction
    · contradiction
  · intro h
    have hwidth : s.length = field.modulus.length := h.1
    have hless : s.less field.modulus hwidth = true := by
      rw [Octets.less_iff, field.value_modulus, h.2]
      exact e.isLt
    unfold element?
    rw [dif_pos hwidth, dif_pos hless]
    exact congrArg some (Fin.ext h.2)

/-- A string is refused exactly when it has another width or writes a number
that is not below the modulus. -/
theorem element?_eq_none_iff {field : PrimeField} {s : Octets} :
    field.element? s = none ↔ ¬(s.length = field.width ∧ s.value < field.size) := by
  constructor
  · intro h hfit
    have hsome := element?_eq_some_iff (e := ⟨s.value, hfit.2⟩) |>.mpr ⟨hfit.1, rfl⟩
    rw [h] at hsome
    contradiction
  · intro h
    cases hread : field.element? s with
    | none => rfl
    | some e =>
        have hfit := element?_eq_some_iff.mp hread
        exact absurd ⟨hfit.1, hfit.2 ▸ e.isLt⟩ h

@[simp]
theorem length_toOctets (field : PrimeField) (e : field.Element) :
    (field.toOctets e).length = field.width :=
  Octets.length_fitWidth _ _

/-- Cutting an element's machine words to the width of the modulus drops only
zeros. -/
theorem value_toOctets (field : PrimeField) (e : field.Element) :
    (field.toOctets e).value = e.val := by
  have hlt : e.val < 256 ^ field.width := Nat.lt_trans e.isLt field.size_lt
  have hwords : e.val < 256 ^ Octets.wordAligned field.width :=
    Nat.lt_of_lt_of_le hlt
      (Nat.pow_le_pow_right (by decide) (Octets.le_wordAligned field.width))
  have hvalue := Octets.value_ofNat_of_lt hwords
  rw [toOctets, Octets.value_fitWidth (by rw [hvalue]; exact hlt), hvalue]

/-- What is written for an element is read as that element. -/
theorem element?_toOctets (field : PrimeField) (e : field.Element) :
    field.element? (field.toOctets e) = some e :=
  element?_eq_some_iff.mpr ⟨length_toOctets field e, value_toOctets field e⟩

/-- What is read as an element is what is written for it. -/
theorem toOctets_of_element? {field : PrimeField} {s : Octets} {e : field.Element}
    (h : field.element? s = some e) : field.toOctets e = s := by
  obtain ⟨hlength, hvalue⟩ := element?_eq_some_iff.mp h
  apply Octets.eq_of_value_eq
  · rw [length_toOctets, hlength]
  · rw [value_toOctets, hvalue]

end PrimeField

end EcpAgreement
