import EcpAgreement.Proofs.Group.Stages
import EcpAgreement.Secret

/-!
# Strings and the numbers that they write

What the operations on octets do, told by numbers.  Comparing strings of one length
compares their numbers, and the bit length of a string is that of its number, so a
string can be cut to as many octets as its bits need.

A number has one string in each width that can hold it.  Padding finds that string or
fails, fitting finds it whenever padding does, and the strings that are read as the
elements of a field are exactly those that its elements are written as.
-/

namespace EcpAgreement

/- Powers are those of the natural numbers themselves, whatever else is in scope. -/
attribute [local instance (2000)] instPowNat

namespace Octets

variable {s t : Octets}

/-! ## Bit lengths -/

theorem bitLength_of_value_eq_zero (h : s.value = 0) : s.bitLength = 0 := by
  by_contra hne
  have hle := two_pow_le_value hne
  have hpos : 0 < 2 ^ (s.bitLength - 1) := Nat.two_pow_pos _
  omega

/-- The two powers around a number tell its bit length. -/
theorem eq_bitLength_iff (h : s.value ≠ 0) {n : ℕ} :
    n = s.bitLength ↔ 2 ^ (n - 1) ≤ s.value ∧ s.value < 2 ^ n := by
  constructor
  · rintro rfl
    have hne : s.bitLength ≠ 0 := by
      intro hzero
      have hlt := value_lt_two_pow s
      rw [hzero] at hlt
      omega
    exact ⟨two_pow_le_value hne, value_lt_two_pow s⟩
  · rintro ⟨hlow, hhigh⟩
    have hlt : n - 1 < s.bitLength := lt_bitLength_iff.mpr hlow
    have hle : ¬n < s.bitLength := fun hn => absurd (lt_bitLength_iff.mp hn) (Nat.not_le_of_gt hhigh)
    omega

theorem exists_first_significant (h : s.value ≠ 0) :
    ∃ o rest, s.significant = o :: rest ∧ o ≠ 0 := by
  cases hs : s.significant with
  | nil =>
      have hvalue := value_significant s
      rw [hs] at hvalue
      exact absurd hvalue.symm h
  | cons o rest =>
      refine ⟨o, rest, rfl, ?_⟩
      rintro rfl
      exact significant_ne_zero_cons s rest hs

/-- The bit length of a string and what is left of it in as many octets as these
bits need. -/
structure Measured (s : Octets) : Prop where
  of_zero : s.value = 0 → s.bitLength = 0
  unique : s.value ≠ 0 → ∀ n, n = s.bitLength ↔ 2 ^ (n - 1) ≤ s.value ∧ s.value < 2 ^ n
  value_cut : (s.suffix (octetsFor s.bitLength) s.significantLength_le).value = s.value
  first_of_cut : s.value ≠ 0 → ∃ o rest,
    s.suffix (octetsFor s.bitLength) s.significantLength_le = o :: rest ∧ o ≠ 0

/-- Comparisons and bit lengths are those of the numbers. -/
theorem compares_and_measures :
    (∀ (s t : Octets) (h : s.length = t.length), s.less t h = true ↔ s.value < t.value) ∧
      ∀ s : Octets, s.Measured := by
  constructor
  · intro s t h
    exact less_iff h
  · intro s
    constructor
    case of_zero => exact bitLength_of_value_eq_zero
    case unique =>
      intro h n
      exact eq_bitLength_iff h
    case value_cut => exact value_suffix_significantLength s
    case first_of_cut =>
      intro h
      obtain ⟨o, rest, hs, ho⟩ := exists_first_significant h
      exact ⟨o, rest, (suffix_significantLength s).trans hs, ho⟩

/-- The first difference decides, though a later one is the other way. -/
theorem compares_and_measures_twoDifferences :
    ([0, 1, 255] : Octets).length = ([0, 2, 0] : Octets).length ∧
      less [0, 1, 255] [0, 2, 0] rfl = true ∧ Measured [0, 1, 255] := by
  have hvalue : Octets.value [0, 1, 255] < Octets.value [0, 2, 0] := by decide
  exact ⟨rfl, (compares_and_measures.1 [0, 1, 255] [0, 2, 0] rfl).mpr hvalue,
    compares_and_measures.2 [0, 1, 255]⟩

/-! ## Padding -/

/-- What padding and fitting make of a string in a certain width. -/
structure Pads (s : Octets) (width : ℕ) : Prop where
  exists_iff : (∃ secret, Secret.leftPadded s width = .ok secret) ↔ s.value < 256 ^ width
  /-- Only one string has this width and this number. -/
  eq_ok_iff : ∀ t : Octets, Secret.leftPadded s width = .ok ⟨t⟩ ↔
    t.length = width ∧ t.value = s.value
  fitted : ∀ t : Octets, Secret.leftPadded s width = .ok ⟨t⟩ → s.fitWidth width = t

theorem leftPadded_eq_ok_iff {width : ℕ} :
    Secret.leftPadded s width = .ok ⟨t⟩ ↔ t.length = width ∧ t.value = s.value := by
  rw [← leftPad?_eq_some_iff, Secret.leftPadded]
  cases s.leftPad? width with
  | none => simp
  | some padded => simp

theorem exists_leftPadded_iff {width : ℕ} :
    (∃ secret, Secret.leftPadded s width = .ok secret) ↔ s.value < 256 ^ width := by
  constructor
  · rintro ⟨⟨t⟩, h⟩
    obtain ⟨hlength, hvalue⟩ := leftPadded_eq_ok_iff.mp h
    rw [← hvalue, ← hlength]
    exact value_lt t
  · intro h
    exact ⟨⟨ofNat width s.value⟩,
      leftPadded_eq_ok_iff.mpr ⟨length_ofNat _ _, value_ofNat_of_lt h⟩⟩

theorem fitWidth_of_leftPadded {width : ℕ} (h : Secret.leftPadded s width = .ok ⟨t⟩) :
    s.fitWidth width = t := by
  obtain ⟨hlength, hvalue⟩ := leftPadded_eq_ok_iff.mp h
  have hfits : s.value < 256 ^ width := exists_leftPadded_iff.mp ⟨_, h⟩
  apply eq_of_value_eq
  · rw [length_fitWidth, hlength]
  · rw [value_fitWidth hfits, hvalue]

theorem pads (s : Octets) (width : ℕ) : s.Pads width where
  exists_iff := exists_leftPadded_iff
  eq_ok_iff _ := leftPadded_eq_ok_iff
  fitted _ := fitWidth_of_leftPadded

/-- A wider string of a number that fits has only zeros in front. -/
theorem ofNat_eq_replicate_append {width wider n : ℕ} (hle : width ≤ wider) (h : n < 256 ^ width) :
    ofNat wider n = List.replicate (wider - width) 0 ++ ofNat width n := by
  have hwider : n < 256 ^ wider := h.trans_le (Nat.pow_le_pow_right (by decide) hle)
  apply eq_of_value_eq
  · rw [List.length_append, List.length_replicate, length_ofNat, length_ofNat]
    omega
  · rw [value_replicate_append, value_ofNat_of_lt h, value_ofNat_of_lt hwider]

end Octets

/-! ## Elements of a field -/

namespace PrimeField

variable {p s : Octets} {field : PrimeField}

/-- How a field whose modulus a string writes reads and writes its elements. -/
structure Writes (field : PrimeField) (p : Octets) : Prop where
  size_eq : field.size = p.value
  width_eq : field.width = p.significantLength
  written : ∀ e, (field.toOctets e).length = field.width ∧ (field.toOctets e).value = e.val
  read_iff : ∀ s e, field.element? s = some e ↔ s = field.toOctets e
  refused_iff : ∀ s, field.element? s = none ↔
    ¬(s.length = field.width ∧ Octets.value s < p.value)
  /-- Nothing but zeros is cut off the machine words of an element. -/
  cut : ∀ e, Octets.ofNat (Octets.wordAligned field.width) e.val =
    List.replicate (Octets.wordAligned field.width - field.width) 0 ++ field.toOctets e

theorem element?_eq_some_iff_toOctets {e : field.Element} :
    field.element? s = some e ↔ s = field.toOctets e := by
  constructor
  · intro h
    exact (toOctets_of_element? h).symm
  · rintro rfl
    exact element?_toOctets field e

theorem writes_of_ofOctets (h : ofOctets p = .ok field) : field.Writes p := by
  obtain ⟨hmodulus, -⟩ := ofOctets_eq_ok_iff.mp h
  have hsize := size_of_modulus_eq hmodulus
  constructor
  case size_eq => exact hsize
  case width_eq => rw [width, hmodulus, Octets.length_significant]
  case written =>
    intro e
    exact ⟨length_toOctets field e, value_toOctets field e⟩
  case read_iff =>
    intro s e
    exact element?_eq_some_iff_toOctets
  case refused_iff =>
    intro s
    rw [← hsize]
    exact element?_eq_none_iff
  case cut =>
    intro e
    have hlt : e.val < 256 ^ field.width := e.isLt.trans field.size_lt
    have hwritten : field.toOctets e = Octets.ofNat field.width e.val := by
      rw [toOctets_eq_ofNat, val_residue]
    rw [hwritten]
    exact Octets.ofNat_eq_replicate_append (Octets.le_wordAligned field.width) hlt

/-- Neither the elements of a field nor padded strings lose their number. -/
theorem keeps_numbers :
    (∀ p field, ofOctets p = .ok field → field.Writes p) ∧
      ∀ (s : Octets) (width : ℕ), s.Pads width := by
  constructor
  · intro p field h
    exact writes_of_ofOctets h
  · intro s width
    exact Octets.pads s width

/-- The residues modulo `2 ^ 64 + 13`, in nine octets. -/
def nineOctets : PrimeField where
  modulus := [1, 0, 0, 0, 0, 0, 0, 0, 13]
  size := 2 ^ 64 + 13
  value_modulus := by decide
  significantLength_modulus := by decide
  three_lt_size := by decide
  size_odd := by decide

/-- An element of nine octets is written in sixteen first. -/
theorem keeps_numbers_nineOctets :
    ofOctets [0, 1, 0, 0, 0, 0, 0, 0, 0, 13] = .ok nineOctets ∧
      nineOctets.Writes [0, 1, 0, 0, 0, 0, 0, 0, 0, 13] ∧
      Octets.wordAligned nineOctets.width = 16 ∧ Octets.Pads [0, 0, 1] 2 := by
  have h : ofOctets [0, 1, 0, 0, 0, 0, 0, 0, 0, 13] = .ok nineOctets :=
    ofOctets_eq_ok_iff.mpr ⟨rfl, by decide⟩
  exact ⟨h, keeps_numbers.1 _ _ h, rfl, keeps_numbers.2 [0, 0, 1] 2⟩

end PrimeField

end EcpAgreement
