import EcpAgreement.Octets.Basic

/-!
# Lengths and numbers of octet strings

The facts that the definitions of the other modules rely on: how long each
result is, which number it writes, and that the bit length bounds both. In
particular `significantLength` never exceeds the length, so cutting a string to
it is always possible.
-/

namespace EcpAgreement.Octets

/- Powers are those of the natural numbers themselves, whatever else is in scope. -/
attribute [local instance (2000)] instPowNat

/-! ## Numbers -/

@[simp]
theorem value_nil : value [] = 0 := rfl

/-- Folding from a number `n` shifts `n` past all octets. -/
theorem foldl_value (s : Octets) (n : Nat) :
    s.foldl (fun n o => 256 * n + o.toNat) n = n * 256 ^ s.length + s.value := by
  induction s generalizing n with
  | nil => simp
  | cons o rest ih =>
      simp only [value, List.foldl_cons, List.length_cons]
      rw [ih, ih (256 * 0 + o.toNat)]
      rw [Nat.pow_succ, Nat.add_mul, Nat.mul_zero, Nat.zero_add]
      rw [← Nat.add_assoc, Nat.mul_comm 256 n, Nat.mul_assoc, Nat.mul_comm 256]

theorem value_cons (o : UInt8) (s : Octets) :
    value (o :: s) = o.toNat * 256 ^ s.length + s.value := by
  have h := foldl_value s (256 * 0 + o.toNat)
  simpa [value] using h

theorem value_append (s t : Octets) :
    value (s ++ t) = s.value * 256 ^ t.length + t.value := by
  rw [value, List.foldl_append]
  exact foldl_value t s.value

theorem value_lt (s : Octets) : s.value < 256 ^ s.length := by
  induction s with
  | nil => simp
  | cons o rest ih =>
      have ho : o.toNat < 256 := o.toNat_lt
      rw [value_cons, List.length_cons, Nat.pow_succ]
      have hmul : o.toNat * 256 ^ rest.length ≤ 255 * 256 ^ rest.length :=
        Nat.mul_le_mul_right _ (by omega)
      omega

@[simp]
theorem length_ofNat (width n : Nat) : (ofNat width n).length = width := by
  induction width generalizing n with
  | zero => rfl
  | succ width ih => simp [ofNat, ih]

theorem value_ofNat (width n : Nat) : (ofNat width n).value = n % 256 ^ width := by
  induction width generalizing n with
  | zero => simp [ofNat, Nat.mod_one]
  | succ width ih =>
      have hlast : value [UInt8.ofNat n] = n % 256 := by
        simp [value]
      rw [ofNat, value_append, ih, hlast, List.length_singleton, Nat.pow_one]
      rw [Nat.pow_succ, Nat.mul_comm (256 ^ width) 256, Nat.mod_mul]
      rw [Nat.mul_comm, Nat.add_comm]

theorem value_ofNat_of_lt {width n : Nat} (h : n < 256 ^ width) :
    (ofNat width n).value = n := by
  rw [value_ofNat, Nat.mod_eq_of_lt h]

/-- Strings of one length are told apart by their numbers. -/
theorem eq_of_value_eq {s t : Octets} (hlength : s.length = t.length)
    (hvalue : s.value = t.value) : s = t := by
  induction s generalizing t with
  | nil => exact (List.length_eq_zero_iff.mp hlength.symm).symm
  | cons o rest ih =>
      match t, hlength with
      | u :: more, hlength =>
          have hlen : rest.length = more.length := by simpa using hlength
          rw [value_cons, value_cons, hlen] at hvalue
          have hrest : value rest < 256 ^ more.length := hlen ▸ value_lt rest
          have hpos : 0 < 256 ^ more.length := Nat.pow_pos (by decide)
          have quotient (n r : Nat) (hr : r < 256 ^ more.length) :
              (n * 256 ^ more.length + r) / 256 ^ more.length = n := by
            rw [Nat.add_comm, Nat.add_mul_div_right _ _ hpos, Nat.div_eq_of_lt hr, Nat.zero_add]
          have hhead : o.toNat = u.toNat := by
            rw [← quotient o.toNat _ hrest, hvalue, quotient _ _ (value_lt more)]
          have hou : o = u := UInt8.toNat_inj.mp hhead
          rw [hhead] at hvalue
          rw [hou, ih hlen (Nat.add_left_cancel hvalue)]

/-- Writing a string's number at the string's own length gives it back. -/
theorem ofNat_value (s : Octets) : ofNat s.length s.value = s :=
  eq_of_value_eq (length_ofNat _ _) (value_ofNat_of_lt (value_lt s))

/-! ## Widths -/

theorem octetsFor_le_of_le {bits n : Nat} (h : bits ≤ 8 * n) : octetsFor bits ≤ n := by
  unfold octetsFor
  omega

theorem bits_le_octetsFor (bits : Nat) : bits ≤ 8 * octetsFor bits := by
  unfold octetsFor
  omega

/-- Whole octets leave fewer than eight bits unused. -/
theorem excess_lt (bits : Nat) : 8 * octetsFor bits - bits < 8 := by
  unfold octetsFor
  omega

theorem bitLength_le (s : Octets) : s.bitLength ≤ 8 * s.length := by
  induction s with
  | nil => simp [bitLength]
  | cons o rest ih =>
      rw [bitLength, List.length_cons]
      split
      · omega
      · rename_i ho
        have hne : o.toNat ≠ 0 := fun h => ho (UInt8.toNat_inj.mp h)
        have hlog : o.toNat.log2 < 8 := (Nat.log2_lt hne).mpr o.toNat_lt
        omega

theorem significantLength_le (s : Octets) : s.significantLength ≤ s.length :=
  octetsFor_le_of_le (bitLength_le s)

@[simp]
theorem length_suffix (s : Octets) (width : Nat) (h : width ≤ s.length) :
    (s.suffix width h).length = width := by
  rw [suffix, List.length_drop]
  omega

theorem length_of_leftPad? {s t : Octets} {width : Nat} (h : s.leftPad? width = some t) :
    t.length = width := by
  unfold leftPad? at h
  split at h
  · rw [← Option.some.inj h, List.length_append, List.length_replicate]
    omega
  · contradiction

@[simp]
theorem length_fitWidth (s : Octets) (width : Nat) : (s.fitWidth width).length = width := by
  unfold fitWidth
  split
  · exact length_suffix _ _ _
  · rw [List.length_append, List.length_replicate]
    omega

@[simp]
theorem length_clearTop (excess : Fin 8) (s : Octets) :
    (s.clearTop excess).length = s.length := by
  cases s <;> rfl

theorem le_wordAligned (width : Nat) : width ≤ wordAligned width := by
  unfold wordAligned
  omega

/-! ## Bit lengths and comparison -/

/-- The bit length is an upper bound of the number, and a tight one. -/
theorem bitLength_bounds (s : Octets) :
    s.value < 2 ^ s.bitLength ∧ (s.bitLength ≠ 0 → 2 ^ (s.bitLength - 1) ≤ s.value) := by
  induction s with
  | nil => simp [bitLength]
  | cons o rest ih =>
      by_cases ho : o = 0
      · simpa [bitLength, ho, value_cons] using ih
      · have hne : o.toNat ≠ 0 := fun h => ho (UInt8.toNat_inj.mp h)
        have hpow : 256 ^ rest.length = 2 ^ (8 * rest.length) := by
          rw [Nat.pow_mul]
        have hlow : 2 ^ o.toNat.log2 ≤ o.toNat := Nat.log2_self_le hne
        have hhigh : o.toNat < 2 ^ (o.toNat.log2 + 1) := Nat.lt_log2_self
        have hrest : value rest < 256 ^ rest.length := value_lt rest
        have hpos : 0 < 256 ^ rest.length := Nat.pow_pos (by decide)
        have hlength : bitLength (o :: rest) = 8 * rest.length + (o.toNat.log2 + 1) := by
          simp [bitLength, ho]
        rw [hlength, value_cons]
        refine ⟨?_, fun _ => ?_⟩
        · rw [Nat.pow_add, ← hpow]
          calc
            o.toNat * 256 ^ rest.length + value rest
                < o.toNat * 256 ^ rest.length + 256 ^ rest.length := by omega
            _ = (o.toNat + 1) * 256 ^ rest.length := by rw [Nat.add_mul, Nat.one_mul]
            _ ≤ 2 ^ (o.toNat.log2 + 1) * 256 ^ rest.length := Nat.mul_le_mul_right _ hhigh
            _ = 256 ^ rest.length * 2 ^ (o.toNat.log2 + 1) := Nat.mul_comm _ _
        · have hsub : 8 * rest.length + (o.toNat.log2 + 1) - 1
              = 8 * rest.length + o.toNat.log2 := by omega
          rw [hsub, Nat.pow_add, ← hpow, Nat.mul_comm]
          exact Nat.le_trans (Nat.mul_le_mul_right _ hlow) (Nat.le_add_right _ _)

theorem value_lt_two_pow (s : Octets) : s.value < 2 ^ s.bitLength :=
  (bitLength_bounds s).1

theorem two_pow_le_value {s : Octets} (h : s.bitLength ≠ 0) :
    2 ^ (s.bitLength - 1) ≤ s.value :=
  (bitLength_bounds s).2 h

/-- The bit length as a threshold. -/
theorem lt_bitLength_iff {s : Octets} {n : Nat} : n < s.bitLength ↔ 2 ^ n ≤ s.value := by
  constructor
  · intro h
    have hle := two_pow_le_value (s := s) (by omega)
    have hmono : 2 ^ n ≤ 2 ^ (s.bitLength - 1) := Nat.pow_le_pow_right (by decide) (by omega)
    omega
  · intro h
    apply Nat.lt_of_not_le
    intro hle
    have hmono : 2 ^ s.bitLength ≤ 2 ^ n := Nat.pow_le_pow_right (by decide) hle
    have hlt := value_lt_two_pow s
    omega

/-- What a comparison has found once it has visited all octets. -/
theorem foldl_step_smaller {s t : Octets} (h : s.length = t.length) (c : Comparison) :
    ((s.zip t).foldl Comparison.step c).smaller
      = (c.smaller || (c.same && decide (s.value < t.value))) := by
  induction s generalizing t c with
  | nil =>
      rw [List.length_eq_zero_iff.mp h.symm]
      simp
  | cons o rest ih =>
      match t, h with
      | u :: more, h =>
          have hlen : rest.length = more.length := by simpa using h
          have hrest : value rest < 256 ^ more.length := hlen ▸ value_lt rest
          have hmore : value more < 256 ^ more.length := value_lt more
          rw [List.zip_cons_cons, List.foldl_cons, ih hlen, value_cons, value_cons, hlen]
          have horder :
              (o.toNat * 256 ^ more.length + value rest
                  < u.toNat * 256 ^ more.length + value more)
                ↔ (o < u ∨ (o = u ∧ value rest < value more)) := by
            rw [UInt8.lt_iff_toNat_lt, ← UInt8.toNat_inj]
            rcases Nat.lt_trichotomy o.toNat u.toNat with hlt | heq | hgt
            · have hmul : (o.toNat + 1) * 256 ^ more.length
                  ≤ u.toNat * 256 ^ more.length := Nat.mul_le_mul_right _ hlt
              rw [Nat.add_mul, Nat.one_mul] at hmul
              constructor <;> intro _ <;> omega
            · rw [heq]
              omega
            · have hmul : (u.toNat + 1) * 256 ^ more.length
                  ≤ o.toNat * 256 ^ more.length := Nat.mul_le_mul_right _ hgt
              rw [Nat.add_mul, Nat.one_mul] at hmul
              constructor <;> intro _ <;> omega
          by_cases hlt : o < u
          · have hne : o ≠ u := fun heq => UInt8.lt_irrefl u (heq ▸ hlt)
            simp [Comparison.step, horder, hlt, hne]
          · by_cases heq : o = u <;> simp [Comparison.step, horder, hlt, heq]

/-- The comparison finds the order of the numbers. -/
theorem less_iff {s t : Octets} (h : s.length = t.length) :
    s.less t h = true ↔ s.value < t.value := by
  rw [less, foldl_step_smaller h]
  simp

/-! ## Leading zeros -/

/-- The octets from the first nonzero one on are as many as the bit length
needs. -/
theorem length_significant (s : Octets) : s.significant.length = s.significantLength := by
  induction s with
  | nil => rfl
  | cons o rest ih =>
      by_cases ho : o = 0
      · simpa [significant, significantLength, bitLength, ho] using ih
      · have hne : o.toNat ≠ 0 := fun h => ho (UInt8.toNat_inj.mp h)
        have hlog : o.toNat.log2 < 8 := (Nat.log2_lt hne).mpr o.toNat_lt
        have hb : (o == 0) = false := beq_eq_false_iff_ne.mpr ho
        simp [significant, significantLength, bitLength, ho, octetsFor]
        omega

theorem value_significant (s : Octets) : s.significant.value = s.value := by
  induction s with
  | nil => rfl
  | cons o rest ih =>
      by_cases ho : o = 0
      · rw [value_cons, ho]
        simpa [significant] using ih
      · simp [significant, ho]

/-- A string is zeros followed by its significant octets. -/
theorem eq_replicate_append_significant (s : Octets) :
    s = List.replicate (s.length - s.significant.length) 0 ++ s.significant := by
  apply eq_of_value_eq
  · have hle : s.significant.length ≤ s.length :=
      length_significant s ▸ significantLength_le s
    rw [List.length_append, List.length_replicate]
    omega
  · rw [value_append, value_significant]
    have hzero (n : Nat) : value (List.replicate n (0 : UInt8)) = 0 := by
      induction n with
      | zero => rfl
      | succ n ih => rw [List.replicate_succ, value_cons, ih]; simp
    rw [hzero, Nat.zero_mul, Nat.zero_add]

/-- Cutting a string to its significant length removes exactly the leading
zeros. -/
theorem suffix_significantLength (s : Octets) :
    s.suffix s.significantLength (significantLength_le s) = s.significant := by
  rw [suffix, ← length_significant]
  have h := eq_replicate_append_significant s
  have hle : s.significant.length ≤ s.length :=
    length_significant s ▸ significantLength_le s
  have hdrop : s.drop (s.length - s.significant.length)
      = (List.replicate (s.length - s.significant.length) 0 ++ s.significant).drop
          (s.length - s.significant.length) := congrArg (List.drop _) h
  rw [hdrop, List.drop_append_of_le_length (by simp), List.drop_of_length_le (by simp)]
  simp

theorem value_suffix_significantLength (s : Octets) :
    (s.suffix s.significantLength (significantLength_le s)).value = s.value := by
  rw [suffix_significantLength, value_significant]

/-- The significant octets do not begin with zero. -/
theorem significant_ne_zero_cons (s rest : Octets) : s.significant ≠ 0 :: rest := by
  induction s with
  | nil => exact fun h => nomatch h
  | cons o more ih =>
      by_cases ho : o = 0
      · simpa [significant, ho] using ih
      · simp [significant, ho]

theorem bitLength_significant (s : Octets) : s.significant.bitLength = s.bitLength := by
  induction s with
  | nil => rfl
  | cons o rest ih =>
      by_cases ho : o = 0
      · simpa [significant, bitLength, ho] using ih
      · simp [significant, ho]

/-- Cutting a string to its significant length leaves no leading zero. -/
theorem significantLength_suffix (s : Octets) :
    (s.suffix s.significantLength (significantLength_le s)).significantLength
      = (s.suffix s.significantLength (significantLength_le s)).length := by
  rw [suffix_significantLength, length_significant, significantLength,
    bitLength_significant, significantLength]

/-! ## Padding -/

/-- A number fits into `width` octets exactly when its significant octets do. -/
theorem length_significant_le_iff (s : Octets) (width : Nat) :
    s.significant.length ≤ width ↔ s.value < 256 ^ width := by
  rw [length_significant, significantLength]
  have hpow : 256 ^ width = 2 ^ (8 * width) := by
    rw [Nat.pow_mul]
  constructor
  · intro h
    have hbits : s.bitLength ≤ 8 * width :=
      Nat.le_trans (bits_le_octetsFor _) (Nat.mul_le_mul_left 8 h)
    rw [hpow]
    exact Nat.lt_of_lt_of_le (value_lt_two_pow s) (Nat.pow_le_pow_right (by decide) hbits)
  · intro h
    apply octetsFor_le_of_le
    apply Nat.le_of_not_lt
    intro hgt
    have hle := two_pow_le_value (s := s) (by omega)
    have hmono : 2 ^ (8 * width) ≤ 2 ^ (s.bitLength - 1) :=
      Nat.pow_le_pow_right (by decide) (by omega)
    omega

/-- Zeros in front do not change the number. -/
theorem value_replicate_append (n : Nat) (s : Octets) :
    value (List.replicate n 0 ++ s) = s.value := by
  induction n with
  | zero => simp
  | succ n ih =>
      rw [List.replicate_succ, List.cons_append, value_cons, ih]
      simp

/-- Padding succeeds with the one string of that width that writes the same
number. -/
theorem leftPad?_eq_some_iff {s t : Octets} {width : Nat} :
    s.leftPad? width = some t ↔ t.length = width ∧ t.value = s.value := by
  constructor
  · intro h
    refine ⟨length_of_leftPad? h, ?_⟩
    unfold leftPad? at h
    split at h
    · rw [← Option.some.inj h, value_replicate_append, value_significant]
    · contradiction
  · intro h
    have hfit : s.significant.length ≤ width := by
      rw [length_significant_le_iff, ← h.2, ← h.1]
      exact value_lt t
    unfold leftPad?
    rw [if_pos hfit]
    apply congrArg some
    apply eq_of_value_eq
    · rw [List.length_append, List.length_replicate, h.1]
      omega
    · rw [value_replicate_append, value_significant, h.2]

/-- Padding fails exactly when the number is too large for the width. -/
theorem leftPad?_eq_none_iff {s : Octets} {width : Nat} :
    s.leftPad? width = none ↔ 256 ^ width ≤ s.value := by
  unfold leftPad?
  split
  · rename_i h
    have hlt := (length_significant_le_iff s width).mp h
    simp
    exact hlt
  · rename_i h
    have hge := mt (length_significant_le_iff s width).mpr h
    simp
    omega

/-- The last `width` octets write the number modulo `256 ^ width`. -/
theorem value_suffix (s : Octets) (width : Nat) (h : width ≤ s.length) :
    (s.suffix width h).value = s.value % 256 ^ width := by
  have hsplit : s = s.take (s.length - width) ++ s.suffix width h :=
    (List.take_append_drop _ s).symm
  have hvalue := congrArg value hsplit
  have hlt : (s.suffix width h).value < 256 ^ width := by
    have hbound := value_lt (s.suffix width h)
    rwa [length_suffix] at hbound
  rw [value_append, length_suffix] at hvalue
  rw [hvalue, Nat.mul_comm, Nat.mul_add_mod, Nat.mod_eq_of_lt hlt]

/-- Fitting a number that the width can hold loses nothing. -/
theorem value_fitWidth {s : Octets} {width : Nat} (h : s.value < 256 ^ width) :
    (s.fitWidth width).value = s.value := by
  unfold fitWidth
  split
  · rw [value_suffix, Nat.mod_eq_of_lt h]
  · exact value_replicate_append _ s

/-! ## Zero -/

theorem foldl_or_eq_zero_iff (s : Octets) (o : UInt8) :
    s.foldl (· ||| ·) o = 0 ↔ o = 0 ∧ s.value = 0 := by
  induction s generalizing o with
  | nil => simp
  | cons first rest ih =>
      have hfirst : first.toNat = 0 ↔ first = 0 := UInt8.toNat_inj (b := 0)
      rw [List.foldl_cons, ih, UInt8.or_eq_zero_iff, value_cons, Nat.add_eq_zero_iff,
        Nat.mul_eq_zero, hfirst]
      simp [and_assoc]

/-- Joining all octets finds out whether the number is positive. -/
theorem isNonzero_iff (s : Octets) : s.isNonzero = true ↔ 0 < s.value := by
  rw [isNonzero, bne_iff_ne, ne_eq, foldl_or_eq_zero_iff]
  simp [Nat.pos_iff_ne_zero]

/-! ## Bits -/

theorem foldl_bitsValue (bits : List Bool) (n : Nat) :
    bits.foldl (fun n bit => 2 * n + bit.toNat) n = n * 2 ^ bits.length + bitsValue bits := by
  induction bits generalizing n with
  | nil => simp [bitsValue]
  | cons bit rest ih =>
      rw [bitsValue, List.foldl_cons, List.foldl_cons, ih, ih (2 * 0 + bit.toNat)]
      rw [List.length_cons, Nat.pow_succ, Nat.add_mul, Nat.mul_zero, Nat.zero_add]
      rw [← Nat.add_assoc, Nat.mul_comm 2 n, Nat.mul_assoc, Nat.mul_comm 2]

theorem bitsValue_append (bits more : List Bool) :
    bitsValue (bits ++ more) = bitsValue bits * 2 ^ more.length + bitsValue more := by
  rw [bitsValue, List.foldl_append]
  exact foldl_bitsValue more (bitsValue bits)

theorem bitsValue_octetBits (o : UInt8) : bitsValue (octetBits o) = o.toNat := by
  have hall : ∀ n : Fin 256,
      bitsValue ([7, 6, 5, 4, 3, 2, 1, 0].map n.val.testBit) = n.val := by
    decide +kernel
  exact hall ⟨o.toNat, o.toNat_lt⟩

theorem length_octetBits (o : UInt8) : (octetBits o).length = 8 := rfl

theorem length_bits (s : Octets) : s.bits.length = 8 * s.length := by
  induction s with
  | nil => rfl
  | cons o rest ih =>
      have hcons : bits (o :: rest) = octetBits o ++ bits rest := rfl
      rw [hcons, List.length_append, ih, length_octetBits, List.length_cons]
      omega

/-- A string and its bits write the same number. -/
theorem bitsValue_bits (s : Octets) : bitsValue s.bits = s.value := by
  induction s with
  | nil => rfl
  | cons o rest ih =>
      have hcons : bits (o :: rest) = octetBits o ++ bits rest := rfl
      rw [hcons, bitsValue_append, ih, bitsValue_octetBits, value_cons, length_bits, Nat.pow_mul]

/-! ## Masks -/

theorem toNat_and_topMask (o : UInt8) (excess : Fin 8) :
    (o &&& topMask excess).toNat = o.toNat % 2 ^ (8 - excess.val) := by
  have hmask : ∀ excess : Fin 8, (topMask excess).toNat = 2 ^ (8 - excess.val) - 1 := by
    decide
  rw [UInt8.toNat_and, hmask, Nat.and_two_pow_sub_one_eq_mod]

/-- Clearing bits at the top leaves the number modulo a power of two. -/
theorem value_clearTop (excess : Fin 8) (s : Octets) :
    (s.clearTop excess).value = s.value % 2 ^ (8 * s.length - excess.val) := by
  cases s with
  | nil => simp [clearTop]
  | cons o rest =>
      have hexcess : excess.val < 8 := excess.isLt
      have hsplit : 8 * (o :: rest).length - excess.val
          = 8 * rest.length + (8 - excess.val) := by
        rw [List.length_cons]
        omega
      have hpow : 2 ^ (8 * rest.length) = 256 ^ rest.length := by
        rw [Nat.pow_mul]
      have hlt : value rest < 256 ^ rest.length := value_lt rest
      rw [clearTop, value_cons, value_cons, toNat_and_topMask, hsplit, Nat.pow_add, hpow]
      rw [Nat.mod_mul, Nat.add_comm (o.toNat * _), Nat.add_mul_mod_self_right,
        Nat.mod_eq_of_lt hlt, Nat.add_mul_div_right _ _ (Nat.pow_pos (by decide)),
        Nat.div_eq_of_lt hlt, Nat.zero_add, Nat.mul_comm, Nat.add_comm]

end EcpAgreement.Octets
