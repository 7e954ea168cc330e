import EcpAgreement.Document.Reader
import EcpAgreement.Proofs.Document.Grammar

/-!
# Reading blanks, numbers and strings

The readers of the parts that hold no values.  Each of them takes a text of the
grammar off the front of a document, and takes any such text off whole, provided
that what follows cannot belong to it (`Reads`).  For a string nothing can, since
its closing quote ends it; for a number another digit, a point or an exponent could.
-/

namespace EcpAgreement.Document

/-- A reader takes off what a rule allows, and all of it where the rest is one that
may follow. -/
structure Reads {α : Type} (read : List Char → Option (α × List Char))
    (rule : α → List Char → Prop) (follows : List Char → Prop) : Prop where
  sound : ∀ {s rest : List Char} {a : α}, read s = some (a, rest) →
    ∃ t, rule a t ∧ s = t ++ rest
  complete : ∀ {t rest : List Char} {a : α}, rule a t → follows rest →
    read (t ++ rest) = some (a, rest)

/-- A rule for parts that are kept as they are written. -/
def Verbatim (rule : List Char → Prop) (kept t : List Char) : Prop :=
  kept = t ∧ rule t

/-- No digit and none of certain characters comes next. -/
def Stops (chars : List Char) (s : List Char) : Prop :=
  ∀ c ∈ s.head?, c.isDigit = false ∧ c ∉ chars

/-! ## Blanks -/

theorem isBlank_iff {c : Char} : isBlank c = true ↔ c ∈ [' ', '\n', '\t', '\r'] := by
  simp [isBlank, or_assoc]

theorem exists_blank_append_skipBlank (s : List Char) :
    ∃ w, Blank w ∧ s = w ++ skipBlank s := by
  refine ⟨s.takeWhile isBlank, ?_, List.takeWhile_append_dropWhile.symm⟩
  intro c hc
  exact isBlank_iff.mp (List.all_eq_true.mp List.all_takeWhile c hc)

theorem skipBlank_blank_append {w : List Char} (h : Blank w) (s : List Char) :
    skipBlank (w ++ s) = skipBlank s :=
  List.dropWhile_append_of_pos fun c hc => isBlank_iff.mpr (h c hc)

theorem skipBlank_of_head {c : Char} (h : isBlank c = false) (s : List Char) :
    skipBlank (c :: s) = c :: s := by
  rw [skipBlank, List.dropWhile_cons_of_neg (by simp [h])]

theorem skipBlank_skipBlank (s : List Char) : skipBlank (skipBlank s) = skipBlank s := by
  obtain ⟨w, hw, hs⟩ := exists_blank_append_skipBlank s
  calc
    skipBlank (skipBlank s) = skipBlank (w ++ skipBlank s) := (skipBlank_blank_append hw _).symm
    _ = skipBlank s := by rw [← hs]

/-! ## Numbers -/

theorem stops_cons_iff {chars : List Char} {c : Char} {s : List Char} :
    Stops chars (c :: s) ↔ c.isDigit = false ∧ c ∉ chars := by
  simp [Stops]

theorem Stops.mono {chars more s : List Char} (h : Stops more s) (hsub : chars ⊆ more) :
    Stops chars s := by
  intro c hc
  exact ⟨(h c hc).1, fun hmem => (h c hc).2 (hsub hmem)⟩

theorem reads_digits : Reads readDigits (Verbatim Digits) (Stops []) := by
  constructor
  case sound =>
    intro s rest a h
    simp only [readDigits] at h
    split at h
    · contradiction
    · rename_i hdigits
      obtain ⟨rfl, rfl⟩ := Prod.mk.inj (Option.some.inj h)
      refine ⟨_, ⟨rfl, by simpa using hdigits, ?_⟩, List.takeWhile_append_dropWhile.symm⟩
      exact List.all_eq_true.mp List.all_takeWhile
  case complete =>
    rintro t rest a ⟨rfl, hne, hdigits⟩ hrest
    have hnone : rest.takeWhile Char.isDigit = [] ∧ rest.dropWhile Char.isDigit = rest := by
      cases rest with
      | nil => simp
      | cons c rest => simp [(hrest c rfl).1]
    simp [readDigits, List.takeWhile_append_of_pos hdigits, List.dropWhile_append_of_pos hdigits,
      hnone, hne]

theorem Digits.exists_cons {s : List Char} (h : Digits s) :
    ∃ c rest, s = c :: rest ∧ c.isDigit = true := by
  obtain ⟨c, rest, rfl⟩ := List.exists_cons_of_ne_nil h.1
  exact ⟨c, rest, rfl, h.2 c (by simp)⟩

theorem readWhole_of_head {c : Char} (h : c ≠ '0') (s : List Char) :
    readWhole (c :: s) = readDigits (c :: s) := by
  rw [readWhole]
  rintro rest heq
  exact h (List.cons.inj heq).1

theorem reads_whole : Reads readWhole (Verbatim Whole) (Stops []) := by
  constructor
  case sound =>
    intro s rest a h
    rw [readWhole.eq_def] at h
    split at h
    · obtain ⟨rfl, rfl⟩ := Prod.mk.inj (Option.some.inj h)
      exact ⟨['0'], ⟨rfl, .zero⟩, rfl⟩
    · rename_i hzero
      obtain ⟨t, ⟨rfl, hdigits⟩, rfl⟩ := reads_digits.sound h
      obtain ⟨c, t, rfl, -⟩ := hdigits.exists_cons
      refine ⟨_, ⟨rfl, .digits hdigits ?_⟩, rfl⟩
      intro hc
      obtain rfl := Option.some.inj hc
      exact hzero _ rfl
  case complete =>
    rintro t rest a ⟨rfl, hwhole⟩ hrest
    cases hwhole with
    | zero => rfl
    | digits hdigits hzero =>
        obtain ⟨c, t, rfl, -⟩ := hdigits.exists_cons
        have hc : c ≠ '0' := fun heq => hzero (heq ▸ rfl)
        rw [List.cons_append, readWhole_of_head hc, ← List.cons_append]
        exact reads_digits.complete ⟨rfl, hdigits⟩ hrest

theorem reads_fraction : Reads readFraction (Verbatim Fraction) (Stops ['.']) := by
  constructor
  case sound =>
    intro s rest a h
    rw [readFraction.eq_def] at h
    split at h
    · obtain ⟨⟨digits, after⟩, hdigits, h⟩ := Option.bind_eq_some_iff.mp h
      obtain ⟨rfl, rfl⟩ := Prod.mk.inj (Option.some.inj h)
      obtain ⟨t, ⟨rfl, hrule⟩, rfl⟩ := reads_digits.sound hdigits
      exact ⟨_, ⟨rfl, .present hrule⟩, rfl⟩
    · obtain ⟨rfl, rfl⟩ := Prod.mk.inj (Option.some.inj h)
      exact ⟨[], ⟨rfl, .absent⟩, rfl⟩
  case complete =>
    rintro t rest a ⟨rfl, hfraction⟩ hrest
    cases hfraction with
    | absent =>
        rw [List.nil_append, readFraction]
        rintro after rfl
        exact (stops_cons_iff.mp hrest).2 (by simp)
    | present hdigits =>
        have hread := reads_digits.complete ⟨rfl, hdigits⟩ (hrest.mono (List.nil_subset _))
        simp only [List.cons_append, readFraction, hread]
        rfl

theorem readSign_append {sign : List Char} (h : sign ∈ [[], ['+'], ['-']]) {s : List Char}
    (hs : Digits s) (rest : List Char) : readSign (sign ++ (s ++ rest)) = (sign, s ++ rest) := by
  obtain ⟨c, t, rfl, hc⟩ := hs.exists_cons
  simp only [List.mem_cons, List.not_mem_nil, or_false] at h
  rcases h with rfl | rfl | rfl
  · rw [List.nil_append, List.cons_append, readSign]
    · rintro after heq
      obtain ⟨rfl, -⟩ := List.cons.inj heq
      contradiction
    · rintro after heq
      obtain ⟨rfl, -⟩ := List.cons.inj heq
      contradiction
  · rfl
  · rfl

theorem readSign_sound (s : List Char) :
    (readSign s).1 ∈ [[], ['+'], ['-']] ∧ s = (readSign s).1 ++ (readSign s).2 := by
  rw [readSign.eq_def]
  split
  · simp
  · simp
  · simp

theorem reads_exponent : Reads readExponent (Verbatim Exponent) (Stops ['e', 'E']) := by
  constructor
  case sound =>
    intro s rest a h
    rw [readExponent.eq_def] at h
    split at h
    · rename_i e s
      split at h
      · rename_i he
        obtain ⟨⟨digits, after⟩, hdigits, h⟩ := Option.bind_eq_some_iff.mp h
        obtain ⟨rfl, rfl⟩ := Prod.mk.inj (Option.some.inj h)
        obtain ⟨t, ⟨rfl, hrule⟩, hrest⟩ := reads_digits.sound hdigits
        obtain ⟨hsign, hsplit⟩ := readSign_sound s
        refine ⟨_, ⟨rfl, .present (by simpa using he) hsign hrule⟩, ?_⟩
        rw [List.cons_append, List.cons_append, List.append_assoc, ← hrest, ← hsplit]
      · obtain ⟨rfl, rfl⟩ := Prod.mk.inj (Option.some.inj h)
        exact ⟨[], ⟨rfl, .absent⟩, rfl⟩
    · obtain ⟨rfl, rfl⟩ := Prod.mk.inj (Option.some.inj h)
      exact ⟨[], ⟨rfl, .absent⟩, rfl⟩
  case complete =>
    rintro t rest a ⟨rfl, hexponent⟩ hrest
    cases hexponent with
    | absent =>
        cases rest with
        | nil => rfl
        | cons c rest =>
            have hc : ¬(c == 'e' || c == 'E') = true := by
              simpa using (stops_cons_iff.mp hrest).2
            rw [List.nil_append, readExponent, if_neg hc]
    | @present e sign s he hsign hdigits =>
        have hcond : (e == 'e' || e == 'E') = true := by simpa using he
        have hread := reads_digits.complete ⟨rfl, hdigits⟩ (hrest.mono (List.nil_subset _))
        simp only [List.cons_append, List.append_assoc, readExponent, if_pos hcond,
          readSign_append hsign hdigits, hread]
        rfl

theorem Exponent.stops {t rest : List Char} (h : Exponent t) (hrest : Stops ['.', 'e', 'E'] rest) :
    Stops ['.'] (t ++ rest) := by
  cases h with
  | absent => exact hrest.mono (by simp)
  | present he _ _ =>
      simp only [List.mem_cons, List.not_mem_nil, or_false] at he
      rcases he with rfl | rfl
      · exact stops_cons_iff.mpr (by decide)
      · exact stops_cons_iff.mpr (by decide)

theorem Fraction.stops {t rest : List Char} (h : Fraction t) (hrest : Stops ['.'] rest) :
    Stops [] (t ++ rest) := by
  cases h with
  | absent => exact hrest.mono (by simp)
  | present _ => exact stops_cons_iff.mpr (by decide)

theorem reads_magnitude : Reads readMagnitude (Verbatim Magnitude) (Stops ['.', 'e', 'E']) := by
  constructor
  case sound =>
    intro s rest a h
    obtain ⟨⟨whole, afterWhole⟩, hreadWhole, h⟩ := Option.bind_eq_some_iff.mp h
    obtain ⟨⟨fraction, afterFraction⟩, hreadFraction, h⟩ := Option.bind_eq_some_iff.mp h
    obtain ⟨⟨exponent, afterExponent⟩, hreadExponent, h⟩ := Option.bind_eq_some_iff.mp h
    obtain ⟨rfl, rfl⟩ := Prod.mk.inj (Option.some.inj h)
    obtain ⟨_, ⟨rfl, hwhole⟩, rfl⟩ := reads_whole.sound hreadWhole
    obtain ⟨_, ⟨rfl, hfraction⟩, rfl⟩ := reads_fraction.sound hreadFraction
    obtain ⟨_, ⟨rfl, hexponent⟩, rfl⟩ := reads_exponent.sound hreadExponent
    exact ⟨_, ⟨rfl, .mk hwhole hfraction hexponent⟩, by simp only [List.append_assoc]⟩
  case complete =>
    rintro _ rest _ ⟨rfl, @⟨whole, fraction, exponent, hwhole, hfraction, hexponent⟩⟩ hrest
    have hdot := hexponent.stops hrest
    have hreadWhole := reads_whole.complete ⟨rfl, hwhole⟩ (hfraction.stops hdot)
    have hreadFraction := reads_fraction.complete ⟨rfl, hfraction⟩ hdot
    have hreadExponent :=
      reads_exponent.complete ⟨rfl, hexponent⟩ (hrest.mono (List.subset_cons_self _ _))
    simp only [List.append_assoc, readMagnitude, hreadWhole, hreadFraction, hreadExponent,
      Option.bind_eq_bind, Option.bind_some, Option.pure_def]

theorem Magnitude.exists_cons {s : List Char} (h : Magnitude s) :
    ∃ c rest, s = c :: rest ∧ c.isDigit = true := by
  obtain @⟨whole, fraction, exponent, hwhole, -, -⟩ := h
  cases hwhole with
  | zero => exact ⟨'0', _, rfl, rfl⟩
  | digits hdigits _ =>
      obtain ⟨c, t, rfl, hc⟩ := hdigits.exists_cons
      exact ⟨c, _, rfl, hc⟩

theorem reads_number : Reads readNumber (Verbatim Number) (Stops ['.', 'e', 'E']) := by
  constructor
  case sound =>
    intro s rest a h
    rw [readNumber.eq_def] at h
    split at h
    · obtain ⟨⟨digits, after⟩, hdigits, h⟩ := Option.bind_eq_some_iff.mp h
      obtain ⟨rfl, rfl⟩ := Prod.mk.inj (Option.some.inj h)
      obtain ⟨t, ⟨rfl, hrule⟩, rfl⟩ := reads_magnitude.sound hdigits
      exact ⟨_, ⟨rfl, .negative hrule⟩, rfl⟩
    · obtain ⟨t, ⟨rfl, hrule⟩, rfl⟩ := reads_magnitude.sound h
      exact ⟨_, ⟨rfl, .positive hrule⟩, rfl⟩
  case complete =>
    rintro _ rest t ⟨rfl, hnumber⟩ hrest
    cases hnumber with
    | positive hmagnitude =>
        have hread := reads_magnitude.complete ⟨rfl, hmagnitude⟩ hrest
        obtain ⟨c, s, rfl, hc⟩ := hmagnitude.exists_cons
        rw [List.cons_append, readNumber]
        · exact hread
        · rintro after heq
          obtain ⟨rfl, -⟩ := List.cons.inj heq
          contradiction
    | negative hmagnitude =>
        have hread := reads_magnitude.complete ⟨rfl, hmagnitude⟩ hrest
        simp only [List.cons_append, readNumber, hread]
        rfl

/-! ## Strings -/

theorem shortEscape?_eq_some_iff {e c : Char} : shortEscape? e = some c ↔ (e, c) ∈ escapes := by
  unfold shortEscape?
  split
  all_goals simp_all [escapes, eq_comm]

theorem lt_of_hexValue? {c : Char} {n : ℕ} (h : hexValue? c = some n) : c.toNat < 128 := by
  have hlt {last : Char} (hlast : last.toNat < 128) (hc : c ≤ last) : c.toNat < 128 :=
    Nat.lt_of_le_of_lt hc hlast
  unfold hexValue? at h
  split at h
  · rename_i hc
    exact hlt (by decide) hc.2
  · split at h
    · rename_i hc
      exact hlt (by decide) hc.2
    · split at h
      · rename_i hc
        exact hlt (by decide) hc.2
      · contradiction

theorem hexValue?_eq_some_iff {c : Char} {n : ℕ} : hexValue? c = some n ↔ (c, n) ∈ hexDigits := by
  constructor
  · have hall : ∀ m : Fin 128, ∀ n ∈ hexValue? (Char.ofNat m.val),
        (Char.ofNat m.val, n) ∈ hexDigits := by
      decide +kernel
    intro h
    have hc := hall ⟨c.toNat, lt_of_hexValue? h⟩
    rw [Char.ofNat_toNat] at hc
    exact hc n h
  · have hall : ∀ digit ∈ hexDigits, hexValue? digit.1 = some digit.2 := by decide
    exact hall (c, n)

theorem unitOfHex?_eq_some_iff {a b c d : Char} {unit : TextUnit} :
    unitOfHex? a b c d = some unit ↔ ∃ i j k l, (a, i) ∈ hexDigits ∧ (b, j) ∈ hexDigits ∧
      (c, k) ∈ hexDigits ∧ (d, l) ∈ hexDigits ∧
        unit = unitOfNumber (((i * 16 + j) * 16 + k) * 16 + l) := by
  simp only [← hexValue?_eq_some_iff, unitOfHex?, Option.bind_eq_bind, Option.bind_eq_some_iff,
    Option.pure_def, Option.some.injEq, @eq_comm _ unit]
  constructor
  · rintro ⟨i, hi, j, hj, k, hk, l, hl, h⟩
    exact ⟨i, j, k, l, hi, hj, hk, hl, h⟩
  · rintro ⟨i, j, k, l, hi, hj, hk, hl, h⟩
    exact ⟨i, hi, j, hj, k, hk, l, hl, h⟩

/-- Whatever text an element of a string has, it is read as that element. -/
theorem readText_unitText {unit : TextUnit} {s : List Char} (h : UnitText unit s)
    (rest : List Char) :
    readText (s ++ rest) = (readText rest).map fun read => (unit :: read.1, read.2) := by
  cases h with
  | plain hcontrol hquote hslash =>
      exact readText_plain hquote hslash (Char.not_lt.mpr hcontrol) rest
  | letter h => exact readText_shortEscape (shortEscape?_eq_some_iff.mpr h) rest
  | @number a b c d i j k l ha hb hc hd =>
      have hunit := unitOfHex?_eq_some_iff.mpr ⟨i, j, k, l, ha, hb, hc, hd, rfl⟩
      simp only [List.cons_append, List.nil_append, readText, hunit]
      cases readText rest <;> rfl

/-- The texts of a string up to and with its closing quote. -/
def Closed (units : List TextUnit) (t : List Char) : Prop :=
  ∃ s, UnitsText units s ∧ t = s ++ ['"']

theorem Closed.cons {unit : TextUnit} {units : List TextUnit} {s t : List Char}
    (h : UnitText unit s) (ht : Closed units t) : Closed (unit :: units) (s ++ t) := by
  obtain ⟨t, ht, rfl⟩ := ht
  exact ⟨s ++ t, .cons h ht, by rw [List.append_assoc]⟩

theorem reads_text : Reads readText Closed fun _ => True := by
  constructor
  case sound =>
    intro s rest units h
    fun_induction readText s generalizing units rest with
    | case1 s =>
        obtain ⟨rfl, rfl⟩ := Prod.mk.inj (Option.some.inj h)
        exact ⟨['"'], ⟨[], .nil, rfl⟩, rfl⟩
    | case2 a b c d s ih =>
        obtain ⟨unit, hunit, h⟩ := Option.bind_eq_some_iff.mp h
        obtain ⟨⟨units, after⟩, hunits, h⟩ := Option.bind_eq_some_iff.mp h
        obtain ⟨rfl, rfl⟩ := Prod.mk.inj (Option.some.inj h)
        obtain ⟨i, j, k, l, ha, hb, hc, hd, rfl⟩ := unitOfHex?_eq_some_iff.mp hunit
        obtain ⟨t, ht, rfl⟩ := ih hunits
        exact ⟨_, ht.cons (.number ha hb hc hd), rfl⟩
    | case3 e s _ ih =>
        obtain ⟨c, hc, h⟩ := Option.bind_eq_some_iff.mp h
        obtain ⟨⟨units, after⟩, hunits, h⟩ := Option.bind_eq_some_iff.mp h
        obtain ⟨rfl, rfl⟩ := Prod.mk.inj (Option.some.inj h)
        obtain ⟨t, ht, rfl⟩ := ih hunits
        exact ⟨_, ht.cons (.letter (shortEscape?_eq_some_iff.mp hc)), rfl⟩
    | case4 => contradiction
    | case5 c s hquote _ _ hplain ih =>
        obtain ⟨⟨units, after⟩, hunits, h⟩ := Option.bind_eq_some_iff.mp h
        obtain ⟨rfl, rfl⟩ := Prod.mk.inj (Option.some.inj h)
        obtain ⟨t, ht, rfl⟩ := ih hunits
        have hc : ' ' ≤ c ∧ c ≠ '\\' := by simpa using hplain
        exact ⟨_, ht.cons (.plain hc.1 hquote hc.2), rfl⟩
    | case6 => contradiction
  case complete =>
    rintro _ rest units ⟨t, ht, rfl⟩ -
    induction ht with
    | nil => rfl
    | cons hunit _ ih =>
        rw [List.append_assoc, List.append_assoc, readText_unitText hunit, ← List.append_assoc, ih]
        rfl

end EcpAgreement.Document
