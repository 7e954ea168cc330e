import Mathlib.Data.List.Prime
import Mathlib.NumberTheory.LucasPrimality

/-!
# Certificates of primality

A number `m` is prime if some root has order `m - 1` modulo `m`, and the order is
tested at the prime divisors of `m - 1` alone.  A certificate names the root and
these divisors; a table of certificates names in each of them only numbers that
earlier ones are about.  Checking a table takes a few hundred multiplications
modulo each number and is done by evaluation (`prime_of_checked`).
-/

namespace EcpAgreement

/-- A power modulo `m`, up to multiples of `m`.  The base is squared once for
every bit of the exponent, of which there are at most `bits`. -/
def powMod (m : ℕ) : ℕ → ℕ → ℕ → ℕ
  | 0, _, _ => 1
  | bits + 1, base, e =>
      let rest := powMod m bits (base * base % m) (e / 2)
      if e % 2 = 1 then base * rest % m else rest

theorem cast_powMod {m bits : ℕ} {base e : ℕ} (h : e < 2 ^ bits) :
    (powMod m bits base e : ZMod m) = (base : ZMod m) ^ e := by
  induction bits generalizing base e with
  | zero =>
      have hzero : e = 0 := by omega
      rw [powMod, hzero, pow_zero, Nat.cast_one]
  | succ bits ih =>
      have hhalf : e / 2 < 2 ^ bits := by
        rw [pow_succ] at h
        omega
      have hrest : (powMod m bits (base * base % m) (e / 2) : ZMod m) =
          (base : ZMod m) ^ (2 * (e / 2)) := by
        rw [ih hhalf, ZMod.natCast_mod, Nat.cast_mul, ← pow_two, ← pow_mul]
      rw [powMod]
      by_cases hodd : e % 2 = 1
      · have hsucc : e = 2 * (e / 2) + 1 := by omega
        rw [if_pos hodd, ZMod.natCast_mod, Nat.cast_mul, hrest, ← pow_succ', ← hsucc]
      · have heven : e = 2 * (e / 2) := by omega
        rw [if_neg hodd, hrest, ← heven]

/-- What shows that a number is prime, once its divisors are known to be. -/
structure PrimeCertificate where
  /-- The number. -/
  number : ℕ
  /-- A residue of full order. -/
  root : ℕ
  /-- The prime divisors of the number less one. -/
  divisors : List ℕ

namespace PrimeCertificate

/-- Whether a power of the root with the given exponent leaves one. -/
def leavesOne (c : PrimeCertificate) (e : ℕ) : Bool :=
  powMod c.number (c.number.log2 + 1) c.root e % c.number == 1 % c.number

/-- Whether the root has full order, and the number less one no divisors but the
named ones, all of them known. -/
def check (known : List ℕ) (c : PrimeCertificate) : Bool :=
  c.divisors.all known.contains &&
    decide (c.divisors.prod ^ c.number.log2 % (c.number - 1) = 0) &&
    c.leavesOne (c.number - 1) &&
    c.divisors.all fun q => !c.leavesOne ((c.number - 1) / q)

theorem leavesOne_iff {c : PrimeCertificate} {e : ℕ} (h : e ≤ c.number) :
    c.leavesOne e = true ↔ (c.root : ZMod c.number) ^ e = 1 := by
  have hbits : e < 2 ^ (c.number.log2 + 1) := h.trans_lt Nat.lt_log2_self
  rw [leavesOne, beq_iff_eq, ← ZMod.natCast_eq_natCast_iff', cast_powMod hbits, Nat.cast_one]

/-- A divisor of the number less one is among the named ones. -/
theorem mem_divisors {c : PrimeCertificate} (hprimes : ∀ q ∈ c.divisors, q.Prime)
    (hpower : c.divisors.prod ^ c.number.log2 % (c.number - 1) = 0) {q : ℕ} (hq : q.Prime)
    (hdvd : q ∣ c.number - 1) : q ∈ c.divisors := by
  have hprod : q ∣ c.divisors.prod :=
    hq.dvd_of_dvd_pow (hdvd.trans (Nat.dvd_of_mod_eq_zero hpower))
  obtain ⟨r, hr, hqr⟩ := (Prime.dvd_prod_iff hq.prime).mp hprod
  rw [(Nat.prime_dvd_prime_iff_eq hq (hprimes r hr)).mp hqr]
  exact hr

theorem prime_of_check {known : List ℕ} {c : PrimeCertificate}
    (hknown : ∀ q ∈ known, q.Prime) (h : c.check known = true) : c.number.Prime := by
  rw [check, Bool.and_eq_true, Bool.and_eq_true, Bool.and_eq_true] at h
  obtain ⟨⟨⟨hdivisors, hpower⟩, hone⟩, horder⟩ := h
  have hprimes : ∀ q ∈ c.divisors, q.Prime := by
    intro q hq
    exact hknown q (List.contains_iff_mem.mp (List.all_eq_true.mp hdivisors q hq))
  refine lucas_primality c.number (c.root : ZMod c.number) ?_ ?_
  · exact (leavesOne_iff (Nat.sub_le _ _)).mp hone
  · intro q hq hdvd hpow
    have hmem := mem_divisors hprimes (of_decide_eq_true hpower) hq hdvd
    have hleaves := (leavesOne_iff ((Nat.div_le_self _ q).trans (Nat.sub_le _ _))).mpr hpow
    have hnot := List.all_eq_true.mp horder q hmem
    rw [hleaves] at hnot
    contradiction

/-- Whether every certificate of a table is good, given the numbers that came
before it. -/
def checkAll : List ℕ → List PrimeCertificate → Bool
  | _, [] => true
  | known, c :: rest => c.check known && checkAll (c.number :: known) rest

theorem prime_of_checkAll {known : List ℕ} {table : List PrimeCertificate}
    (hknown : ∀ q ∈ known, q.Prime) (h : checkAll known table = true) :
    ∀ c ∈ table, c.number.Prime := by
  induction table generalizing known with
  | nil =>
      intro c hc
      contradiction
  | cons first rest ih =>
      rw [checkAll, Bool.and_eq_true] at h
      have hfirst := prime_of_check hknown h.1
      have hrest := ih (List.forall_mem_cons.mpr ⟨hfirst, hknown⟩) h.2
      exact List.forall_mem_cons.mpr ⟨hfirst, hrest⟩

/-- Every number of a checked table is prime. -/
theorem prime_of_checked {table : List PrimeCertificate} (h : checkAll [] table = true)
    {p : ℕ} (hp : p ∈ table.map number) : p.Prime := by
  obtain ⟨c, hc, rfl⟩ := List.mem_map.mp hp
  exact prime_of_checkAll (List.forall_mem_nil _) h c hc

end PrimeCertificate

end EcpAgreement
