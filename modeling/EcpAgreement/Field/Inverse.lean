/-!
# Inverses modulo a number

Euclid's algorithm on two numbers, carrying along a multiplier for each, and
the inverse modulo `m` that it yields. Nothing is assumed about `m`: a residue
has an inverse exactly when it shares no factor with `m`, and `inverse?` says
which.
-/

namespace EcpAgreement

/-- Euclid's algorithm on `r` and `s`. If `r` and `s` are `u` times and `v`
times some number, the result is the greatest common divisor with the
multiplier that gives it. -/
def euclid (r s : Nat) (u v : Int) : Nat × Int :=
  if h : s = 0 then
    (r, u)
  else
    have _ : r % s < s := Nat.mod_lt r (Nat.pos_of_ne_zero h)
    euclid s (r % s) v (u - (r / s : Nat) * v)
termination_by s

/-- The inverse of a residue modulo `m`, if there is one. -/
def inverse? {m : Nat} (a : Fin m) : Option (Fin m) :=
  if (euclid m a.val 0 1).1 = 1 then
    some ⟨((euclid m a.val 0 1).2 % m).toNat, by
      have hm : (0 : Int) < m := Int.natCast_pos.mpr a.pos
      have hlt := Int.emod_lt_of_pos (euclid m a.val 0 1).2 hm
      have hle := Int.emod_nonneg (euclid m a.val 0 1).2 (Int.ne_of_gt hm)
      omega⟩
  else
    none

theorem euclid_fst (r s : Nat) (u v : Int) : (euclid r s u v).1 = Nat.gcd s r := by
  fun_induction euclid r s u v with
  | case1 r s h => simp
  | case2 r s u v h hlt ih => rw [ih, Nat.gcd_rec s r]

/-- The multiplier that comes out gives the number that comes out, up to a
multiple of `m`, if the ones that went in did so. -/
theorem dvd_euclid {m a : Int} (r s : Nat) (u v : Int)
    (hr : m ∣ u * a - r) (hs : m ∣ v * a - s) :
    m ∣ (euclid r s u v).2 * a - (euclid r s u v).1 := by
  fun_induction euclid r s u v with
  | case1 r s h => exact hr
  | case2 r s u v h hlt ih =>
      apply ih hs
      have hmod : ((r % s : Nat) : Int) = r - (r / s : Nat) * (s : Int) := by
        have hdiv : s * (r / s) + r % s = r := Nat.div_add_mod r s
        have hdiv' : (s : Int) * (r / s : Nat) + (r % s : Nat) = r := by exact_mod_cast hdiv
        rw [Int.mul_comm] at hdiv'
        omega
      have hsplit : (u - (r / s : Nat) * v) * a - ((r % s : Nat) : Int)
          = (u * a - r) - (r / s : Nat) * (v * a - s) := by
        rw [hmod, Int.sub_mul, Int.mul_sub, Int.mul_assoc]
        omega
      rw [hsplit]
      exact Int.dvd_sub hr (Int.dvd_mul_of_dvd_right hs)

/-- A residue without an inverse shares a factor with the modulus. -/
theorem inverse?_eq_none_iff {m : Nat} {a : Fin m} :
    inverse? a = none ↔ Nat.gcd a.val m ≠ 1 := by
  simp [inverse?, euclid_fst]

/-- An inverse times its residue leaves one. -/
theorem dvd_of_inverse? {m : Nat} {a b : Fin m} (h : inverse? a = some b) :
    (m : Int) ∣ b.val * a.val - 1 := by
  unfold inverse? at h
  split at h
  · rename_i hone
    have hdvd : (m : Int) ∣ (euclid m a.val 0 1).2 * a.val - (euclid m a.val 0 1).1 :=
      dvd_euclid m a.val 0 1 (by simp) (by simp)
    have hm : (0 : Int) < m := Int.natCast_pos.mpr a.pos
    have hval : (b.val : Int) = (euclid m a.val 0 1).2 % m := by
      rw [← Option.some.inj h]
      exact Int.toNat_of_nonneg (Int.emod_nonneg _ (Int.ne_of_gt hm))
    rw [hone] at hdvd
    have hsplit : ((euclid m a.val 0 1).2 % m) * (a.val : Int) - 1
        = ((euclid m a.val 0 1).2 * a.val - 1) - m * ((euclid m a.val 0 1).2 / m * a.val) := by
      rw [Int.emod_def, Int.sub_mul, Int.mul_assoc]
      omega
    rw [hval, hsplit]
    exact Int.dvd_sub hdvd (Int.dvd_mul_right _ _)
  · contradiction

end EcpAgreement
