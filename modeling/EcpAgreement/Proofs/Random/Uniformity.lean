import EcpAgreement.Proofs.Random.Attempts
import Mathlib.Data.Fintype.Prod
import Mathlib.Logic.Equiv.Fin.Basic
import Mathlib.Order.Interval.Finset.Nat
import Mathlib.SetTheory.Cardinal.Finite

/-!
# Random scalars are exact and unbiased

A draw is split into the number that it stands for and the bits that were
cleared, and the two parts are independent (`splitDraw`).  So every number below
the power of two above the order is reached by one draw for every setting of the
cleared bits, whatever the order.  The order is odd and more than half of that
power, so at least half of all draws are of use.
-/

namespace EcpAgreement.CurveGroup

/- Powers are those of the natural numbers themselves, whatever else is in scope. -/
attribute [local instance (2000)] instPowNat

/-- A string in the width of the scalars of a group. -/
abbrev Draw (group : CurveGroup) : Type :=
  { s : Octets // s.length = group.orderLength }

/-- The draws that give a scalar with a certain number. -/
abbrev DrawOf (group : CurveGroup) (n : ℕ) : Type :=
  { s : group.Draw // ∃ k, group.scalarOfDraw s.val = .ok k ∧ k.octets.value = n }

/-- The draws that give a scalar. -/
abbrev AcceptedDraw (group : CurveGroup) : Type :=
  { s : group.Draw // ∃ k, group.scalarOfDraw s.val = .ok k }

/-! ## Draws as numbers -/

/-- A draw as a number. -/
def drawValue (group : CurveGroup) : group.Draw ≃ Fin (256 ^ group.orderLength) where
  toFun s := ⟨Octets.value s.val, by
    have hlt := Octets.value_lt s.val
    rwa [s.property] at hlt⟩
  invFun n := ⟨Octets.ofNat group.orderLength n.val, Octets.length_ofNat _ _⟩
  left_inv s := by
    apply Subtype.ext
    have hback := Octets.ofNat_value s.val
    rwa [s.property] at hback
  right_inv n := Fin.ext (Octets.value_ofNat_of_lt n.isLt)

theorem two_pow_excess_mul (group : CurveGroup) :
    2 ^ (8 * group.orderLength - group.orderBits) * 2 ^ group.orderBits =
      256 ^ group.orderLength := by
  rw [← Nat.pow_add, Nat.sub_add_cancel group.orderBits_le, Nat.pow_mul]

/-- A draw as the number that it stands for and the bits that are cleared. -/
def splitDraw (group : CurveGroup) :
    group.Draw ≃
      Fin (2 ^ group.orderBits) × Fin (2 ^ (8 * group.orderLength - group.orderBits)) :=
  group.drawValue.trans <|
    (finCongr group.two_pow_excess_mul.symm).trans <|
      finProdFinEquiv.symm.trans (Equiv.prodComm _ _)

variable {group : CurveGroup}

theorem splitDraw_fst (s : group.Draw) :
    (group.splitDraw s).1.val = group.drawnNumber s.val :=
  rfl

/-- The cleared bits are free, whatever is asked of the number. -/
theorem card_draws_of (group : CurveGroup) (P : ℕ → Prop) :
    Nat.card { s : group.Draw // P (group.drawnNumber s.val) } =
      Nat.card { r : Fin (2 ^ group.orderBits) // P r.val } *
        2 ^ (8 * group.orderLength - group.orderBits) := by
  have hsplit : { s : group.Draw // P (group.drawnNumber s.val) } ≃
      { pair : Fin (2 ^ group.orderBits) ×
        Fin (2 ^ (8 * group.orderLength - group.orderBits)) // P pair.1.val } :=
    group.splitDraw.subtypeEquiv fun s => by rw [splitDraw_fst]
  have hfree : { pair : Fin (2 ^ group.orderBits) ×
        Fin (2 ^ (8 * group.orderLength - group.orderBits)) // P pair.1.val } ≃
      { r : Fin (2 ^ group.orderBits) // P r.val } ×
        Fin (2 ^ (8 * group.orderLength - group.orderBits)) :=
    Equiv.prodSubtypeFstEquivSubtypeProd (p := fun r : Fin (2 ^ group.orderBits) => P r.val)
  rw [Nat.card_congr (hsplit.trans hfree), Nat.card_prod, Nat.card_eq_fintype_card (α := Fin _),
    Fintype.card_fin]

/-! ## The order and its bits -/

theorem order_lt_two_pow (group : CurveGroup) : group.order < 2 ^ group.orderBits := by
  cases group with
  | builtIn group => exact Octets.value_lt_two_pow group.params.q
  | explicit group => exact Octets.value_lt_two_pow group.order

theorem two_pow_le_order (group : CurveGroup) (h : group.orderBits ≠ 0) :
    2 ^ (group.orderBits - 1) ≤ group.order := by
  cases group with
  | builtIn group => exact Octets.two_pow_le_value h
  | explicit group => exact Octets.two_pow_le_value h

/-- The order is odd and above one. -/
structure OddOrder (group : CurveGroup) : Prop where
  one_lt_orderBits : 1 < group.orderBits
  odd : group.order % 2 = 1

theorem oddOrder_builtInGroup (named : NamedCurve) :
    (builtIn named.builtInGroup).OddOrder := by
  cases named <;> exact ⟨by decide +kernel, by decide +kernel⟩

theorem oddOrder_explicit (group : ExplicitGroup) : (explicit group).OddOrder :=
  ⟨group.one_lt_bitLength_order, group.order_odd⟩

/-- An odd order is above half of the power of two, not only at it. -/
theorem OddOrder.two_pow_le (h : group.OddOrder) :
    2 ^ group.orderBits ≤ 2 * (group.order - 1) := by
  have hbits := h.one_lt_orderBits
  have hodd := h.odd
  have hle := two_pow_le_order group (by omega)
  have hsplit : 2 ^ group.orderBits = 2 * 2 ^ (group.orderBits - 1) := by
    rw [← Nat.pow_succ', Nat.succ_eq_add_one, Nat.sub_add_cancel (by omega)]
  have heven : 2 ^ (group.orderBits - 1) = 2 * 2 ^ (group.orderBits - 2) := by
    rw [← Nat.pow_succ', Nat.succ_eq_add_one]
    congr 1
    omega
  omega

/-! ## Counting draws -/

theorem card_draw (group : CurveGroup) : Nat.card group.Draw = 256 ^ group.orderLength := by
  rw [Nat.card_congr group.drawValue, Nat.card_eq_fintype_card, Fintype.card_fin]

theorem exists_scalarOfDraw_value_iff {n : ℕ} (hpos : 0 < n) (hlt : n < group.order)
    (s : group.Draw) :
    (∃ k, group.scalarOfDraw s.val = .ok k ∧ k.octets.value = n) ↔
      group.drawnNumber s.val = n := by
  constructor
  · rintro ⟨k, hk, rfl⟩
    exact ((scalarOfDraw_eq_ok_iff s.property).mp hk).2.2.symm
  · intro hn
    have husable : group.Usable s.val := by
      rw [Usable, hn]
      exact ⟨hpos, hlt⟩
    obtain ⟨k, hk⟩ := (exists_scalarOfDraw_iff s.property).mpr husable
    refine ⟨k, hk, ?_⟩
    rw [((scalarOfDraw_eq_ok_iff s.property).mp hk).2.2, hn]

theorem card_drawOf {n : ℕ} (hpos : 0 < n) (hlt : n < group.order) :
    Nat.card (group.DrawOf n) = 2 ^ (8 * group.orderLength - group.orderBits) := by
  have hbelow : n < 2 ^ group.orderBits := hlt.trans group.order_lt_two_pow
  have hone : Nat.card { r : Fin (2 ^ group.orderBits) // r.val = n } = 1 := by
    rw [Nat.card_eq_one_iff_unique]
    refine ⟨⟨?_⟩, ⟨⟨n, hbelow⟩, rfl⟩⟩
    rintro ⟨r, hr⟩ ⟨r', hr'⟩
    exact Subtype.ext (Fin.ext (hr.trans hr'.symm))
  rw [Nat.card_congr (Equiv.subtypeEquivRight (exists_scalarOfDraw_value_iff hpos hlt)),
    card_draws_of group (· = n), hone, one_mul]

theorem card_acceptedDraw (group : CurveGroup) :
    Nat.card group.AcceptedDraw =
      (group.order - 1) * 2 ^ (8 * group.orderLength - group.orderBits) := by
  have hbelow := group.order_lt_two_pow
  have hnumbers : Nat.card { r : Fin (2 ^ group.orderBits) // 0 < r.val ∧ r.val < group.order } =
      group.order - 1 := by
    have hfinset : { r : Fin (2 ^ group.orderBits) // 0 < r.val ∧ r.val < group.order } ≃
        Finset.Ioo 0 group.order :=
      { toFun r := ⟨r.val.val, Finset.mem_Ioo.mpr r.property⟩
        invFun n := ⟨⟨n.val, (Finset.mem_Ioo.mp n.property).2.trans hbelow⟩,
          Finset.mem_Ioo.mp n.property⟩
        left_inv _ := rfl
        right_inv _ := rfl }
    rw [Nat.card_congr hfinset, Nat.card_eq_fintype_card, Fintype.card_coe, Nat.card_Ioo,
      Nat.sub_zero]
  rw [Nat.card_congr (Equiv.subtypeEquivRight fun s : group.Draw =>
    exists_scalarOfDraw_iff s.property)]
  exact (card_draws_of group fun n => 0 < n ∧ n < group.order).trans (by rw [hnumbers])

/-- At least half of all draws give a scalar. -/
theorem OddOrder.half_accepted (h : group.OddOrder) :
    Nat.card group.Draw ≤ 2 * Nat.card group.AcceptedDraw := by
  rw [card_draw, card_acceptedDraw, ← two_pow_excess_mul, ← mul_assoc, mul_comm]
  exact Nat.mul_le_mul_right _ h.two_pow_le

/-- What drawing a scalar does on every source, and how often each scalar
comes. -/
structure DrawsExactly (group : CurveGroup) : Prop where
  ends : ∀ {σ : Type} [RandomSource σ] (source : σ),
    group.Ends source 128 (group.randomScalar source)
  /-- By every count of requests, the source after `n` requests has seen `n` of
  them. -/
  requests : ∀ {σ : Type} [RandomSource σ] (source : σ) (count : σ → ℕ),
    (∀ source, count (RandomSource.draw source group.orderLength).2 = count source + 1) →
    ∀ n, count (RandomSource.afterRequests source group.orderLength n) = count source + n
  card_draw : Nat.card group.Draw = 256 ^ group.orderLength
  card_drawOf : ∀ n, 0 < n → n < group.order →
    Nat.card (group.DrawOf n) = 2 ^ (8 * group.orderLength - group.orderBits)
  inRange : ∀ (s : group.Draw) k, group.scalarOfDraw s.val = .ok k →
    0 < k.octets.value ∧ k.octets.value < group.order
  half_accepted : Nat.card group.Draw ≤ 2 * Nat.card group.AcceptedDraw

/-- Every explicit group, and every built-in group of a standard curve, draws
its scalars exactly. -/
theorem draws_exactly {group : CurveGroup}
    (h : (∃ explicitGroup, group = .explicit explicitGroup) ∨
      ∃ named : NamedCurve, named.group = .ok group) : group.DrawsExactly := by
  have hodd : group.OddOrder := by
    rcases h with ⟨explicitGroup, rfl⟩ | ⟨named, hnamed⟩
    · exact oddOrder_explicit explicitGroup
    · rw [NamedCurve.group] at hnamed
      split at hnamed
      · rw [← Except.ok.inj hnamed]
        exact oddOrder_builtInGroup named
      · contradiction
  constructor
  case ends =>
    intro σ _ source
    exact ends_randomScalarWithin group source maxScalarAttempts
  case requests =>
    intro σ _ source count hcount n
    exact RandomSource.count_afterRequests hcount source n
  case card_draw => exact group.card_draw
  case card_drawOf =>
    intro n hpos hlt
    exact card_drawOf hpos hlt
  case inRange =>
    intro s k hk
    have hrange := inRange_of_scalar hk
    exact ⟨hrange.pos, hrange.lt_order⟩
  case half_accepted => exact hodd.half_accepted

/-- On P-521 seven bits of a draw are cleared. -/
theorem draws_exactly_nistP521 :
    NamedCurve.nistP521.group = .ok (.builtIn NamedCurve.nistP521.builtInGroup) ∧
      (builtIn NamedCurve.nistP521.builtInGroup).DrawsExactly ∧
      8 * (builtIn NamedCurve.nistP521.builtInGroup).orderLength -
        (builtIn NamedCurve.nistP521.builtInGroup).orderBits = 7 :=
  ⟨rfl, draws_exactly (Or.inr ⟨NamedCurve.nistP521, rfl⟩), by decide +kernel⟩

end EcpAgreement.CurveGroup
