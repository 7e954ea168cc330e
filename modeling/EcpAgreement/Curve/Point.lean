import EcpAgreement.Error
import EcpAgreement.Octets.Lemmas

/-!
# Points and scalars as octet strings

A point as it passes between the curve groups and the wire: the point at
infinity, or two coordinates as octet strings. A point says nothing about the
curve it belongs to, and its strings may have any length; each group checks the
points that it is given.

A scalar, which is a multiplier of points, is read from octets by comparing them
with the order of a group: its number is at least one and below the order, and it
is kept in the width of the order. It does not remember which group read it.
-/

namespace EcpAgreement

/-- The point at infinity, or a pair of coordinates. -/
inductive Point where
  | identity
  | affine (x y : Octets)
  deriving DecidableEq

namespace Point

/-- Whether the point is the one at infinity. -/
def isIdentity : Point → Bool
  | identity => true
  | affine _ _ => false

/-- Both coordinates. The point at infinity has none. -/
def coordinates : Point → Except CurveError (Octets × Octets)
  | identity => .error (.identity "affine coordinate extraction")
  | affine x y => .ok (x, y)

/-- The point once its coordinates have been erased. -/
def wiped : Point → Point
  | identity => identity
  | affine _ _ => affine [] []

/-- A description that shows the size of a point and none of its octets. -/
def describe : Point → String
  | identity => "EcPoint::Identity"
  | affine x _ => s!"EcPoint::Affine({x.length} bytes, [REDACTED])"

end Point

/-! ## Scalars -/

/- Powers are those of the natural numbers themselves, whatever else is in scope. -/
attribute [local instance (2000)] instPowNat

/-- A multiplier, as an octet string. -/
structure Scalar where
  /-- The multiplier, in the width of the order that bounds it. -/
  octets : Octets
  deriving DecidableEq

namespace Scalar

/-- A description that shows nothing of the scalar. -/
def describe (_ : Scalar) : String :=
  "EcScalar([REDACTED])"

/-- The order `q` without its leading zeros. -/
def bound (q : Octets) : Octets :=
  q.suffix q.significantLength q.significantLength_le

theorem length_eq_bound {s q padded : Octets} (h : s.leftPad? q.significantLength = some padded) :
    padded.length = (bound q).length := by
  rw [Octets.length_of_leftPad? h, bound, Octets.length_suffix]

/-- Reads a multiplier that is at least one and below the order `q`. Leading
zeros of either string do not matter. -/
def belowOrder (s q : Octets) (context : String) : Except CurveError Scalar :=
  match hpad : s.leftPad? q.significantLength with
  | none => .error (.scalarRange context)
  | some padded =>
      if padded.less (bound q) (length_eq_bound hpad) && padded.isNonzero then
        .ok ⟨padded⟩
      else
        .error (.scalarRange context)

/-! ## What is accepted -/

@[simp]
theorem value_bound (q : Octets) : (bound q).value = q.value :=
  q.value_suffix_significantLength

theorem value_lt_width (q : Octets) : q.value < 256 ^ q.significantLength := by
  have h := Octets.value_lt (bound q)
  rwa [value_bound, bound, Octets.length_suffix] at h

/-- A string gives a scalar exactly when its number is at least one and below
the order. The scalar has the width of the order and the number of the
string. -/
theorem belowOrder_eq_ok_iff {s q : Octets} {context : String} {k : Scalar} :
    belowOrder s q context = .ok k ↔
      (0 < s.value ∧ s.value < q.value)
        ∧ k.octets.length = q.significantLength ∧ k.octets.value = s.value := by
  unfold belowOrder
  split
  · rename_i hpad
    have hge := Octets.leftPad?_eq_none_iff.mp hpad
    have hlt := value_lt_width q
    constructor
    · intro h
      contradiction
    · intro h
      omega
  · rename_i padded hpad
    have hpadded := Octets.leftPad?_eq_some_iff.mp hpad
    have hrange : (padded.less (bound q) (length_eq_bound hpad) && padded.isNonzero) = true
        ↔ 0 < s.value ∧ s.value < q.value := by
      rw [Bool.and_eq_true, Octets.less_iff, Octets.isNonzero_iff, value_bound, hpadded.2]
      exact And.comm
    by_cases h : 0 < s.value ∧ s.value < q.value
    · rw [if_pos (hrange.mpr h)]
      constructor
      · intro hk
        rw [← Except.ok.inj hk]
        exact ⟨h, hpadded⟩
      · intro hk
        have hsame : padded = k.octets :=
          Octets.eq_of_value_eq (by rw [hpadded.1, hk.2.1]) (by rw [hpadded.2, hk.2.2])
        rw [hsame]
    · rw [if_neg (mt hrange.mp h)]
      constructor
      · intro hk
        contradiction
      · intro hk
        exact absurd hk.1 h

/-- There is one way to be refused. -/
theorem eq_scalarRange_of_belowOrder {s q : Octets} {context : String} {e : CurveError}
    (h : belowOrder s q context = .error e) : e = .scalarRange context := by
  unfold belowOrder at h
  split at h
  · exact (Except.error.inj h).symm
  · split at h
    · contradiction
    · exact (Except.error.inj h).symm

end Scalar

end EcpAgreement
