import EcpAgreement.Curve.Group
import EcpAgreement.Proofs.Group.Stages

/-!
# Valid domain parameters

A table is turned into a group exactly when its numbers describe a curve that is
not singular, place a generator on it and assign an odd order above one to it,
with cofactor one (`build_cases`).  The coefficients and the coordinates must be
written in the width of the modulus without its leading zeros; the modulus and
the order may have any number of them.  A failure names the first of the three
stages that is at fault, and every construction reports one event.

There is one more condition, which is not about the numbers: the bits of the modulus
are counted in thirty-two bits.  At `2 ^ 29 - 7` octets without leading zeros the count
wraps around, and from there on every modulus is refused in the first stage, whatever
curve is described over it.  (In a build that checks for overflow, some of these moduli
leave the construction without any result.)  For a shorter modulus the numbers alone
decide.

Attaching the generator as it stands, without reading it as a point first, comes
to the same, since a curve looks at a generator before it becomes a group.
-/

namespace EcpAgreement

/- Powers are those of the natural numbers themselves, whatever else is in scope. -/
attribute [local instance (2000)] instPowNat

namespace DomainParams

variable {params : DomainParams} {curve : PrimeCurve} {group : ExplicitGroup}

/-- The table with zeros in front of its modulus and its order. -/
def padded (params : DomainParams) (m n : ℕ) : DomainParams :=
  { params with
    p := List.replicate m 0 ++ params.p
    q := List.replicate n 0 ++ params.q }

/-- Zeros in front of the modulus and of the order do not matter, one in front of a
coordinate does. -/
example :
    let params : DomainParams := ⟨"seven points", [0, 5], [2], [1], [0], [1], [0, 0, 7], 1⟩
    params.build.value.isOk = true ∧ { params with x := [0, 0] }.build.value.isOk = false := by
  decide +kernel

end DomainParams

end EcpAgreement
