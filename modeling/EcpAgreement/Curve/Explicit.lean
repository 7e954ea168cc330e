import EcpAgreement.Curve.Prime
import EcpAgreement.Curve.Point

/-!
# Groups on explicit curves

A curve together with a generator on it and the order declared for that
generator. A curve becomes a group only through `PrimeCurve.withGenerator`, so
the checks made there are facts about every group. That the declared order is
the generator's true one is not checked, and no operation relies on it.
-/

namespace EcpAgreement

structure ExplicitGroup where
  name : String
  curve : PrimeCurve
  generator : Point
  /-- The declared order of the generator, without leading zeros. -/
  order : Octets
  /-- The declared cofactor. -/
  cofactor : Nat
  cofactor_eq_one : cofactor = 1
  contains_generator : curve.contains generator = true
  significantLength_order : order.significantLength = order.length
  one_lt_bitLength_order : 1 < order.bitLength
  order_odd : order.value % 2 = 1

/-- The group of a curve with a generator and its declared order. Leading zeros
of the order do not matter. -/
def PrimeCurve.withGenerator (curve : PrimeCurve) (name : String) (generator : Point)
    (order : Octets) (cofactor : Nat) : Except CurveError ExplicitGroup :=
  if hcofactor : cofactor = 1 then
    if hgenerator : curve.contains generator = true then
      if hbits : 1 < order.bitLength then
        if hodd : order.value % 2 = 1 then
          .ok
            { name := name
              curve := curve
              generator := generator
              order := order.suffix order.significantLength order.significantLength_le
              cofactor := cofactor
              cofactor_eq_one := hcofactor
              contains_generator := hgenerator
              significantLength_order := order.significantLength_suffix
              one_lt_bitLength_order := by
                rw [Octets.suffix_significantLength, Octets.bitLength_significant]
                exact hbits
              order_odd := by
                rw [Octets.value_suffix_significantLength]
                exact hodd }
        else
          .error (.parameter "q" "group order must be odd")
      else
        .error (.parameter "q" "group order must exceed 1")
    else
      .error (.parameter "generator" "not a point on the curve")
  else
    .error (.parameter "cofactor" "only prime-order groups are supported")

namespace ExplicitGroup

def fieldElementLength (group : ExplicitGroup) : Nat :=
  group.curve.fieldElementLength

def orderBits (group : ExplicitGroup) : Nat :=
  group.order.bitLength

/-- The point with the given coordinates, if it is on the curve. -/
def pointOfAffine (group : ExplicitGroup) (x y : Octets) : Except CurveError Point :=
  group.curve.point x y

/-- Whether a point is on the curve. -/
def contains (group : ExplicitGroup) (point : Point) : Bool :=
  group.curve.contains point

def scalar (group : ExplicitGroup) (s : Octets) : Except CurveError Scalar :=
  Scalar.belowOrder s group.order group.name

/-- The multiple of a point by a scalar. -/
def mul (group : ExplicitGroup) (point : Point) (k : Scalar) : Except CurveError Point :=
  group.curve.multiple point k.octets

/-- The multiple of the generator by a scalar. -/
def mulGenerator (group : ExplicitGroup) (k : Scalar) : Except CurveError Point :=
  group.mul group.generator k

/-- The multiple of a point by the declared order, which no scalar reaches. -/
def mulByOrder (group : ExplicitGroup) (point : Point) : Except CurveError Point :=
  group.curve.multiple point group.order

end ExplicitGroup

end EcpAgreement
