import EcpAgreement.Curve.Standard
import EcpAgreement.Curve.Group
import EcpAgreement.Error
import EcpAgreement.Log

/-!
# Groups from explicit parameters

The stages by which a table becomes a group: the curve, the generator on it,
and the order. Each stage checks its own entries. `build` names the first
failing stage and reports exactly one event; `buildUnchecked` skips the check of
the generator as a point, which attaching it makes anyway.

Each group of a negotiation that has a curve is served by a standard one. The NIST
curves have arithmetic of their own, the Brainpool curves are built from their
tables.
-/

namespace EcpAgreement

namespace DomainParams

/-- Builds the group that a table describes, in three stages. -/
def build (params : DomainParams) : Logged (Except AgreementError ExplicitGroup) :=
  match PrimeCurve.ofOctets params.p params.a params.b with
  | .error e =>
      { value := .error (.groupConstruction params.name "invalid curve parameters")
        events := [.curveRejected params.name e] }
  | .ok curve =>
      match curve.point params.x params.y with
      | .error e =>
          { value := .error (.groupConstruction params.name "generator is not on the curve")
            events := [.generatorRejected params.name e] }
      | .ok generator =>
          match curve.withGenerator params.name generator params.q params.cofactor with
          | .error e =>
              { value :=
                  .error (.groupConstruction params.name "invalid generator order or cofactor")
                events := [.assignmentRejected params.name e] }
          | .ok group =>
              { value := .ok group
                events := [.constructed params.name] }

/-- Builds a group from the curve and the order of a table with a generator
that nothing has looked at yet. -/
def buildWith (params : DomainParams) (generator : Point) :
    Except CurveError ExplicitGroup := do
  let curve ← PrimeCurve.ofOctets params.p params.a params.b
  curve.withGenerator params.name generator params.q params.cofactor

end DomainParams

/-! ## The curves of the groups -/

/-- How the arithmetic of a curve is had. -/
inductive Provision where
  /-- The library has arithmetic for the curve. -/
  | named (curve : NamedCurve)
  /-- The group is built from a table. -/
  | explicit (params : DomainParams)
  deriving DecidableEq

namespace DhGroup

def standardCurve? : DhGroup → Option NamedCurve
  | ecp192 => some .nistP192
  | ecp224 => some .nistP224
  | ecp256 => some .nistP256
  | ecp384 => some .nistP384
  | ecp521 => some .nistP521
  | ecp224Bp => some .brainpoolP224r1
  | ecp256Bp => some .brainpoolP256r1
  | ecp384Bp => some .brainpoolP384r1
  | ecp512Bp => some .brainpoolP512r1
  | modp2048 | modp3072 | curve25519 | curve448 => none

/-- How the arithmetic of a group is had, for a group with a curve. -/
def provision? (group : DhGroup) : Option Provision :=
  group.standardCurve?.map fun curve =>
    if curve.isBuiltIn then .named curve else .explicit curve.params

/-- Provides the curve group of a group. -/
def curveGroup (group : DhGroup) : Logged (Except ExchangeError CurveGroup) :=
  match group.provision? with
  | some (.named curve) =>
      { value := curve.group.mapError CurveError.toExchange
        events := [] }
  | some (.explicit params) =>
      let built := params.build
      { value := (built.value.map CurveGroup.explicit).mapError AgreementError.toExchange
        events := built.events }
  | none =>
      { value := .error (.unsupportedGroup group.id)
        events := [] }

/-- Provides the curve group of the group with a number. -/
def curveGroupOfId (id : UInt16) : Logged (Except ExchangeError CurveGroup) :=
  match ofId id with
  | .ok group => group.curveGroup
  | .error e => { value := .error e, events := [] }

end DhGroup

end EcpAgreement
