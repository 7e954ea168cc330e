import EcpAgreement.Octets.Basic

/-!
# Failures

The failures of the three layers: of fields, curves, points and scalars, of the
stages between them and the exchange, and of the exchange as its caller sees it.
On the way up a cause loses its details and keeps its context. None carries an
octet of a key, a secret or a peer value: the fields are group numbers and fixed
words.
-/

namespace EcpAgreement

/-! ## Of a key exchange -/

/-- The causes for which a key exchange is refused. -/
inductive ExchangeError where
  /-- The group number is unknown, or the group has no elliptic curve here. -/
  | unsupportedGroup (group : UInt16)
  /-- A curve, point or scalar could not be provided. -/
  | allocationFailure (context : String)
  /-- Octets have the wrong length or write no acceptable value. -/
  | malformedInput (context reason : String)
  /-- Coordinates are out of range or off the curve. -/
  | invalidPoint (context : String)
  /-- A multiplication, an encoding or the setup of a group failed. -/
  | arithmeticFailure (context : String)
  /-- The secret was asked for before a peer value was accepted. -/
  | notComputed
  /-- The random source failed. -/
  | randomGeneration (context : String)
  deriving DecidableEq

namespace ExchangeError

def message : ExchangeError → String
  | unsupportedGroup group => s!"Unsupported Diffie-Hellman group: {group.toNat}"
  | allocationFailure context => s!"Allocation failure: {context}"
  | malformedInput context reason => s!"{context}: malformed input ({reason})"
  | invalidPoint context => s!"Invalid point: {context}"
  | arithmeticFailure context => s!"Arithmetic failure: {context}"
  | notComputed => "Shared secret has not been computed"
  | randomGeneration context => s!"Random generation error: {context}"

/-- Requires an input of exactly the expected length. -/
def requireLength (context : String) (actual expected : Nat) : Except ExchangeError Unit :=
  if actual = expected then
    .ok ()
  else
    .error (malformedInput context "unexpected length")

end ExchangeError

/-! ## Of curve arithmetic -/

/-- The causes for which curve arithmetic refuses an argument. -/
inductive CurveError where
  /-- A domain parameter is unacceptable. -/
  | parameter (name reason : String)
  /-- A string of octets has another length than the one required. -/
  | length (context : String) (expected actual : Nat)
  /-- A scalar lies outside the range from one to the order less one. -/
  | scalarRange (context : String)
  /-- Coordinates are out of range or off the curve. -/
  | invalidPoint (context : String)
  /-- The point at infinity stands where an affine point is needed. -/
  | identity (operation : String)
  /-- An operation could not be carried out. -/
  | processing (operation details : String)
  /-- No built-in arithmetic serves the curve. -/
  | notImplemented (feature : String)
  /-- The random source failed or gave nothing usable. -/
  | randomGeneration (context : String)
  deriving DecidableEq

namespace CurveError

def message : CurveError → String
  | parameter name reason => s!"Invalid parameter '{name}': {reason}"
  | length context expected actual =>
      s!"Invalid length for {context}: expected {expected}, got {actual}"
  | scalarRange context => s!"Scalar out of range in {context}"
  | invalidPoint context => s!"Invalid point in {context}"
  | identity operation => s!"Point at infinity in {operation}"
  | processing operation details => s!"Processing error in {operation}: {details}"
  | notImplemented feature => s!"Feature not implemented: {feature}"
  | randomGeneration context => s!"Random generation failed in {context}"

/-- The failure as the exchange reports it. -/
def toExchange : CurveError → ExchangeError
  | parameter name _ => .arithmeticFailure name
  | length context _ _ => .malformedInput context "unexpected length"
  | scalarRange context => .malformedInput context "scalar outside [1, q-1]"
  | invalidPoint context => .invalidPoint context
  | identity operation => .arithmeticFailure operation
  | processing operation _ => .arithmeticFailure operation
  | notImplemented feature => .arithmeticFailure feature
  | randomGeneration context => .randomGeneration context

/-- Requires that a domain parameter meets a condition. -/
def requireParameter (condition : Bool) (name reason : String) : Except CurveError Unit :=
  if condition then .ok () else .error (parameter name reason)

/-- Requires an argument of exactly the expected length. -/
def requireLength (context : String) (actual expected : Nat) : Except CurveError Unit :=
  if actual = expected then .ok () else .error (length context expected actual)

/-- Requires that a point was found to be on its curve. -/
def requireOnCurve (onCurve : Bool) (context : String) : Except CurveError Unit :=
  if onCurve then .ok () else .error (invalidPoint context)

end CurveError

/-! ## Of key agreement -/

/-- The causes for which a stage of key agreement fails. -/
inductive AgreementError where
  /-- Curve arithmetic failed. -/
  | primitive (cause : CurveError)
  /-- A group could not be built from its domain parameters. -/
  | groupConstruction (curve details : String)
  /-- A key pair could not be made or taken over. -/
  | keyGeneration (curve details : String)
  /-- A shared secret could not be derived. -/
  | agreement (curve details : String)
  deriving DecidableEq

namespace AgreementError

def message : AgreementError → String
  | primitive cause => s!"Primitive error: {cause.message}"
  | groupConstruction curve details => s!"Cannot construct {curve}: {details}"
  | keyGeneration curve details => s!"Key generation error for {curve}: {details}"
  | agreement curve details => s!"Key agreement error for {curve}: {details}"

/-- The failure of arithmetic that lies beneath, if there is one. -/
def cause? : AgreementError → Option CurveError
  | primitive cause => some cause
  | _ => none

/-- The failure as the exchange reports it. -/
def toExchange : AgreementError → ExchangeError
  | primitive cause => cause.toExchange
  | groupConstruction curve _ => .arithmeticFailure curve
  | keyGeneration curve _ => .arithmeticFailure curve
  | agreement curve _ => .arithmeticFailure curve

/-- Requires that making or taking over a key pair met a condition. -/
def requireKeyGeneration (condition : Bool) (curve details : String) :
    Except AgreementError Unit :=
  if condition then .ok () else .error (keyGeneration curve details)

/-- Requires that deriving a secret met a condition. -/
def requireAgreement (condition : Bool) (curve details : String) :
    Except AgreementError Unit :=
  if condition then .ok () else .error (agreement curve details)

end AgreementError

end EcpAgreement
