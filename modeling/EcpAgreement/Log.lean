import EcpAgreement.Error
import EcpAgreement.Group.Identifier

/-!
# Log events

What the library reports while it works. An event holds names of groups and
curves, and the causes of refused parameters, but no octet of any value: the
type has no place for one.
-/

namespace EcpAgreement

inductive LogLevel where
  | debug
  | warn
  deriving DecidableEq

def LogLevel.name : LogLevel → String
  | debug => "DEBUG"
  | warn => "WARN"

/-- Something worth reporting. -/
inductive LogEvent where
  /-- The field or the coefficients of an explicit curve were refused. -/
  | curveRejected (curve : String) (cause : CurveError)
  /-- The generator of an explicit curve is not on it. -/
  | generatorRejected (curve : String) (cause : CurveError)
  /-- The order or the cofactor of an explicit curve was refused. -/
  | assignmentRejected (curve : String) (cause : CurveError)
  | constructed (curve : String)
  | sessionCreated (group : DhGroup) (curve : String)
  | sessionDestroyed (group : DhGroup)
  | publicValueMalformed
  /-- No secret could be derived from a peer's public value. -/
  | secretComputationFailed
  /-- A settings store went on working after a writer had failed inside it. -/
  | settingsRecovered
  deriving DecidableEq

namespace LogEvent

def level : LogEvent → LogLevel
  | publicValueMalformed | secretComputationFailed | settingsRecovered => .warn
  | _ => .debug

def message : LogEvent → String
  | curveRejected curve cause => s!"{curve}: curve parameters rejected: {cause.message}"
  | generatorRejected curve cause => s!"{curve}: generator rejected: {cause.message}"
  | assignmentRejected curve cause =>
      s!"{curve}: generator assignment rejected: {cause.message}"
  | constructed curve => s!"{curve}: constructed from explicit parameters"
  | sessionCreated group curve => s!"created {group.name} ECDH session on {curve}"
  | sessionDestroyed group => s!"destroyed {group.name} ECDH session"
  | publicValueMalformed => "ECDH public value is malformed"
  | secretComputationFailed => "ECDH shared secret computation failed"
  | settingsRecovered => "Settings lock was poisoned - recovering state"

/-- An event as one line: its severity and its sentence. -/
def line (event : LogEvent) : String :=
  s!"{event.level.name} {event.message}"

end LogEvent

/-- A result with the events of the work that led to it, in order. -/
structure Logged (α : Type) where
  value : α
  events : List LogEvent

end EcpAgreement
