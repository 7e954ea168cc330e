import EcpAgreement.Document.Reader
import EcpAgreement.Document.Value
import EcpAgreement.Settings.Static

/-!
# Settings as documents

Fixed settings are written as a JSON object with two members. Reading is more
liberal: members may come in any order, may be missing, and may stand among
unknown ones; an array of the two values in their order is read too. A member
of the settings must have the right type and must not occur twice.
-/

namespace EcpAgreement

open Document

/-- The name of the member that holds the namespace. -/
def scopeMember : String := "namespace"

/-- The settings members found so far in an object. -/
structure FoundSettings where
  scope? : Option String
  xOnly? : Option Bool

namespace FoundSettings

/-- Takes one member into account, or refuses the object for it. -/
def addMember (found : FoundSettings) (member : List TextUnit × Value) :
    Option FoundSettings := do
  let name ← text? member.1
  if name = scopeMember then
    match found.scope?, member.2 with
    | none, .string units =>
        let scope ← text? units
        return { found with scope? := some scope }
    | _, _ => none
  else if name = formatOption then
    match found.xOnly?, member.2 with
    | none, .bool b => return { found with xOnly? := some b }
    | _, _ => none
  else
    return found

/-- The settings that the found members describe, with defaults for the missing
ones. -/
def toSettings (found : FoundSettings) : StaticSettings where
  scope := found.scope?.getD defaultNamespace
  xOnly := found.xOnly?.getD true

end FoundSettings

namespace StaticSettings

def ofValue? : Value → Option StaticSettings
  | .object members => do
      let found ← members.foldlM FoundSettings.addMember ⟨none, none⟩
      return found.toSettings
  | .array [] => some standard
  | .array [.string units] => do
      let scope ← text? units
      return { scope := scope, xOnly := standard.xOnly }
  | .array [.string units, .bool b] => do
      let scope ← text? units
      return { scope := scope, xOnly := b }
  | _ => none

def ofText? (s : String) : Option StaticSettings := do
  let value ← Value.ofChars? s.toList
  ofValue? value

def toText (settings : StaticSettings) : String :=
  String.ofList <| writtenObject
    [(scopeMember.toList, writtenText settings.scope.toList),
      (formatOption.toList, writtenBool settings.xOnly)]

end StaticSettings

end EcpAgreement
