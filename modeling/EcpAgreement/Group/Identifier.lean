import EcpAgreement.Document.Reader
import EcpAgreement.Error

/-!
# Diffie-Hellman groups

The groups that a negotiation may name, with their assigned numbers. Only the
groups over a prime field in short Weierstrass form (the ECP groups) have a
curve in this library. The others are here so that a negotiated group without
one can be named and refused.

In a document a group is a JSON string with its short identifier. It is also read
from an object whose only member has that name and the value null.
-/

namespace EcpAgreement

/-- A group that a negotiation may name. The constructors stand in the order of
the assigned numbers. -/
inductive DhGroup where
  | modp2048
  | modp3072
  | ecp256
  | ecp384
  | ecp521
  | ecp192
  | ecp224
  | ecp224Bp
  | ecp256Bp
  | ecp384Bp
  | ecp512Bp
  | curve25519
  | curve448
  deriving DecidableEq

namespace DhGroup

/-- Every group, by ascending number. -/
def all : List DhGroup :=
  [modp2048, modp3072, ecp256, ecp384, ecp521, ecp192, ecp224, ecp224Bp, ecp256Bp, ecp384Bp,
    ecp512Bp, curve25519, curve448]

/-- The groups with a curve: the five of the NIST, by size, then the four
Brainpool ones, by size. -/
def ecpGroups : List DhGroup :=
  [ecp192, ecp224, ecp256, ecp384, ecp521, ecp224Bp, ecp256Bp, ecp384Bp, ecp512Bp]

def id : DhGroup → UInt16
  | modp2048 => 14
  | modp3072 => 15
  | ecp256 => 19
  | ecp384 => 20
  | ecp521 => 21
  | ecp192 => 25
  | ecp224 => 26
  | ecp224Bp => 27
  | ecp256Bp => 28
  | ecp384Bp => 29
  | ecp512Bp => 30
  | curve25519 => 31
  | curve448 => 32

def ofId (id : UInt16) : Except ExchangeError DhGroup :=
  match all.find? (fun group => group.id == id) with
  | some group => .ok group
  | none => .error (.unsupportedGroup id)

/-- The conventional name, as log lines show it. -/
def name : DhGroup → String
  | modp2048 => "MODP_2048"
  | modp3072 => "MODP_3072"
  | ecp256 => "ECP_256"
  | ecp384 => "ECP_384"
  | ecp521 => "ECP_521"
  | ecp192 => "ECP_192"
  | ecp224 => "ECP_224"
  | ecp224Bp => "ECP_224_BP"
  | ecp256Bp => "ECP_256_BP"
  | ecp384Bp => "ECP_384_BP"
  | ecp512Bp => "ECP_512_BP"
  | curve25519 => "CURVE_25519"
  | curve448 => "CURVE_448"

/-- The short identifier, as documents and descriptions of sessions show it. -/
def identifier : DhGroup → String
  | modp2048 => "Modp2048"
  | modp3072 => "Modp3072"
  | ecp256 => "Ecp256"
  | ecp384 => "Ecp384"
  | ecp521 => "Ecp521"
  | ecp192 => "Ecp192"
  | ecp224 => "Ecp224"
  | ecp224Bp => "Ecp224Bp"
  | ecp256Bp => "Ecp256Bp"
  | ecp384Bp => "Ecp384Bp"
  | ecp512Bp => "Ecp512Bp"
  | curve25519 => "Curve25519"
  | curve448 => "Curve448"

def ofIdentifier? (identifier : String) : Option DhGroup :=
  all.find? (fun group => group.identifier == identifier)

/-- The octets of one field element, for a group with a curve. -/
def fieldElementLength? : DhGroup → Option Nat
  | ecp192 => some 24
  | ecp224 | ecp224Bp => some 28
  | ecp256 | ecp256Bp => some 32
  | ecp384 | ecp384Bp => some 48
  | ecp521 => some 66
  | ecp512Bp => some 64
  | modp2048 | modp3072 | curve25519 | curve448 => none

/-- The octets of a public value, which holds two field elements. -/
def publicValueLength? (group : DhGroup) : Option Nat :=
  group.fieldElementLength?.map (2 * ·)

/-- Whether the group has a curve. -/
def isEcp (group : DhGroup) : Bool :=
  group.fieldElementLength?.isSome

/-- Whether the group is one of the Brainpool ones. -/
def isBrainpool : DhGroup → Bool
  | ecp224Bp | ecp256Bp | ecp384Bp | ecp512Bp => true
  | _ => false

/-- Checks that a received public value has the length that the group needs,
before anything is read from it. -/
def verifyValue (group : DhGroup) (value : Octets) : Except ExchangeError Unit :=
  match group.publicValueLength? with
  | some expected => ExchangeError.requireLength "public value" value.length expected
  | none => .error (.unsupportedGroup group.id)

/-- The members of a list, each once, by ascending number. -/
def arrange (groups : List DhGroup) : List DhGroup :=
  all.filter (groups.contains ·)

/-! ## Numbers and identifiers name one group each -/

theorem mem_all (group : DhGroup) : group ∈ all := by
  cases group <;> decide

theorem ofId_id (group : DhGroup) : ofId group.id = .ok group := by
  cases group <;> rfl

theorem ofIdentifier?_identifier (group : DhGroup) :
    ofIdentifier? group.identifier = some group := by
  cases group <;> decide +kernel

/-- The list of all groups ascends strictly, so whatever is filtered from it
ascends too and repeats nothing. -/
theorem all_ascending : all.Pairwise (fun g h => g.id < h.id) := by
  decide

theorem arrange_ascending (groups : List DhGroup) :
    (arrange groups).Pairwise (fun g h => g.id < h.id) :=
  all_ascending.filter _

theorem mem_arrange {groups : List DhGroup} {group : DhGroup} :
    group ∈ arrange groups ↔ group ∈ groups := by
  simp [arrange, mem_all]

/-! ## Groups as documents -/

open Document

def ofValue? : Value → Option DhGroup
  | .string units => do
      let name ← text? units
      ofIdentifier? name
  | .object [(units, .null)] => do
      let name ← text? units
      ofIdentifier? name
  | _ => none

def ofText? (s : String) : Option DhGroup := do
  let value ← Value.ofChars? s.toList
  ofValue? value

def toText (group : DhGroup) : String :=
  String.ofList (writtenText group.identifier.toList)

end DhGroup

end EcpAgreement
