/-!
# JSON values

The values that a JSON document writes, as far as this library tells them apart.
A string is kept as the document gives it: an escape may name half of a
surrogate pair, and whether the halves of a string fit together is asked only
where the string's text is wanted.

In the written form of a string, quotes, backslashes and controls are escaped, the
common controls by a letter and the others by their number in four digits. All else
stands as it is.
-/

namespace EcpAgreement.Document

/-- One element of a string in a document. -/
inductive TextUnit where
  /-- A character, written as it stands or by an escape. -/
  | char (c : Char)
  /-- Half of a surrogate pair, written by an escape. -/
  | surrogate (unit : Nat)
  deriving DecidableEq

/-- Whether a number is the first half of a surrogate pair. -/
def isHighSurrogate (unit : Nat) : Bool :=
  0xd800 ≤ unit && unit < 0xdc00

/-- Whether a number is the second half of a surrogate pair. -/
def isLowSurrogate (unit : Nat) : Bool :=
  0xdc00 ≤ unit && unit < 0xe000

/-- The character of a surrogate pair. -/
def pairedChar (high low : Nat) : Char :=
  Char.ofNat (0x10000 + 0x400 * (high - 0xd800) + (low - 0xdc00))

/-- The text of a string, if each surrogate half stands in a pair. -/
def textChars? : List TextUnit → Option (List Char)
  | [] => some []
  | .char c :: rest => (textChars? rest).map (c :: ·)
  | .surrogate high :: .surrogate low :: rest =>
      if isHighSurrogate high && isLowSurrogate low then
        (textChars? rest).map (pairedChar high low :: ·)
      else
        none
  | .surrogate _ :: _ => none

/-- The text of a string, if it has one. -/
def text? (units : List TextUnit) : Option String :=
  (textChars? units).map String.ofList

inductive Value where
  | null
  | bool (b : Bool)
  /-- A number, by its digits. -/
  | number (digits : List Char)
  | string (units : List TextUnit)
  | array (items : List Value)
  /-- An object. Members keep their order, and a name may occur again. -/
  | object (members : List (List TextUnit × Value))

/-! ## The written form -/

def hexDigit (n : Nat) : Char :=
  Nat.digitChar n

/-- A character in the written form of a string. -/
def writtenChar (c : Char) : List Char :=
  match c with
  | '"' => ['\\', '"']
  | '\\' => ['\\', '\\']
  | '\x08' => ['\\', 'b']
  | '\x0c' => ['\\', 'f']
  | '\n' => ['\\', 'n']
  | '\r' => ['\\', 'r']
  | '\t' => ['\\', 't']
  | c =>
      if c < ' ' then
        ['\\', 'u', '0', '0', hexDigit (c.toNat / 16), hexDigit (c.toNat % 16)]
      else
        [c]

def writtenText (s : List Char) : List Char :=
  '"' :: s.flatMap writtenChar ++ ['"']

/-- The written form of a truth value. -/
def writtenBool (b : Bool) : List Char :=
  if b then ['t', 'r', 'u', 'e'] else ['f', 'a', 'l', 's', 'e']

/-- The written form of an object: members in their order, without blanks. -/
def writtenObject (members : List (List Char × List Char)) : List Char :=
  let written := members.map fun member => writtenText member.1 ++ ':' :: member.2
  '{' :: List.intercalate [','] written ++ ['}']

end EcpAgreement.Document
