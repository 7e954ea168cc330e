/-!
# Octet strings as numbers

Finite strings of octets, read as numbers in base 256 with the most significant
octet first. The operations that slice, subtract or compare carry the bound
that makes them meaningful as an argument, so a caller has to know it:
`suffix` asks for a length within the string, and `less` for two strings of one
length.

Nothing here fixes a width. A number has one string for each width that can
hold it, and `leftPad?`, `fitWidth` and `ofNat` move between those strings.
-/

namespace EcpAgreement

/- Powers are those of the natural numbers themselves, whatever else is in scope. -/
attribute [local instance (2000)] instPowNat

/-- A finite string of octets, the most significant one first. -/
abbrev Octets := List UInt8

namespace Octets

/-- The number that a string writes in base 256. -/
def value (s : Octets) : Nat :=
  s.foldl (fun n o => 256 * n + o.toNat) 0

/-- The string of `width` octets that writes `n` modulo `256 ^ width`. -/
def ofNat : Nat → Nat → Octets
  | 0, _ => []
  | width + 1, n => ofNat width (n / 256) ++ [UInt8.ofNat n]

/-- The number of octets that hold `bits` bits. -/
def octetsFor (bits : Nat) : Nat :=
  (bits + 7) / 8

/-- The position of the highest bit that is set, counted from one; zero for a
string that writes zero. The first nonzero octet decides. -/
def bitLength : Octets → Nat
  | [] => 0
  | o :: rest => if o = 0 then bitLength rest else 8 * rest.length + (o.toNat.log2 + 1)

/-- The number of octets from the first nonzero one on. -/
def significantLength (s : Octets) : Nat :=
  octetsFor s.bitLength

/-- The last `width` octets. -/
def suffix (s : Octets) (width : Nat) (_ : width ≤ s.length) : Octets :=
  s.drop (s.length - width)

/-- Whether the string has an octet other than zero, found by joining all of
them. -/
def isNonzero (s : Octets) : Bool :=
  s.foldl (· ||| ·) 0 != 0

/-- The two findings of a comparison that visits every octet: whether the first
string is already known to be smaller, and whether the strings still agree. -/
structure Comparison where
  smaller : Bool
  same : Bool

/-- Takes one more pair of octets into account. Only the first difference
counts. -/
def Comparison.step (c : Comparison) (pair : UInt8 × UInt8) : Comparison where
  smaller := c.smaller || (c.same && decide (pair.1 < pair.2))
  same := c.same && decide (pair.1 = pair.2)

/-- Whether `s` writes a smaller number than `t`, for strings of one length.
Every octet is visited whatever the earlier ones say. -/
def less (s t : Octets) (_ : s.length = t.length) : Bool :=
  ((s.zip t).foldl Comparison.step ⟨false, true⟩).smaller

/-- The string without its leading zero octets. -/
def significant (s : Octets) : Octets :=
  s.dropWhile (· == 0)

/-- The number of `s` in exactly `width` octets, when it fits: leading zeros
are dropped or added. -/
def leftPad? (s : Octets) (width : Nat) : Option Octets :=
  if s.significant.length ≤ width then
    some (List.replicate (width - s.significant.length) 0 ++ s.significant)
  else
    none

/-- The last `width` octets, or the string with zeros in front when it is
shorter. This cuts off whatever does not fit. -/
def fitWidth (s : Octets) (width : Nat) : Octets :=
  if h : width ≤ s.length then
    s.suffix width h
  else
    List.replicate (width - s.length) 0 ++ s

/-- The least multiple of eight octets that is at least `width`: the width in
which whole machine words hold a number of `width` octets. -/
def wordAligned (width : Nat) : Nat :=
  8 * ((width + 7) / 8)

/-- The bits of an octet, the most significant one first. -/
def octetBits (o : UInt8) : List Bool :=
  [7, 6, 5, 4, 3, 2, 1, 0].map o.toNat.testBit

/-- All bits of a string, the most significant one first, leading zeros
included. -/
def bits (s : Octets) : List Bool :=
  s.flatMap octetBits

/-- The number that a list of bits writes, the most significant one first. -/
def bitsValue (bits : List Bool) : Nat :=
  bits.foldl (fun n bit => 2 * n + bit.toNat) 0

/-- The octet whose top `excess` bits are clear and whose others are set. -/
def topMask (excess : Fin 8) : UInt8 :=
  UInt8.ofNat (255 / 2 ^ excess.val)

/-- The string with the top `excess` bits of its first octet cleared. -/
def clearTop (excess : Fin 8) : Octets → Octets
  | [] => []
  | o :: rest => (o &&& topMask excess) :: rest

end Octets

end EcpAgreement
