import EcpAgreement.Error
import EcpAgreement.Octets.Lemmas

/-!
# Secret octets

Octets that are to be compared without an early exit, erased on demand and never
shown. Erasing leaves the empty string.
-/

namespace EcpAgreement

/-- A string of octets to be kept secret. -/
structure Secret where
  octets : Octets
  deriving DecidableEq

namespace Secret

def empty : Secret :=
  ⟨[]⟩

/-- The number of a string in exactly `width` octets. -/
def leftPadded (value : Octets) (width : Nat) : Except ExchangeError Secret :=
  match value.leftPad? width with
  | some padded => .ok ⟨padded⟩
  | none =>
      .error (.malformedInput "SecretVec::left_padded" "value wider than target width")

def length (secret : Secret) : Nat :=
  secret.octets.length

def isEmpty (secret : Secret) : Bool :=
  secret.octets.isEmpty

/-- The secret with more octets at its end. -/
def extend (secret : Secret) (more : Octets) : Secret :=
  ⟨secret.octets ++ more⟩

/-- The secret once it has been erased. -/
def wiped (_ : Secret) : Secret :=
  empty

/-- Whether two secrets have the same octets. The lengths are compared first;
for equal lengths, the differences of all octets are gathered before any
judgement. -/
def sameOctets (s t : Secret) : Bool :=
  s.length == t.length
    && (s.octets.zip t.octets).foldl (fun difference pair => difference ||| (pair.1 ^^^ pair.2)) 0
        == 0

/-- A description that shows the length and none of the octets. -/
def describe (secret : Secret) : String :=
  s!"SecretVec(len={secret.length}, [REDACTED])"

theorem foldl_difference_eq_zero_iff {s t : Octets} (h : s.length = t.length) (o : UInt8) :
    (s.zip t).foldl (fun difference pair => difference ||| (pair.1 ^^^ pair.2)) o = 0
      ↔ o = 0 ∧ s = t := by
  induction s generalizing t o with
  | nil => simp [List.length_eq_zero_iff.mp h.symm]
  | cons a rest ih =>
      match t, h with
      | b :: more, h =>
          have hlength : rest.length = more.length := by simpa using h
          rw [List.zip_cons_cons, List.foldl_cons, ih hlength, UInt8.or_eq_zero_iff,
            UInt8.xor_eq_zero_iff]
          simp [and_assoc]

/-- The comparison finds equality, though it never stops early. -/
theorem sameOctets_iff {s t : Secret} : s.sameOctets t = true ↔ s = t := by
  obtain ⟨s⟩ := s
  obtain ⟨t⟩ := t
  by_cases h : s.length = t.length
  · simp [sameOctets, length, h, foldl_difference_eq_zero_iff h]
  · have hne : s ≠ t := fun heq => h (congrArg List.length heq)
    simp [sameOctets, length, h, hne]

end Secret

end EcpAgreement
