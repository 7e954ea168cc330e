import EcpAgreement.Document.Value

/-!
# Reading JSON documents

A reader of the strict JSON grammar: one value with blanks around it and nothing
else. It takes an escaped surrogate half wherever it takes an escape, refuses
unescaped controls in strings, and sets no limit on nesting.

The readers of values call each other with less fuel each time. A document is
read with more fuel than its length can use up, so running out is no way to be
refused.

A written string is read as its characters, whatever follows it in the document,
and those characters are its text again. No character is an exception: the escapes
of the writer are among those of the reader, and what the writer leaves alone the
reader takes as it stands.
-/

namespace EcpAgreement.Document

/-- Whether a character may stand between the parts of a document. -/
def isBlank (c : Char) : Bool :=
  c == ' ' || c == '\n' || c == '\t' || c == '\r'

/-- The rest of a document from the first character that is not blank. -/
def skipBlank (s : List Char) : List Char :=
  s.dropWhile isBlank

/-! ## Strings -/

def hexValue? (c : Char) : Option Nat :=
  if '0' ≤ c ∧ c ≤ '9' then some (c.toNat - '0'.toNat)
  else if 'a' ≤ c ∧ c ≤ 'f' then some (c.toNat - 'a'.toNat + 10)
  else if 'A' ≤ c ∧ c ≤ 'F' then some (c.toNat - 'A'.toNat + 10)
  else none

/-- The element that an escape with a number stands for. -/
def unitOfNumber (n : Nat) : TextUnit :=
  if isHighSurrogate n || isLowSurrogate n then .surrogate n else .char (Char.ofNat n)

/-- The element that four hexadecimal digits stand for. -/
def unitOfHex? (a b c d : Char) : Option TextUnit := do
  let a ← hexValue? a
  let b ← hexValue? b
  let c ← hexValue? c
  let d ← hexValue? d
  return unitOfNumber (((a * 16 + b) * 16 + c) * 16 + d)

/-- The character that a letter after a backslash stands for. -/
def shortEscape? : Char → Option Char
  | '"' => some '"'
  | '\\' => some '\\'
  | '/' => some '/'
  | 'b' => some '\x08'
  | 'f' => some '\x0c'
  | 'n' => some '\n'
  | 'r' => some '\r'
  | 't' => some '\t'
  | _ => none

/-- Reads a string after its opening quote, up to and with the closing one. -/
def readText : List Char → Option (List TextUnit × List Char)
  | '"' :: rest => some ([], rest)
  | '\\' :: 'u' :: a :: b :: c :: d :: rest => do
      let unit ← unitOfHex? a b c d
      let (units, rest) ← readText rest
      return (unit :: units, rest)
  | '\\' :: e :: rest => do
      let c ← shortEscape? e
      let (units, rest) ← readText rest
      return (.char c :: units, rest)
  | c :: rest =>
      if c < ' ' || c == '\\' then
        none
      else do
        let (units, rest) ← readText rest
        return (.char c :: units, rest)
  | [] => none

/-! ## Numbers -/

/-- Reads at least one digit. -/
def readDigits (s : List Char) : Option (List Char × List Char) :=
  let digits := s.takeWhile Char.isDigit
  if digits.isEmpty then none else some (digits, s.dropWhile Char.isDigit)

/-- Reads the whole part of a number: a zero, or digits that begin with another
one. -/
def readWhole : List Char → Option (List Char × List Char)
  | '0' :: rest => some (['0'], rest)
  | s => readDigits s

/-- Reads the fraction of a number, if there is one. -/
def readFraction : List Char → Option (List Char × List Char)
  | '.' :: rest => do
      let (digits, rest) ← readDigits rest
      return ('.' :: digits, rest)
  | s => some ([], s)

/-- Reads the sign of an exponent, if there is one. -/
def readSign : List Char → List Char × List Char
  | '+' :: rest => (['+'], rest)
  | '-' :: rest => (['-'], rest)
  | s => ([], s)

/-- Reads the exponent of a number, if there is one. -/
def readExponent : List Char → Option (List Char × List Char)
  | c :: rest =>
      if c == 'e' || c == 'E' then do
        let (digits, after) ← readDigits (readSign rest).2
        return (c :: (readSign rest).1 ++ digits, after)
      else
        some ([], c :: rest)
  | [] => some ([], [])

/-- Reads a number without its sign. -/
def readMagnitude (s : List Char) : Option (List Char × List Char) := do
  let (whole, rest) ← readWhole s
  let (fraction, rest) ← readFraction rest
  let (exponent, rest) ← readExponent rest
  return (whole ++ fraction ++ exponent, rest)

def readNumber : List Char → Option (List Char × List Char)
  | '-' :: rest => do
      let (digits, rest) ← readMagnitude rest
      return ('-' :: digits, rest)
  | s => readMagnitude s

/-! ## Values -/

mutual

/-- Reads a value and the blanks before it. -/
def readValue : Nat → List Char → Option (Value × List Char)
  | 0, _ => none
  | fuel + 1, s =>
      match skipBlank s with
      | 'n' :: 'u' :: 'l' :: 'l' :: rest => some (.null, rest)
      | 't' :: 'r' :: 'u' :: 'e' :: rest => some (.bool true, rest)
      | 'f' :: 'a' :: 'l' :: 's' :: 'e' :: rest => some (.bool false, rest)
      | '"' :: rest => do
          let (units, rest) ← readText rest
          return (.string units, rest)
      | '[' :: rest =>
          match skipBlank rest with
          | ']' :: rest => some (.array [], rest)
          | rest => do
              let (items, rest) ← readItems fuel rest
              return (.array items, rest)
      | '{' :: rest =>
          match skipBlank rest with
          | '}' :: rest => some (.object [], rest)
          | rest => do
              let (members, rest) ← readMembers fuel rest
              return (.object members, rest)
      | s => do
          let (digits, rest) ← readNumber s
          return (.number digits, rest)

/-- Reads the items of an array, at least one, up to and with the closing
bracket. -/
def readItems : Nat → List Char → Option (List Value × List Char)
  | 0, _ => none
  | fuel + 1, s => do
      let (item, rest) ← readValue fuel s
      match skipBlank rest with
      | ']' :: rest => return ([item], rest)
      | ',' :: rest =>
          let (items, rest) ← readItems fuel rest
          return (item :: items, rest)
      | _ => none

/-- Reads the members of an object, at least one, up to and with the closing
brace. -/
def readMembers : Nat → List Char → Option (List (List TextUnit × Value) × List Char)
  | 0, _ => none
  | fuel + 1, s =>
      match skipBlank s with
      | '"' :: rest => do
          let (name, rest) ← readText rest
          match skipBlank rest with
          | ':' :: rest =>
              let (value, rest) ← readValue fuel rest
              match skipBlank rest with
              | '}' :: rest => return ([(name, value)], rest)
              | ',' :: rest =>
                  let (members, rest) ← readMembers fuel rest
                  return ((name, value) :: members, rest)
              | _ => none
          | _ => none
      | _ => none

end

/-- The value that a document writes, if the document is one value with nothing
but blanks around it. -/
def Value.ofChars? (s : List Char) : Option Value :=
  match readValue (2 * s.length + 2) s with
  | some (value, rest) => if (skipBlank rest).isEmpty then some value else none
  | none => none

/-! ## Reading what was written -/

/-- A character that needs no escape is read as it stands. -/
theorem readText_plain {c : Char} (hquote : c ≠ '"') (hslash : c ≠ '\\') (hcontrol : ¬ c < ' ')
    (rest : List Char) :
    readText (c :: rest) = (readText rest).map fun read => (.char c :: read.1, read.2) := by
  rw [readText.eq_def]
  split
  · simp_all
  · simp_all
  · simp_all
  · rename_i heq
    obtain ⟨rfl, rfl⟩ := List.cons.inj heq
    rw [if_neg (by simp [hcontrol, hslash])]
    cases readText _ <;> rfl
  · contradiction

/-- An escape by a letter is read as the character that it stands for. -/
theorem readText_shortEscape {e c : Char} (h : shortEscape? e = some c) (rest : List Char) :
    readText ('\\' :: e :: rest)
      = (readText rest).map fun read => (.char c :: read.1, read.2) := by
  rw [readText.eq_def]
  split
  · simp_all
  · simp_all [shortEscape?]
  · rename_i heq
    obtain ⟨-, htail⟩ := List.cons.inj heq
    obtain ⟨rfl, rfl⟩ := List.cons.inj htail
    rw [h]
    cases readText _ <;> rfl
  · rename_i hother heq
    obtain ⟨hhead, htail⟩ := List.cons.inj heq
    exact absurd htail.symm (hother e rest hhead.symm)
  · contradiction

/-- The escapes with two digits stand for the controls. -/
theorem unitOfHex?_control {n : Nat} (h : n < 32) :
    unitOfHex? '0' '0' (hexDigit (n / 16)) (hexDigit (n % 16)) = some (.char (Char.ofNat n)) := by
  have hall : ∀ n : Fin 32,
      unitOfHex? '0' '0' (hexDigit (n.val / 16)) (hexDigit (n.val % 16))
        = some (.char (Char.ofNat n.val)) := by
    decide +kernel
  exact hall ⟨n, h⟩

/-- Whatever form a character is written in, it is read as that character. -/
theorem readText_writtenChar (c : Char) (rest : List Char) :
    readText (writtenChar c ++ rest)
      = (readText rest).map fun read => (.char c :: read.1, read.2) := by
  unfold writtenChar
  split
  case h_8 =>
    split
    · rename_i hcontrol
      have hunit := unitOfHex?_control (n := c.toNat) hcontrol
      rw [Char.ofNat_toNat] at hunit
      simp only [List.cons_append, List.nil_append, readText, hunit]
      cases readText rest <;> rfl
    · apply readText_plain <;> assumption
  all_goals exact readText_shortEscape rfl rest

/-- A written string is read up to its closing quote and not beyond. -/
theorem readText_written (s rest : List Char) :
    readText (s.flatMap writtenChar ++ '"' :: rest) = some (s.map .char, rest) := by
  induction s with
  | nil => simp [readText]
  | cons c s ih =>
      rw [List.flatMap_cons, List.append_assoc, readText_writtenChar, ih]
      rfl

/-- Characters are the text that they make up. -/
theorem textChars?_map_char (s : List Char) : textChars? (s.map .char) = some s := by
  induction s with
  | nil => rfl
  | cons c s ih => simp [textChars?, ih]

end EcpAgreement.Document
