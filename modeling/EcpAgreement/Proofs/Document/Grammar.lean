import EcpAgreement.Document.Reader
import Mathlib.Data.Nat.Notation

/-!
# The grammar of documents

Which texts write which values.  The rules are those of the JSON grammar, put
together from texts alone: nothing here reads a text, looks at what comes next or
counts how deep a value is nested.

A value has many texts.  Blanks may stand around every value and every name, a
character of a string may stand for itself or be escaped in up to three ways, and
the members of an object may come in any order and more than once.
-/

namespace EcpAgreement.Document

/-! ## Blanks and numbers -/

/-- Spaces, ends of lines and tabs. -/
def Blank (w : List Char) : Prop :=
  ∀ c ∈ w, c ∈ [' ', '\n', '\t', '\r']

/-- At least one decimal digit. -/
def Digits (s : List Char) : Prop :=
  s ≠ [] ∧ ∀ c ∈ s, c.isDigit = true

/-- The whole part of a number: without a zero in front, unless it is zero. -/
inductive Whole : List Char → Prop where
  | zero : Whole ['0']
  | digits {s : List Char} : Digits s → s.head? ≠ some '0' → Whole s

inductive Fraction : List Char → Prop where
  | absent : Fraction []
  | present {s : List Char} : Digits s → Fraction ('.' :: s)

inductive Exponent : List Char → Prop where
  | absent : Exponent []
  | present {e : Char} {sign s : List Char} :
      e ∈ ['e', 'E'] → sign ∈ [[], ['+'], ['-']] → Digits s → Exponent (e :: sign ++ s)

/-- A number without its sign. -/
inductive Magnitude : List Char → Prop where
  | mk {whole fraction exponent : List Char} :
      Whole whole → Fraction fraction → Exponent exponent →
        Magnitude (whole ++ fraction ++ exponent)

inductive Number : List Char → Prop where
  | positive {s : List Char} : Magnitude s → Number s
  | negative {s : List Char} : Magnitude s → Number ('-' :: s)

/-! ## Strings -/

/-- The letters that may follow a backslash, each with the character that it stands
for. -/
def escapes : List (Char × Char) :=
  [('"', '"'), ('\\', '\\'), ('/', '/'), ('b', '\x08'), ('f', '\x0c'), ('n', '\n'),
    ('r', '\r'), ('t', '\t')]

/-- The hexadecimal digits, in both cases. -/
def hexDigits : List (Char × ℕ) :=
  [('0', 0), ('1', 1), ('2', 2), ('3', 3), ('4', 4), ('5', 5), ('6', 6), ('7', 7), ('8', 8),
    ('9', 9), ('a', 10), ('b', 11), ('c', 12), ('d', 13), ('e', 14), ('f', 15), ('A', 10),
    ('B', 11), ('C', 12), ('D', 13), ('E', 14), ('F', 15)]

/-- The texts of one element of a string. -/
inductive UnitText : TextUnit → List Char → Prop where
  | plain {c : Char} : ' ' ≤ c → c ≠ '"' → c ≠ '\\' → UnitText (.char c) [c]
  | letter {e c : Char} : (e, c) ∈ escapes → UnitText (.char c) ['\\', e]
  | number {a b c d : Char} {i j k l : ℕ} :
      (a, i) ∈ hexDigits → (b, j) ∈ hexDigits → (c, k) ∈ hexDigits → (d, l) ∈ hexDigits →
        UnitText (unitOfNumber (((i * 16 + j) * 16 + k) * 16 + l)) ['\\', 'u', a, b, c, d]

/-- The texts of a string, without the quotes around them. -/
inductive UnitsText : List TextUnit → List Char → Prop where
  | nil : UnitsText [] []
  | cons {unit : TextUnit} {units : List TextUnit} {s t : List Char} :
      UnitText unit s → UnitsText units t → UnitsText (unit :: units) (s ++ t)

/-! ## Values -/

/-- The texts of all parts with commas between them. -/
def joined {α : Type} (padded : α → List Char) (parts : List α) : List Char :=
  List.intercalate [','] (parts.map padded)

theorem joined_singleton {α : Type} (padded : α → List Char) (part : α) :
    joined padded [part] = padded part := by
  simp only [joined, List.map_cons, List.map_nil, List.intercalate_singleton]

theorem joined_cons_cons {α : Type} (padded : α → List Char) (part next : α) (parts : List α) :
    joined padded (part :: next :: parts) = padded part ++ ',' :: joined padded (next :: parts) := by
  simp only [joined, List.map_cons, List.intercalate_cons_cons, List.append_assoc,
    List.singleton_append]

theorem exists_joined_cons {α : Type} (padded : α → List Char) (part : α) (parts : List α) :
    ∃ more, joined padded (part :: parts) = padded part ++ more := by
  cases parts with
  | nil => exact ⟨[], by rw [joined_singleton, List.append_nil]⟩
  | cons next parts => exact ⟨_, joined_cons_cons padded part next parts⟩

/-- A value with a text for it and what stands on both sides. -/
structure Item where
  before : List Char
  value : Value
  text : List Char
  after : List Char

namespace Item

def padded (item : Item) : List Char :=
  item.before ++ (item.text ++ item.after)

/-- Only blanks stand on both sides. -/
structure Spaced (item : Item) : Prop where
  before : Blank item.before
  after : Blank item.after

end Item

/-- A member of an object: a name with a text for it and what stands on both sides,
and the value with the same. -/
structure Member where
  before : List Char
  name : List TextUnit
  nameText : List Char
  after : List Char
  item : Item

namespace Member

def padded (member : Member) : List Char :=
  member.before ++ ('"' :: member.nameText ++ ('"' :: member.after ++ ':' :: member.item.padded))

/-- The member without its texts. -/
def entry (member : Member) : List TextUnit × Value :=
  (member.name, member.item.value)

/-- The text of the name is one, and only blanks stand between the parts. -/
structure Spaced (member : Member) : Prop where
  before : Blank member.before
  name : UnitsText member.name member.nameText
  after : Blank member.after
  item : member.item.Spaced

end Member

/-- The texts of a value. -/
inductive Writes : Value → List Char → Prop where
  | null : Writes .null ['n', 'u', 'l', 'l']
  | bool (b : Bool) :
      Writes (.bool b) (if b then ['t', 'r', 'u', 'e'] else ['f', 'a', 'l', 's', 'e'])
  | number {s : List Char} : Number s → Writes (.number s) s
  | string {units : List TextUnit} {s : List Char} :
      UnitsText units s → Writes (.string units) ('"' :: s ++ ['"'])
  | emptyArray {w : List Char} : Blank w → Writes (.array []) ('[' :: w ++ [']'])
  | array {items : List Item} :
      items ≠ [] → (∀ item ∈ items, item.Spaced) →
        (∀ item ∈ items, Writes item.value item.text) →
          Writes (.array (items.map Item.value)) ('[' :: joined Item.padded items ++ [']'])
  | emptyObject {w : List Char} : Blank w → Writes (.object []) ('{' :: w ++ ['}'])
  | object {members : List Member} :
      members ≠ [] → (∀ member ∈ members, member.Spaced) →
        (∀ member ∈ members, Writes member.item.value member.item.text) →
          Writes (.object (members.map Member.entry)) ('{' :: joined Member.padded members ++ ['}'])

/-- A document is the text of one value with blanks around it. -/
def WritesDocument (value : Value) (document : List Char) : Prop :=
  ∃ item : Item, item.value = value ∧ item.Spaced ∧ Writes item.value item.text ∧
    document = item.padded

end EcpAgreement.Document
