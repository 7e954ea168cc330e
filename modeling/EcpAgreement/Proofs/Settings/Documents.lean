import EcpAgreement.Proofs.Document.Reading
import EcpAgreement.Settings.Document
import Mathlib

/-!
# Settings documents

What a document that writes an object says about settings depends on the values of
two names alone, however the object is spaced, escaped and ordered and whatever else
it holds.  A name without a value leaves the default, a name with one value of the
right type takes it, and in every other case the document is refused
(`ofValue?_object_eq_some_iff`).  What settings are written as is such a document, with one
value for each name, so they are read back.
-/

namespace EcpAgreement

open Document

namespace Document

/-- The values that an object gives to a name, in their order. -/
def valuesOf (name : String) (members : List (List TextUnit × Value)) : List Value :=
  members.filterMap fun member => if text? member.1 = some name then some member.2 else none

theorem valuesOf_cons (name : String) (member : List TextUnit × Value)
    (members : List (List TextUnit × Value)) :
    valuesOf name (member :: members) =
      if text? member.1 = some name then member.2 :: valuesOf name members
      else valuesOf name members := by
  rw [valuesOf, List.filterMap_cons]
  split
  · rename_i h
    rw [if_neg (by simpa using h)]
    rfl
  · rename_i value h
    split at h
    · rename_i hname
      rw [if_pos hname, Option.some.inj h]
      rfl
    · contradiction

/-- The text that a value is, if it is a string. -/
def Value.asText? : Value → Option String
  | .string units => text? units
  | _ => none

/-- The truth value that a value is. -/
def Value.asBool? : Value → Option Bool
  | .bool b => some b
  | _ => none

/-- No value gives the default, and one of the right type gives what it is. -/
def Gives {α : Type} (read : Value → Option α) (default : α) (values : List Value) (a : α) : Prop :=
  values = [] ∧ a = default ∨ ∃ value, values = [value] ∧ read value = some a

namespace Gives

variable {α : Type} {read : Value → Option α} {default a : α} {values : List Value}

theorem length_le (h : Gives read default values a) : values.length ≤ 1 := by
  rcases h with ⟨rfl, -⟩ | ⟨value, rfl, -⟩
  · exact Nat.zero_le 1
  · exact Nat.le_refl 1

theorem read_of_mem (h : Gives read default values a) {value : Value} (hmem : value ∈ values) :
    read value = some a := by
  rcases h with ⟨rfl, -⟩ | ⟨only, rfl, hread⟩
  · contradiction
  · rwa [List.mem_singleton.mp hmem]

theorem perm (h : Gives read default values a) {other : List Value} (hperm : values.Perm other) :
    Gives read default other a := by
  rcases h with ⟨rfl, hdefault⟩ | ⟨value, rfl, hread⟩
  · exact .inl ⟨List.nil_perm.mp hperm, hdefault⟩
  · exact .inr ⟨value, (List.singleton_perm.mp hperm).symm, hread⟩

end Gives

/-- Taking values one after the other leads from what was held to what is held. -/
inductive Collects {α : Type} (read : Value → Option α) : List Value → Option α → Option α → Prop
  | nothing (held : Option α) : Collects read [] held held
  | value {value : Value} {a : α} : read value = some a → Collects read [value] none (some a)

section Collect

variable {α : Type} {read : Value → Option α} {held last : Option α}

theorem collects_nil_iff : Collects read [] held last ↔ last = held := by
  constructor
  · rintro ⟨⟩
    rfl
  · rintro rfl
    exact .nothing last

/-- Nothing is taken where something is held already. -/
theorem collects_cons_iff {value : Value} {values : List Value} :
    Collects read (value :: values) held last ↔
      held = none ∧ ∃ a, read value = some a ∧ Collects read values (some a) last := by
  constructor
  · rintro (_ | h)
    exact ⟨rfl, _, h, .nothing _⟩
  · rintro ⟨rfl, a, h, ⟨⟩⟩
    exact .value h

theorem exists_collects_iff {values : List Value} {default a : α} :
    (∃ last, Collects read values none last ∧ last.getD default = a) ↔
      Gives read default values a := by
  constructor
  · rintro ⟨last, ⟨⟩ | h, rfl⟩
    · exact .inl ⟨rfl, rfl⟩
    · exact .inr ⟨_, rfl, h⟩
  · rintro (⟨rfl, rfl⟩ | ⟨value, rfl, h⟩)
    · exact ⟨none, .nothing none, rfl⟩
    · exact ⟨some a, .value h, rfl⟩

end Collect

end Document

/-! ## The members of an object -/

namespace FoundSettings

variable {found after last : FoundSettings} {member : List TextUnit × Value}
  {members : List (List TextUnit × Value)}

theorem addMember_of_no_text (h : text? member.1 = none) : found.addMember member = none := by
  rw [addMember, h]
  rfl

theorem addMember_scope (h : text? member.1 = some scopeMember) :
    found.addMember member = some after ↔ found.scope? = none ∧
      ∃ scope, member.2.asText? = some scope ∧ after = { found with scope? := some scope } := by
  obtain ⟨scope?, xOnly?⟩ := found
  simp only [addMember, h, Option.bind_eq_bind, Option.bind_some, if_true]
  cases scope? with
  | some scope => simp
  | none =>
      cases member.2 with
      | string units =>
          simp only [Value.asText?, true_and]
          cases text? units with
          | none => simp
          | some scope => simp [eq_comm]
      | _ => simp [Value.asText?]

theorem addMember_format (h : text? member.1 = some formatOption) :
    found.addMember member = some after ↔ found.xOnly? = none ∧
      ∃ xOnly, member.2.asBool? = some xOnly ∧ after = { found with xOnly? := some xOnly } := by
  have hne : formatOption ≠ scopeMember := by decide
  obtain ⟨scope?, xOnly?⟩ := found
  simp only [addMember, h, Option.bind_eq_bind, Option.bind_some, if_neg hne, if_true]
  cases xOnly? with
  | some xOnly => simp
  | none =>
      cases member.2 with
      | bool b => simp [Value.asBool?, eq_comm]
      | _ => simp [Value.asBool?]

theorem addMember_unknown {name : String} (h : text? member.1 = some name)
    (hscope : name ≠ scopeMember) (hformat : name ≠ formatOption) :
    found.addMember member = some found := by
  simp [addMember, h, hscope, hformat]

/-- The two names do not disturb each other, and other members disturb neither. -/
theorem foldlM_addMember_eq_some_iff :
    members.foldlM addMember found = some last ↔
      (∀ member ∈ members, (text? member.1).isSome) ∧
        Collects Value.asText? (valuesOf scopeMember members) found.scope? last.scope? ∧
        Collects Value.asBool? (valuesOf formatOption members) found.xOnly? last.xOnly? := by
  have hne : scopeMember ≠ formatOption := by decide
  induction members generalizing found with
  | nil =>
      obtain ⟨scope?, xOnly?⟩ := found
      obtain ⟨lastScope?, lastXOnly?⟩ := last
      simp [valuesOf, collects_nil_iff, @eq_comm _ scope?, @eq_comm _ xOnly?]
  | cons member members ih =>
      rw [List.foldlM_cons, Option.bind_eq_bind, Option.bind_eq_some_iff]
      simp only [ih, List.forall_mem_cons, valuesOf_cons]
      cases hname : text? member.1 with
      | none => simp [addMember_of_no_text hname]
      | some name =>
          by_cases hscope : name = scopeMember
          · subst hscope
            simp only [addMember_scope hname, if_true, Option.some.injEq, if_neg hne,
              collects_cons_iff, Option.isSome_some, true_and]
            constructor
            · rintro ⟨_, ⟨hnone, scope, hread, rfl⟩, hnames, hscopes, hflags⟩
              exact ⟨hnames, ⟨hnone, scope, hread, hscopes⟩, hflags⟩
            · rintro ⟨hnames, ⟨hnone, scope, hread, hscopes⟩, hflags⟩
              exact ⟨_, ⟨hnone, scope, hread, rfl⟩, hnames, hscopes, hflags⟩
          · by_cases hformat : name = formatOption
            · subst hformat
              simp only [addMember_format hname, if_true, Option.some.injEq, if_neg hne.symm,
                collects_cons_iff, Option.isSome_some, true_and]
              constructor
              · rintro ⟨_, ⟨hnone, xOnly, hread, rfl⟩, hnames, hscopes, hflags⟩
                exact ⟨hnames, hscopes, hnone, xOnly, hread, hflags⟩
              · rintro ⟨hnames, hscopes, hnone, xOnly, hread, hflags⟩
                exact ⟨_, ⟨hnone, xOnly, hread, rfl⟩, hnames, hscopes, hflags⟩
            · simp [addMember_unknown hname hscope hformat, hscope, hformat]

end FoundSettings

/-! ## Documents that write an object -/

namespace StaticSettings

variable {members : List (List TextUnit × Value)} {document : String} {settings : StaticSettings}

theorem ofValue?_object_eq_some_iff :
    ofValue? (.object members) = some settings ↔
      (∀ member ∈ members, (text? member.1).isSome) ∧
        Gives Value.asText? defaultNamespace (valuesOf scopeMember members) settings.scope ∧
        Gives Value.asBool? true (valuesOf formatOption members) settings.xOnly := by
  simp only [ofValue?, Option.bind_eq_bind, Option.bind_eq_some_iff, Option.pure_def,
    Option.some.injEq, FoundSettings.foldlM_addMember_eq_some_iff, ← exists_collects_iff]
  constructor
  · rintro ⟨found, ⟨hnames, hscope, hformat⟩, rfl⟩
    exact ⟨hnames, ⟨_, hscope, rfl⟩, ⟨_, hformat, rfl⟩⟩
  · rintro ⟨hnames, ⟨scope?, hscope, heq⟩, ⟨xOnly?, hformat, heq'⟩⟩
    refine ⟨⟨scope?, xOnly?⟩, ⟨hnames, hscope, hformat⟩, ?_⟩
    rw [FoundSettings.toSettings, heq, heq']

theorem ofText?_of_writes {value : Value} (h : WritesDocument value document.toList) :
    ofText? document = ofValue? value := by
  rw [ofText?, Value.ofChars?_eq_some_iff.mpr h]
  rfl

theorem ofText?_of_gives (h : WritesDocument (.object members) document.toList)
    (hnames : ∀ member ∈ members, (text? member.1).isSome)
    (hscope : Gives Value.asText? defaultNamespace (valuesOf scopeMember members) settings.scope)
    (hformat : Gives Value.asBool? true (valuesOf formatOption members) settings.xOnly) :
    ofText? document = some settings := by
  rw [ofText?_of_writes h]
  exact ofValue?_object_eq_some_iff.mpr ⟨hnames, hscope, hformat⟩

theorem ofValue?_object_of_perm {other : List (List TextUnit × Value)} (h : members.Perm other)
    (hread : ofValue? (.object members) = some settings) :
    ofValue? (.object other) = some settings := by
  rw [ofValue?_object_eq_some_iff] at hread ⊢
  obtain ⟨hnames, hscope, hformat⟩ := hread
  exact ⟨fun member hmem => hnames member (h.mem_iff.mpr hmem),
    hscope.perm (h.filterMap _), hformat.perm (h.filterMap _)⟩

theorem ofText?_of_perm {other : List (List TextUnit × Value)} {again : String}
    (h : WritesDocument (.object members) document.toList)
    (hagain : WritesDocument (.object other) again.toList) (hperm : members.Perm other) :
    ofText? again = ofText? document := by
  rw [ofText?_of_writes h, ofText?_of_writes hagain]
  apply Option.ext
  intro settings
  exact ⟨ofValue?_object_of_perm hperm.symm, ofValue?_object_of_perm hperm⟩

/-- What no settings can be read from is refused. -/
theorem ofText?_eq_none (h : WritesDocument (.object members) document.toList)
    (hnone : ∀ settings, ofValue? (.object members) ≠ some settings) :
    ofText? document = none := by
  rw [ofText?_of_writes h]
  exact Option.eq_none_iff_forall_ne_some.mpr hnone

theorem ofText?_eq_none_of_repeated (h : WritesDocument (.object members) document.toList)
    {name : String} (hname : name = scopeMember ∨ name = formatOption)
    (hlength : 1 < (valuesOf name members).length) : ofText? document = none := by
  apply ofText?_eq_none h
  intro settings hsettings
  obtain ⟨-, hscope, hformat⟩ := ofValue?_object_eq_some_iff.mp hsettings
  rcases hname with rfl | rfl
  · exact absurd hscope.length_le (Nat.not_le_of_gt hlength)
  · exact absurd hformat.length_le (Nat.not_le_of_gt hlength)

/-- The namespace must be a string, and one without half a surrogate pair. -/
theorem ofText?_eq_none_of_scope (h : WritesDocument (.object members) document.toList)
    {value : Value} (hmem : value ∈ valuesOf scopeMember members) (hvalue : value.asText? = none) :
    ofText? document = none := by
  apply ofText?_eq_none h
  intro settings hsettings
  obtain ⟨-, hscope, -⟩ := ofValue?_object_eq_some_iff.mp hsettings
  exact Option.some_ne_none _ ((hscope.read_of_mem hmem).symm.trans hvalue)

theorem ofText?_eq_none_of_format (h : WritesDocument (.object members) document.toList)
    {value : Value} (hmem : value ∈ valuesOf formatOption members) (hvalue : value.asBool? = none) :
    ofText? document = none := by
  apply ofText?_eq_none h
  intro settings hsettings
  obtain ⟨-, -, hformat⟩ := ofValue?_object_eq_some_iff.mp hsettings
  exact Option.some_ne_none _ ((hformat.read_of_mem hmem).symm.trans hvalue)

/-! ## What settings are written as -/

theorem unitsText_written (s : List Char) : UnitsText (s.map .char) (s.flatMap writtenChar) := by
  obtain ⟨_, ⟨t, ht, rfl⟩, heq⟩ := reads_text.sound (readText_written s [])
  rw [List.append_nil] at heq
  rwa [List.append_cancel_right heq]

theorem text?_map_char (s : String) : text? (s.toList.map .char) = some s := by
  rw [text?, textChars?_map_char, Option.map_some, String.ofList_toList]

/-- The members that settings are written as. -/
def entries (settings : StaticSettings) : List (List TextUnit × Value) :=
  [(scopeMember.toList.map .char, .string (settings.scope.toList.map .char)),
    (formatOption.toList.map .char, .bool settings.xOnly)]

/-- A member as it is written, without blanks. -/
def tight (name : String) (value : Value) (text : List Char) : Member where
  before := []
  name := name.toList.map .char
  nameText := name.toList.flatMap writtenChar
  after := []
  item := { before := [], value := value, text := text, after := [] }

theorem spaced_tight (name : String) (value : Value) (text : List Char) :
    (tight name value text).Spaced := by
  have hnone : Blank [] := by simp [Blank]
  exact ⟨hnone, unitsText_written _, hnone, ⟨hnone, hnone⟩⟩

theorem padded_tight (name : String) (value : Value) (text : List Char) :
    (tight name value text).padded = writtenText name.toList ++ ':' :: text := by
  simp [tight, Member.padded, Item.padded, writtenText]

theorem writesDocument_toText (settings : StaticSettings) :
    WritesDocument (.object settings.entries) settings.toText.toList := by
  have hscope : Writes (.string (settings.scope.toList.map .char))
      (writtenText settings.scope.toList) := .string (unitsText_written _)
  have hformat : Writes (.bool settings.xOnly) (writtenBool settings.xOnly) := .bool _
  let members : List Member :=
    [tight scopeMember (.string (settings.scope.toList.map .char))
        (writtenText settings.scope.toList),
      tight formatOption (.bool settings.xOnly) (writtenBool settings.xOnly)]
  have hspaced : ∀ member ∈ members, member.Spaced := by
    simp [members, spaced_tight]
  have hwrites : ∀ member ∈ members, Writes member.item.value member.item.text := by
    simp [members, tight, hscope, hformat]
  refine ⟨⟨[], .object settings.entries, settings.toText.toList, []⟩, rfl, ?_, ?_, ?_⟩
  · exact ⟨by simp [Blank], by simp [Blank]⟩
  · have htext : settings.toText.toList = '{' :: joined Member.padded members ++ ['}'] := by
      simp [toText, writtenObject, members, joined, padded_tight]
    rw [htext]
    exact .object (by simp [members]) hspaced hwrites
  · simp [Item.padded]

theorem ofText?_toText (settings : StaticSettings) : ofText? settings.toText = some settings := by
  have hne : formatOption ≠ scopeMember := by decide
  have hscope : valuesOf scopeMember settings.entries =
      [.string (settings.scope.toList.map .char)] := by
    simp [valuesOf, entries, text?_map_char, hne]
  have hformat : valuesOf formatOption settings.entries = [.bool settings.xOnly] := by
    simp [valuesOf, entries, text?_map_char, hne.symm]
  refine ofText?_of_gives settings.writesDocument_toText ?_ ?_ ?_
  · simp [entries, text?_map_char]
  · exact .inr ⟨_, hscope, text?_map_char settings.scope⟩
  · exact .inr ⟨_, hformat, rfl⟩

/-! ## What is read from a document -/

/-- What becomes of a document that writes an object with certain members. -/
structure ReadsObject (members : List (List TextUnit × Value)) (document : String) : Prop where
  /-- Each of the two names has at most one value, and that of its type. -/
  accepted : (∀ member ∈ members, (text? member.1).isSome) → ∀ scope xOnly,
    Gives Value.asText? "charon" (valuesOf "namespace" members) scope →
      Gives Value.asBool? true (valuesOf "ecp_x_coordinate_only" members) xOnly →
        ofText? document = some { scope := scope, xOnly := xOnly }
  reordered : ∀ other again, members.Perm other →
    WritesDocument (.object other) again.toList → ofText? again = ofText? document
  repeated : ∀ name ∈ ["namespace", "ecp_x_coordinate_only"],
    1 < (valuesOf name members).length → ofText? document = none
  scope_mistyped : ∀ value ∈ valuesOf "namespace" members,
    (∀ units, value ≠ .string units) → ofText? document = none
  xOnly_mistyped : ∀ value ∈ valuesOf "ecp_x_coordinate_only" members,
    (∀ b, value ≠ .bool b) → ofText? document = none

/-- Settings are read back from what they are written as, and from every document
that writes an object the values of the two names are taken. -/
theorem reads_documents :
    (∀ settings : StaticSettings, ofText? settings.toText = some settings) ∧
      ∀ members document, WritesDocument (.object members) document.toList →
        ReadsObject members document := by
  refine ⟨ofText?_toText, ?_⟩
  intro members document h
  constructor
  case accepted =>
    intro hnames scope xOnly hscope hformat
    exact ofText?_of_gives h hnames hscope hformat
  case reordered =>
    intro other again hperm hagain
    exact ofText?_of_perm h hagain hperm
  case repeated =>
    intro name hname hlength
    simp only [List.mem_cons, List.not_mem_nil, or_false] at hname
    exact ofText?_eq_none_of_repeated h hname hlength
  case scope_mistyped =>
    intro value hmem hstring
    refine ofText?_eq_none_of_scope h hmem ?_
    cases value with
    | string units => exact absurd rfl (hstring units)
    | _ => rfl
  case xOnly_mistyped =>
    intro value hmem hbool
    refine ofText?_eq_none_of_format h hmem ?_
    cases value with
    | bool b => exact absurd rfl (hbool b)
    | _ => rfl

/-- Blanks, escapes in a name and in a value, and an unknown member that holds other
objects, in front of the others. -/
def nestedDocument : String :=
  "\t\x7b\"a\\u00e9\": [null, \x7b\"b\": -1.5E+3, \"b\": [ ]\x7d], \"ecp_x_coordinate_only\" :false , " ++
    "\"\\u006eamespace\": \"pl\\\"u\\ud834\\udd1eto\"\x7d\n"

def nestedMembers : List (List TextUnit × Value) :=
  [([.char 'a', .char 'é'],
      .array [.null, .object [([.char 'b'], .number ['-', '1', '.', '5', 'E', '+', '3']),
        ([.char 'b'], .array [])]]),
    (formatOption.toList.map .char, .bool false),
    (scopeMember.toList.map .char,
      .string [.char 'p', .char 'l', .char '"', .char 'u', .surrogate 0xd834, .surrogate 0xdd1e,
        .char 't', .char 'o'])]

theorem reads_documents_nested :
    WritesDocument (.object nestedMembers) nestedDocument.toList ∧
      ReadsObject nestedMembers nestedDocument ∧
      ofText? nestedDocument = some { scope := "pl\"u𝄞to", xOnly := false } := by
  have hvalue : Value.ofChars? nestedDocument.toList = some (.object nestedMembers) := by cbv
  have hwrites : WritesDocument (.object nestedMembers) nestedDocument.toList :=
    Value.ofChars?_eq_some_iff.mp hvalue
  have hreads := reads_documents.2 nestedMembers nestedDocument hwrites
  refine ⟨hwrites, hreads, hreads.accepted (by decide) _ _ ?_ ?_⟩
  · exact .inr ⟨_, rfl, rfl⟩
  · exact .inr ⟨_, rfl, rfl⟩

end StaticSettings

end EcpAgreement
