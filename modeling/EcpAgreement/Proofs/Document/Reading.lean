import EcpAgreement.Proofs.Document.Tokens
import Mathlib.Data.List.TakeWhile

/-!
# Reading documents

A document is read as a value exactly when it is a text of that value
(`Value.ofChars?_eq_some_iff`).  So every text of the grammar is read, however its
parts are spaced, escaped and nested, nothing else is read, and no document is a
text of two values.

The readers of values, items and members call each other with less fuel each time.
Soundness is an induction on the fuel.  Completeness follows the grammar instead: a
text needs no more fuel than it has characters, because every bracket that is opened
adds two characters and every separator one.
-/

namespace EcpAgreement.Document

/-! ## Blanks in front -/

theorem readValue_skipBlank (fuel : ℕ) (s : List Char) :
    readValue fuel (skipBlank s) = readValue fuel s := by
  cases fuel with
  | zero => rfl
  | succ fuel => rw [readValue, readValue, skipBlank_skipBlank]

theorem readItems_skipBlank (fuel : ℕ) (s : List Char) :
    readItems fuel (skipBlank s) = readItems fuel s := by
  cases fuel with
  | zero => rfl
  | succ fuel => rw [readItems, readItems, readValue_skipBlank]

theorem readMembers_skipBlank (fuel : ℕ) (s : List Char) :
    readMembers fuel (skipBlank s) = readMembers fuel s := by
  cases fuel with
  | zero => rfl
  | succ fuel => rw [readMembers, readMembers, skipBlank_skipBlank]

theorem readValue_blank_append {w : List Char} (hw : Blank w) (fuel : ℕ) (s : List Char) :
    readValue fuel (w ++ s) = readValue fuel s := by
  rw [← readValue_skipBlank, skipBlank_blank_append hw, readValue_skipBlank]

/-- Blanks may stand before a separator or a closing bracket. -/
theorem skipBlank_of_separator {w : List Char} (hw : Blank w) {c : Char}
    (hc : c ∈ [',', ']', ':', '}']) (s : List Char) : skipBlank (w ++ c :: s) = c :: s := by
  rw [skipBlank_blank_append hw, skipBlank_of_head]
  simp only [List.mem_cons, List.not_mem_nil, or_false] at hc
  rcases hc with rfl | rfl | rfl | rfl <;> rfl

/-! ## Every text is read -/

/-- What may follow a number. -/
abbrev Follows : List Char → Prop :=
  Stops ['.', 'e', 'E']

/-- With fuel for each of its characters a text is read as its value, and no further
than to its end. -/
def ReadAs (value : Value) (text : List Char) : Prop :=
  ∀ fuel rest, text.length ≤ fuel → Follows rest →
    readValue fuel (text ++ rest) = some (value, rest)

theorem follows_nil : Follows [] := by
  intro c hc
  contradiction

theorem follows_blank_append {w : List Char} (hw : Blank w) {s : List Char} (hs : Follows s) :
    Follows (w ++ s) := by
  cases w with
  | nil => exact hs
  | cons c w =>
      have hc := hw c (by simp)
      apply stops_cons_iff.mpr
      simp only [List.mem_cons, List.not_mem_nil, or_false] at hc
      rcases hc with rfl | rfl | rfl | rfl <;> decide

theorem follows_separator {w : List Char} (hw : Blank w) {c : Char}
    (hc : c ∈ [',', ']', ':', '}']) (s : List Char) : Follows (w ++ c :: s) := by
  apply follows_blank_append hw
  apply stops_cons_iff.mpr
  simp only [List.mem_cons, List.not_mem_nil, or_false] at hc
  rcases hc with rfl | rfl | rfl | rfl <;> decide

theorem exists_fuel {c : Char} {s : List Char} {fuel : ℕ} (h : (c :: s).length ≤ fuel) :
    ∃ less, fuel = less + 1 ∧ s.length ≤ less := by
  obtain ⟨less, rfl⟩ := Nat.exists_eq_add_of_le' h
  exact ⟨less + s.length, by rw [List.length_cons]; omega, by omega⟩

theorem Number.exists_cons {s : List Char} (h : Number s) :
    ∃ c rest, s = c :: rest ∧ (c = '-' ∨ c.isDigit = true) := by
  cases h with
  | positive hmagnitude =>
      obtain ⟨c, rest, rfl, hc⟩ := hmagnitude.exists_cons
      exact ⟨c, rest, rfl, .inr hc⟩
  | negative _ => exact ⟨'-', _, rfl, .inl rfl⟩

theorem isBlank_of_number {c : Char} (hc : c = '-' ∨ c.isDigit = true) : isBlank c = false := by
  apply Bool.eq_false_iff.mpr
  intro hblank
  have hmem := isBlank_iff.mp hblank
  simp only [List.mem_cons, List.not_mem_nil, or_false] at hmem
  rcases hmem with rfl | rfl | rfl | rfl <;> contradiction

/-- What begins like a number is read as one. -/
theorem readValue_of_number {c : Char} (hc : c = '-' ∨ c.isDigit = true) (fuel : ℕ)
    (s : List Char) :
    readValue (fuel + 1) (c :: s) =
      (readNumber (c :: s)).map fun read => (.number read.1, read.2) := by
  rw [readValue, skipBlank_of_head (isBlank_of_number hc)]
  split
  case h_7 => cases readNumber (c :: s) <;> rfl
  all_goals
    rename_i heq
    obtain ⟨rfl, -⟩ := List.cons.inj heq
    exact absurd hc (by decide)

theorem readAs_number {s : List Char} (h : Number s) : ReadAs (.number s) s := by
  intro fuel rest hfuel hrest
  have hread := reads_number.complete ⟨rfl, h⟩ hrest
  obtain ⟨c, t, rfl, hc⟩ := h.exists_cons
  obtain ⟨fuel, rfl, -⟩ := exists_fuel hfuel
  rw [List.cons_append] at hread ⊢
  rw [readValue_of_number hc, hread]
  rfl

theorem readAs_string {units : List TextUnit} {s : List Char} (h : UnitsText units s) :
    ReadAs (.string units) ('"' :: s ++ ['"']) := by
  intro fuel rest hfuel _
  have hread : readText (s ++ ['"'] ++ rest) = some (units, rest) :=
    reads_text.complete ⟨s, h, rfl⟩ trivial
  obtain ⟨fuel, rfl, -⟩ := exists_fuel hfuel
  rw [List.cons_append, List.cons_append, readValue, skipBlank_of_head rfl]
  simp only [hread]
  rfl

/-- A text begins neither with a blank nor with the bracket that closes an array. -/
theorem Writes.exists_cons {value : Value} {t : List Char} (h : Writes value t) :
    ∃ c s, t = c :: s ∧ isBlank c = false ∧ c ≠ ']' := by
  cases h with
  | number hnumber =>
      obtain ⟨c, s, rfl, hc⟩ := hnumber.exists_cons
      refine ⟨c, s, rfl, isBlank_of_number hc, ?_⟩
      rintro rfl
      exact absurd hc (by decide)
  | null => exact ⟨_, _, rfl, rfl, by decide⟩
  | bool b =>
      cases b with
      | false => exact ⟨_, _, rfl, rfl, by decide⟩
      | true => exact ⟨_, _, rfl, rfl, by decide⟩
  | string _ => exact ⟨_, _, rfl, rfl, by decide⟩
  | emptyArray _ => exact ⟨_, _, rfl, rfl, by decide⟩
  | array _ _ _ => exact ⟨_, _, rfl, rfl, by decide⟩
  | emptyObject _ => exact ⟨_, _, rfl, rfl, by decide⟩
  | object _ _ _ => exact ⟨_, _, rfl, rfl, by decide⟩

/-- An item is read up to the blanks behind its value. -/
theorem Item.readValue_padded {item : Item} (hspaced : item.Spaced)
    (hread : ReadAs item.value item.text) (fuel : ℕ) (hfuel : item.padded.length ≤ fuel)
    (c : Char) (hc : c ∈ [',', ']', ':', '}']) (rest : List Char) :
    readValue fuel (item.padded ++ c :: rest) = some (item.value, item.after ++ c :: rest) := by
  have htext : item.text.length ≤ fuel := by
    simp only [padded, List.length_append] at hfuel
    omega
  rw [padded, List.append_assoc, List.append_assoc, readValue_blank_append hspaced.before]
  exact hread fuel _ htext (follows_separator hspaced.after hc rest)

/-- One unit of fuel is for each item, and its comma pays for it. -/
theorem readItems_joined {items : List Item} (hne : items ≠ [])
    (hspaced : ∀ item ∈ items, item.Spaced)
    (hread : ∀ item ∈ items, ReadAs item.value item.text) (fuel : ℕ) (rest : List Char)
    (hfuel : (joined Item.padded items).length < fuel) :
    readItems fuel (joined Item.padded items ++ ']' :: rest) =
      some (items.map Item.value, rest) := by
  induction items generalizing fuel with
  | nil => contradiction
  | cons item items ih =>
      obtain ⟨fuel, rfl⟩ := Nat.exists_eq_add_one_of_ne_zero (Nat.ne_zero_of_lt hfuel)
      have hitem := hspaced item (by simp)
      have hvalue := item.readValue_padded hitem (hread item (by simp)) fuel
      cases items with
      | nil =>
          rw [joined_singleton] at hfuel ⊢
          simp only [readItems, hvalue (Nat.le_of_lt_succ hfuel) ']' (by simp),
            Option.bind_eq_bind, Option.bind_some,
            skipBlank_of_separator hitem.after (c := ']') (by simp), Option.pure_def,
            List.map_cons, List.map_nil]
      | cons next items =>
          rw [joined_cons_cons] at hfuel ⊢
          simp only [List.length_append, List.length_cons] at hfuel
          have hitems := ih (by simp) (fun i hi => hspaced i (List.mem_cons_of_mem _ hi))
            (fun i hi => hread i (List.mem_cons_of_mem _ hi)) fuel (by omega)
          simp only [List.append_assoc, List.cons_append, readItems,
            hvalue (by omega) ',' (by simp), hitems, Option.bind_eq_bind, Option.bind_some,
            skipBlank_of_separator hitem.after (c := ',') (by simp), Option.pure_def,
            List.map_cons]

/-- A member is read up to the blanks behind its value. -/
theorem Member.readText_padded {member : Member} (hspaced : member.Spaced) (s : List Char) :
    ∃ opened, skipBlank (member.padded ++ s) = '"' :: opened ∧
      readText opened =
        some (member.name, member.after ++ ':' :: (member.item.padded ++ s)) := by
  refine ⟨member.nameText ++ '"' :: member.after ++ ':' :: (member.item.padded ++ s), ?_, ?_⟩
  · rw [padded, List.append_assoc, skipBlank_blank_append hspaced.before, List.cons_append,
      List.cons_append, skipBlank_of_head rfl]
    simp only [List.append_assoc, List.cons_append]
  · have hname : Closed member.name (member.nameText ++ ['"']) := ⟨_, hspaced.name, rfl⟩
    have hread : readText (member.nameText ++ ['"'] ++
        (member.after ++ ':' :: (member.item.padded ++ s))) = some (member.name, _) :=
      reads_text.complete hname trivial
    rw [← hread]
    simp only [List.append_assoc, List.cons_append, List.nil_append]

theorem readMembers_joined {members : List Member} (hne : members ≠ [])
    (hspaced : ∀ member ∈ members, member.Spaced)
    (hread : ∀ member ∈ members, ReadAs member.item.value member.item.text) (fuel : ℕ)
    (rest : List Char) (hfuel : (joined Member.padded members).length < fuel) :
    readMembers fuel (joined Member.padded members ++ '}' :: rest) =
      some (members.map Member.entry, rest) := by
  induction members generalizing fuel with
  | nil => contradiction
  | cons member members ih =>
      obtain ⟨fuel, rfl⟩ := Nat.exists_eq_add_one_of_ne_zero (Nat.ne_zero_of_lt hfuel)
      have hmember := hspaced member (by simp)
      have hitem : member.item.padded.length ≤ member.padded.length := by
        simp only [Member.padded, List.length_append, List.length_cons]
        omega
      have hvalue := member.item.readValue_padded hmember.item (hread member (by simp)) fuel
      cases members with
      | nil =>
          rw [joined_singleton] at hfuel ⊢
          obtain ⟨opened, hopened, hname⟩ := member.readText_padded hmember ('}' :: rest)
          simp only [readMembers, hopened, hname,
            skipBlank_of_separator hmember.after (c := ':') (by simp),
            hvalue (by omega) '}' (by simp),
            skipBlank_of_separator hmember.item.after (c := '}') (by simp), Option.bind_eq_bind,
            Option.bind_some, Option.pure_def, List.map_cons, List.map_nil, Member.entry]
      | cons next members =>
          rw [joined_cons_cons] at hfuel ⊢
          simp only [List.length_append, List.length_cons] at hfuel
          have hmembers := ih (by simp) (fun m hm => hspaced m (List.mem_cons_of_mem _ hm))
            (fun m hm => hread m (List.mem_cons_of_mem _ hm)) fuel (by omega)
          obtain ⟨opened, hopened, hname⟩ := member.readText_padded hmember
            (',' :: (joined Member.padded (next :: members) ++ '}' :: rest))
          simp only [List.append_assoc, List.cons_append, readMembers, hopened, hname,
            skipBlank_of_separator hmember.after (c := ':') (by simp),
            hvalue (by omega) ',' (by simp), hmembers,
            skipBlank_of_separator hmember.item.after (c := ',') (by simp), Option.bind_eq_bind,
            Option.bind_some, Option.pure_def, List.map_cons, Member.entry]

/-- An array that does not close at once has items. -/
theorem readValue_array {s : List Char} (h : ∀ after, skipBlank s ≠ ']' :: after) (fuel : ℕ) :
    readValue (fuel + 1) ('[' :: s) =
      (readItems fuel s).map fun read => (.array read.1, read.2) := by
  rw [readValue, ← readItems_skipBlank]
  simp only [skipBlank_of_head (c := '[') rfl]
  cases readItems fuel (skipBlank s) <;> rfl

theorem readValue_object {s : List Char} (h : ∀ after, skipBlank s ≠ '}' :: after) (fuel : ℕ) :
    readValue (fuel + 1) ('{' :: s) =
      (readMembers fuel s).map fun read => (.object read.1, read.2) := by
  rw [readValue, ← readMembers_skipBlank]
  simp only [skipBlank_of_head (c := '{') rfl]
  cases readMembers fuel (skipBlank s) <;> rfl

theorem readValue_emptyArray {s rest : List Char} (h : skipBlank s = ']' :: rest) (fuel : ℕ) :
    readValue (fuel + 1) ('[' :: s) = some (.array [], rest) := by
  rw [readValue, skipBlank_of_head rfl]
  simp only [h]

theorem readValue_emptyObject {s rest : List Char} (h : skipBlank s = '}' :: rest) (fuel : ℕ) :
    readValue (fuel + 1) ('{' :: s) = some (.object [], rest) := by
  rw [readValue, skipBlank_of_head rfl]
  simp only [h]

theorem readAs_array {items : List Item} (hne : items ≠ [])
    (hspaced : ∀ item ∈ items, item.Spaced)
    (hwrites : ∀ item ∈ items, Writes item.value item.text)
    (hread : ∀ item ∈ items, ReadAs item.value item.text) :
    ReadAs (.array (items.map Item.value)) ('[' :: joined Item.padded items ++ [']']) := by
  intro fuel rest hfuel _
  obtain ⟨fuel, rfl, hless⟩ := exists_fuel hfuel
  simp only [List.append_eq, List.length_append, List.length_singleton] at hless
  have hitems := readItems_joined hne hspaced hread fuel rest hless
  have hopen : ∀ after, skipBlank (joined Item.padded items ++ ']' :: rest) ≠ ']' :: after := by
    intro after
    obtain ⟨item, items, rfl⟩ := List.exists_cons_of_ne_nil hne
    obtain ⟨more, hmore⟩ := exists_joined_cons Item.padded item items
    obtain ⟨c, text, htext, hblank, hc⟩ := (hwrites item (by simp)).exists_cons
    rw [hmore, Item.padded, htext, List.append_assoc, List.append_assoc,
      skipBlank_blank_append (hspaced item (by simp)).before, List.cons_append, List.cons_append,
      skipBlank_of_head hblank]
    exact fun heq => hc (List.cons.inj heq).1
  rw [List.append_assoc, List.cons_append, List.singleton_append, readValue_array hopen, hitems]
  rfl

theorem readAs_object {members : List Member} (hne : members ≠ [])
    (hspaced : ∀ member ∈ members, member.Spaced)
    (hread : ∀ member ∈ members, ReadAs member.item.value member.item.text) :
    ReadAs (.object (members.map Member.entry)) ('{' :: joined Member.padded members ++ ['}']) := by
  intro fuel rest hfuel _
  obtain ⟨fuel, rfl, hless⟩ := exists_fuel hfuel
  simp only [List.append_eq, List.length_append, List.length_singleton] at hless
  have hmembers := readMembers_joined hne hspaced hread fuel rest hless
  have hopen : ∀ after, skipBlank (joined Member.padded members ++ '}' :: rest) ≠ '}' :: after := by
    intro after
    obtain ⟨member, members, rfl⟩ := List.exists_cons_of_ne_nil hne
    obtain ⟨more, hmore⟩ := exists_joined_cons Member.padded member members
    obtain ⟨opened, hopened, -⟩ :=
      member.readText_padded (hspaced member (by simp)) (more ++ '}' :: rest)
    rw [hmore, List.append_assoc, hopened]
    exact fun heq => absurd (List.cons.inj heq).1 (by decide)
  rw [List.append_assoc, List.cons_append, List.singleton_append, readValue_object hopen, hmembers]
  rfl

/-- Every text of a value is read as that value. -/
theorem Writes.readAs {value : Value} {t : List Char} (h : Writes value t) : ReadAs value t := by
  induction h with
  | null =>
      intro fuel rest hfuel _
      obtain ⟨fuel, rfl, -⟩ := exists_fuel hfuel
      rfl
  | bool b =>
      intro fuel rest hfuel _
      cases b with
      | false =>
          obtain ⟨fuel, rfl, -⟩ := exists_fuel hfuel
          rfl
      | true =>
          obtain ⟨fuel, rfl, -⟩ := exists_fuel hfuel
          rfl
  | number h => exact readAs_number h
  | string h => exact readAs_string h
  | emptyArray hblank =>
      intro fuel rest hfuel _
      obtain ⟨fuel, rfl, -⟩ := exists_fuel hfuel
      rw [List.append_assoc, List.cons_append]
      exact readValue_emptyArray (skipBlank_of_separator hblank (by simp) rest) fuel
  | array hne hspaced hwrites ih => exact readAs_array hne hspaced hwrites ih
  | emptyObject hblank =>
      intro fuel rest hfuel _
      obtain ⟨fuel, rfl, -⟩ := exists_fuel hfuel
      rw [List.append_assoc, List.cons_append]
      exact readValue_emptyObject (skipBlank_of_separator hblank (by simp) rest) fuel
  | object hne hspaced _ ih => exact readAs_object hne hspaced ih

/-! ## Nothing else is read -/

/-- Some texts of values, with blanks around them and commas between them. -/
def WritesItems (values : List Value) (t : List Char) : Prop :=
  ∃ items : List Item, items ≠ [] ∧ (∀ item ∈ items, item.Spaced) ∧
    (∀ item ∈ items, Writes item.value item.text) ∧
      values = items.map Item.value ∧ t = joined Item.padded items

def WritesMembers (entries : List (List TextUnit × Value)) (t : List Char) : Prop :=
  ∃ members : List Member, members ≠ [] ∧ (∀ member ∈ members, member.Spaced) ∧
    (∀ member ∈ members, Writes member.item.value member.item.text) ∧
      entries = members.map Member.entry ∧ t = joined Member.padded members

theorem writesItems_singleton {item : Item} (hspaced : item.Spaced)
    (hwrites : Writes item.value item.text) : WritesItems [item.value] item.padded := by
  refine ⟨[item], by simp, by simpa using hspaced, by simpa using hwrites, rfl, ?_⟩
  rw [joined_singleton]

theorem WritesItems.cons {item : Item} (hspaced : item.Spaced)
    (hwrites : Writes item.value item.text) {values : List Value} {t : List Char}
    (h : WritesItems values t) : WritesItems (item.value :: values) (item.padded ++ ',' :: t) := by
  obtain ⟨items, hne, hspacedAll, hwritesAll, rfl, rfl⟩ := h
  refine ⟨item :: items, by simp, List.forall_mem_cons.mpr ⟨hspaced, hspacedAll⟩,
    List.forall_mem_cons.mpr ⟨hwrites, hwritesAll⟩, rfl, ?_⟩
  obtain ⟨next, items, rfl⟩ := List.exists_cons_of_ne_nil hne
  rw [joined_cons_cons]

theorem writesMembers_singleton {member : Member} (hspaced : member.Spaced)
    (hwrites : Writes member.item.value member.item.text) :
    WritesMembers [member.entry] member.padded := by
  refine ⟨[member], by simp, by simpa using hspaced, by simpa using hwrites, rfl, ?_⟩
  rw [joined_singleton]

theorem WritesMembers.cons {member : Member} (hspaced : member.Spaced)
    (hwrites : Writes member.item.value member.item.text)
    {entries : List (List TextUnit × Value)} {t : List Char} (h : WritesMembers entries t) :
    WritesMembers (member.entry :: entries) (member.padded ++ ',' :: t) := by
  obtain ⟨members, hne, hspacedAll, hwritesAll, rfl, rfl⟩ := h
  refine ⟨member :: members, by simp, List.forall_mem_cons.mpr ⟨hspaced, hspacedAll⟩,
    List.forall_mem_cons.mpr ⟨hwrites, hwritesAll⟩, rfl, ?_⟩
  obtain ⟨next, members, rfl⟩ := List.exists_cons_of_ne_nil hne
  rw [joined_cons_cons]

/-- What the readers take off with a certain amount of fuel are texts of the grammar. -/
structure SoundWith (fuel : ℕ) : Prop where
  value : ∀ s value rest, readValue fuel s = some (value, rest) →
    ∃ before t, Blank before ∧ Writes value t ∧ s = before ++ (t ++ rest)
  items : ∀ s values rest, readItems fuel s = some (values, rest) →
    ∃ t, WritesItems values t ∧ s = t ++ ']' :: rest
  members : ∀ s entries rest, readMembers fuel s = some (entries, rest) →
    ∃ t, WritesMembers entries t ∧ s = t ++ '}' :: rest

/-- The first of the items that are read, and how it goes on behind it. -/
theorem SoundWith.exists_item {fuel : ℕ} (h : SoundWith fuel) {s rest : List Char}
    {values : List Value} (hread : readItems (fuel + 1) s = some (values, rest)) :
    ∃ (item : Item) (behind : List Char), item.Spaced ∧ Writes item.value item.text ∧
      s = item.padded ++ behind ∧
        (behind = ']' :: rest ∧ values = [item.value] ∨
          ∃ next more, behind = ',' :: next ∧ readItems fuel next = some (more, rest) ∧
            values = item.value :: more) := by
  rw [readItems] at hread
  obtain ⟨⟨value, behind⟩, hvalue, hclose⟩ := Option.bind_eq_some_iff.mp hread
  obtain ⟨before, text, hbefore, hwrites, rfl⟩ := h.value _ _ _ hvalue
  obtain ⟨after, hafter, hbehind⟩ := exists_blank_append_skipBlank behind
  refine ⟨⟨before, value, text, after⟩, skipBlank behind, ⟨hbefore, hafter⟩, hwrites, ?_, ?_⟩
  · simp only [Item.padded, List.append_assoc, ← hbehind]
  · dsimp only at hclose
    split at hclose
    case h_1 hend =>
      obtain ⟨rfl, rfl⟩ := Prod.mk.inj (Option.some.inj hclose)
      exact .inl ⟨hend, rfl⟩
    case h_2 next hnext =>
      obtain ⟨⟨more, last⟩, hmore, hlast⟩ := Option.bind_eq_some_iff.mp hclose
      obtain ⟨rfl, rfl⟩ := Prod.mk.inj (Option.some.inj hlast)
      exact .inr ⟨next, more, hnext, hmore, rfl⟩
    case h_3 => contradiction

theorem SoundWith.items_succ {fuel : ℕ} (h : SoundWith fuel) {s rest : List Char}
    {values : List Value} (hread : readItems (fuel + 1) s = some (values, rest)) :
    ∃ t, WritesItems values t ∧ s = t ++ ']' :: rest := by
  obtain ⟨item, behind, hspaced, hwrites, rfl, hlast | hnext⟩ := h.exists_item hread
  · obtain ⟨rfl, rfl⟩ := hlast
    exact ⟨_, writesItems_singleton hspaced hwrites, rfl⟩
  · obtain ⟨next, more, rfl, hmore, rfl⟩ := hnext
    obtain ⟨t, ht, rfl⟩ := h.items _ _ _ hmore
    exact ⟨_, WritesItems.cons hspaced hwrites ht, by rw [List.append_assoc, List.cons_append]⟩

/-- The first of the members that are read, and how it goes on behind it. -/
theorem SoundWith.exists_member {fuel : ℕ} (h : SoundWith fuel) {s rest : List Char}
    {entries : List (List TextUnit × Value)}
    (hread : readMembers (fuel + 1) s = some (entries, rest)) :
    ∃ (member : Member) (behind : List Char), member.Spaced ∧
      Writes member.item.value member.item.text ∧ s = member.padded ++ behind ∧
        (behind = '}' :: rest ∧ entries = [member.entry] ∨
          ∃ next more, behind = ',' :: next ∧ readMembers fuel next = some (more, rest) ∧
            entries = member.entry :: more) := by
  obtain ⟨before, hbefore, hs⟩ := exists_blank_append_skipBlank s
  rw [readMembers] at hread
  split at hread
  case h_2 => contradiction
  case h_1 opened hopened =>
    obtain ⟨⟨name, named⟩, hname, hcolon⟩ := Option.bind_eq_some_iff.mp hread
    obtain ⟨_, ⟨nameText, hnameText, rfl⟩, rfl⟩ := reads_text.sound hname
    obtain ⟨after, hafter, hnamed⟩ := exists_blank_append_skipBlank named
    dsimp only at hcolon
    split at hcolon
    case h_2 => contradiction
    case h_1 valued hvalued =>
      obtain ⟨⟨value, behind⟩, hvalue, hclose⟩ := Option.bind_eq_some_iff.mp hcolon
      obtain ⟨beforeValue, text, hbeforeValue, hwrites, rfl⟩ := h.value _ _ _ hvalue
      obtain ⟨afterValue, hafterValue, hbehind⟩ := exists_blank_append_skipBlank behind
      refine ⟨⟨before, name, nameText, after, ⟨beforeValue, value, text, afterValue⟩⟩,
        skipBlank behind, ⟨hbefore, hnameText, hafter, ⟨hbeforeValue, hafterValue⟩⟩, hwrites,
        ?_, ?_⟩
      · rw [hs, hopened, hnamed, hvalued]
        simp only [Member.padded, Item.padded, List.append_assoc, List.cons_append,
          List.nil_append, ← hbehind]
      · dsimp only at hclose
        split at hclose
        case h_1 hend =>
          obtain ⟨rfl, rfl⟩ := Prod.mk.inj (Option.some.inj hclose)
          exact .inl ⟨hend, rfl⟩
        case h_2 next hnext =>
          obtain ⟨⟨more, last⟩, hmore, hlast⟩ := Option.bind_eq_some_iff.mp hclose
          obtain ⟨rfl, rfl⟩ := Prod.mk.inj (Option.some.inj hlast)
          exact .inr ⟨next, more, hnext, hmore, rfl⟩
        case h_3 => contradiction

theorem SoundWith.members_succ {fuel : ℕ} (h : SoundWith fuel) {s rest : List Char}
    {entries : List (List TextUnit × Value)}
    (hread : readMembers (fuel + 1) s = some (entries, rest)) :
    ∃ t, WritesMembers entries t ∧ s = t ++ '}' :: rest := by
  obtain ⟨member, behind, hspaced, hwrites, rfl, hlast | hnext⟩ := h.exists_member hread
  · obtain ⟨rfl, rfl⟩ := hlast
    exact ⟨_, writesMembers_singleton hspaced hwrites, rfl⟩
  · obtain ⟨next, more, rfl, hmore, rfl⟩ := hnext
    obtain ⟨t, ht, rfl⟩ := h.members _ _ _ hmore
    exact ⟨_, WritesMembers.cons hspaced hwrites ht, by rw [List.append_assoc, List.cons_append]⟩

/-- What is read from an opening bracket on is an array, empty or not. -/
theorem SoundWith.exists_array {fuel : ℕ} (h : SoundWith fuel) {s rest : List Char}
    {value : Value} (hread : readValue (fuel + 1) ('[' :: s) = some (value, rest)) :
    ∃ t, Writes value t ∧ '[' :: s = t ++ rest := by
  by_cases hclose : ∃ after, skipBlank s = ']' :: after
  · obtain ⟨after, hafter⟩ := hclose
    obtain ⟨w, hw, hs⟩ := exists_blank_append_skipBlank s
    rw [readValue_emptyArray hafter] at hread
    obtain ⟨rfl, rfl⟩ := Prod.mk.inj (Option.some.inj hread)
    refine ⟨_, .emptyArray hw, ?_⟩
    rw [hs, hafter, List.append_assoc, List.cons_append, List.singleton_append]
  · rw [readValue_array (not_exists.mp hclose)] at hread
    obtain ⟨⟨values, after⟩, hitems, heq⟩ := Option.map_eq_some_iff.mp hread
    obtain ⟨rfl, rfl⟩ := Prod.mk.inj heq
    obtain ⟨_, ⟨items, hne, hspaced, hwrites, rfl, rfl⟩, rfl⟩ := h.items _ _ _ hitems
    refine ⟨_, .array hne hspaced hwrites, ?_⟩
    rw [List.append_assoc, List.cons_append, List.singleton_append]

theorem SoundWith.exists_object {fuel : ℕ} (h : SoundWith fuel) {s rest : List Char}
    {value : Value} (hread : readValue (fuel + 1) ('{' :: s) = some (value, rest)) :
    ∃ t, Writes value t ∧ '{' :: s = t ++ rest := by
  by_cases hclose : ∃ after, skipBlank s = '}' :: after
  · obtain ⟨after, hafter⟩ := hclose
    obtain ⟨w, hw, hs⟩ := exists_blank_append_skipBlank s
    rw [readValue_emptyObject hafter] at hread
    obtain ⟨rfl, rfl⟩ := Prod.mk.inj (Option.some.inj hread)
    refine ⟨_, .emptyObject hw, ?_⟩
    rw [hs, hafter, List.append_assoc, List.cons_append, List.singleton_append]
  · rw [readValue_object (not_exists.mp hclose)] at hread
    obtain ⟨⟨entries, after⟩, hmembers, heq⟩ := Option.map_eq_some_iff.mp hread
    obtain ⟨rfl, rfl⟩ := Prod.mk.inj heq
    obtain ⟨_, ⟨members, hne, hspaced, hwrites, rfl, rfl⟩, rfl⟩ := h.members _ _ _ hmembers
    refine ⟨_, .object hne hspaced hwrites, ?_⟩
    rw [List.append_assoc, List.cons_append, List.singleton_append]

/-- A bracket is read once more from where the blanks end, as arrays and objects are known
to be sound from there. -/
theorem SoundWith.value_succ {fuel : ℕ} (h : SoundWith fuel) {s rest : List Char}
    {value : Value} (hread : readValue (fuel + 1) s = some (value, rest)) :
    ∃ before t, Blank before ∧ Writes value t ∧ s = before ++ (t ++ rest) := by
  obtain ⟨before, hbefore, hs⟩ := exists_blank_append_skipBlank s
  refine ⟨before, ?_⟩
  suffices ∃ t, Writes value t ∧ skipBlank s = t ++ rest by
    obtain ⟨t, ht, heq⟩ := this
    exact ⟨t, hbefore, ht, by rw [← heq, ← hs]⟩
  have hopened := hread
  rw [← readValue_skipBlank] at hopened
  rw [readValue] at hread
  split at hread
  case h_1 heq =>
    obtain ⟨rfl, rfl⟩ := Prod.mk.inj (Option.some.inj hread)
    exact ⟨_, .null, heq⟩
  case h_2 heq =>
    obtain ⟨rfl, rfl⟩ := Prod.mk.inj (Option.some.inj hread)
    exact ⟨_, .bool true, heq⟩
  case h_3 heq =>
    obtain ⟨rfl, rfl⟩ := Prod.mk.inj (Option.some.inj hread)
    exact ⟨_, .bool false, heq⟩
  case h_4 heq =>
    obtain ⟨⟨units, after⟩, htext, hread⟩ := Option.bind_eq_some_iff.mp hread
    obtain ⟨rfl, rfl⟩ := Prod.mk.inj (Option.some.inj hread)
    obtain ⟨_, ⟨t, ht, rfl⟩, rfl⟩ := reads_text.sound htext
    exact ⟨_, .string ht, heq⟩
  case h_5 heq =>
    rw [heq] at hopened ⊢
    exact h.exists_array hopened
  case h_6 heq =>
    rw [heq] at hopened ⊢
    exact h.exists_object hopened
  case h_7 =>
    obtain ⟨⟨digits, after⟩, hnumber, hread⟩ := Option.bind_eq_some_iff.mp hread
    obtain ⟨rfl, rfl⟩ := Prod.mk.inj (Option.some.inj hread)
    obtain ⟨_, ⟨rfl, ht⟩, heq⟩ := reads_number.sound hnumber
    exact ⟨_, .number ht, heq⟩

theorem soundWith (fuel : ℕ) : SoundWith fuel := by
  induction fuel with
  | zero =>
      constructor
      · rintro s value rest h
        contradiction
      · rintro s values rest h
        contradiction
      · rintro s entries rest h
        contradiction
  | succ fuel ih =>
      exact ⟨fun _ _ _ => ih.value_succ, fun _ _ _ => ih.items_succ, fun _ _ _ => ih.members_succ⟩

/-! ## Documents -/

theorem skipBlank_eq_nil_iff {s : List Char} : skipBlank s = [] ↔ Blank s := by
  simp only [skipBlank, List.dropWhile_eq_nil_iff, isBlank_iff, Blank]

/-- A document is read as the value that it writes, and as no other. -/
theorem Value.ofChars?_eq_some_iff {s : List Char} {value : Value} :
    Value.ofChars? s = some value ↔ WritesDocument value s := by
  constructor
  · intro h
    rw [ofChars?] at h
    split at h
    · rename_i read after hread
      split at h
      · rename_i hafter
        obtain rfl := Option.some.inj h
        obtain ⟨before, t, hbefore, hwrites, rfl⟩ := (soundWith _).value _ _ _ hread
        exact ⟨⟨before, read, t, after⟩, rfl,
          ⟨hbefore, skipBlank_eq_nil_iff.mp (List.isEmpty_iff.mp hafter)⟩, hwrites, rfl⟩
      · contradiction
    · contradiction
  · rintro ⟨item, rfl, hspaced, hwrites, rfl⟩
    have hfuel : item.text.length ≤ 2 * item.padded.length + 2 := by
      simp only [Item.padded, List.length_append]
      omega
    have hend : Follows (item.after ++ []) := follows_blank_append hspaced.after follows_nil
    rw [List.append_nil] at hend
    have hread := hwrites.readAs _ item.after hfuel hend
    rw [ofChars?, Item.padded, readValue_blank_append hspaced.before, ← Item.padded, hread]
    simp [skipBlank_eq_nil_iff.mpr hspaced.after]

end EcpAgreement.Document
