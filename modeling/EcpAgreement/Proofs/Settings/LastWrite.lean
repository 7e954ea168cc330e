import EcpAgreement.Settings.Memory
import Mathlib.Data.List.Induction
import Mathlib.Data.Nat.Notation

/-!
# The last write wins

A reader of the changeable store is told the value that its key was given last,
unless that value was taken away since.  This is said of the operations carried
out before, without the store (`LastSet`), and the store is compared with it
after every operation.  A writer that fails leaves a mark and nothing else: it
changes no answer, and from then on every writer reports that it carries on with
a marked store.
-/

namespace EcpAgreement.MemorySettings

/-! ## Operations told without the store -/

namespace Operation

/-- The operation is a writer that fails inside the store. -/
def isFailure : Operation → Bool
  | .fail _ => true
  | _ => false

/-- The operation holds the store as a writer does. -/
def isWriter : Operation → Bool
  | .get _ _ => false
  | _ => true

end Operation

/-- Among the operations a key is given a value, and afterwards it is neither given
another one nor deprived of it. -/
def LastSet (operations : List Operation) (key : String) (value : Bool) : Prop :=
  ∃ before after, operations = before ++ .set key value :: after ∧
    (∀ later, .set key later ∉ after) ∧ .remove key ∉ after

theorem not_lastSet_nil (key : String) (value : Bool) : ¬LastSet [] key value := by
  rintro ⟨before, after, h, -, -⟩
  simp at h

/-- An operation touches a key when it gives the key a value or takes its value
away. -/
def Operation.Touches (operation : Operation) (key : String) : Prop :=
  operation = .remove key ∨ ∃ value, operation = .set key value

/-- The operation that came last decides, if it touches the key. -/
theorem lastSet_append_iff {operations : List Operation} {operation : Operation}
    {key : String} {value : Bool} :
    LastSet (operations ++ [operation]) key value ↔
      operation = .set key value ∨ (¬operation.Touches key ∧ LastSet operations key value) := by
  constructor
  · rintro ⟨before, after, h, hset, hremove⟩
    rcases List.eq_nil_or_concat after with rfl | ⟨after, last, rfl⟩
    · left
      exact (List.append_inj_right' h rfl |> List.singleton_inj.mp)
    · right
      rw [List.concat_eq_append] at h hset hremove
      have hsplit : operations ++ [operation] =
          (before ++ .set key value :: after) ++ [last] := by
        rw [h]
        simp
      obtain ⟨hoperations, hlast⟩ := List.append_inj' hsplit rfl
      obtain rfl := List.singleton_inj.mp hlast
      refine ⟨?_, before, after, hoperations, ?_, ?_⟩
      · rintro (rfl | ⟨later, rfl⟩)
        · exact hremove (by simp)
        · exact hset later (by simp)
      · intro later hmem
        exact hset later (List.mem_append_left [operation] hmem)
      · intro hmem
        exact hremove (List.mem_append_left [operation] hmem)
  · rintro (rfl | ⟨htouches, before, after, rfl, hset, hremove⟩)
    · exact ⟨operations, [], rfl, fun later => List.not_mem_nil, List.not_mem_nil⟩
    · refine ⟨before, after ++ [operation], by simp, ?_, ?_⟩
      · intro later hmem
        rcases List.mem_append.mp hmem with hmem | hmem
        · exact hset later hmem
        · exact htouches (Or.inr ⟨later, (List.mem_singleton.mp hmem).symm⟩)
      · intro hmem
        rcases List.mem_append.mp hmem with hmem | hmem
        · exact hremove hmem
        · exact htouches (Or.inl (List.mem_singleton.mp hmem).symm)

/-! ## The store after operations -/

variable {operations : List Operation} {key : String} {value : Bool}

/-- The store after operations in their order. -/
def after (store : MemorySettings) (operations : List Operation) : MemorySettings :=
  operations.foldl (fun store operation => (store.perform operation).value.1) store

theorem after_append (store : MemorySettings) (operations : List Operation)
    (operation : Operation) :
    store.after (operations ++ [operation]) =
      ((store.after operations).perform operation).value.1 := by
  rw [after, List.foldl_append]
  rfl

/-- What an operation answers and reports. -/
def answer (store : MemorySettings) (operation : Operation) : Logged Answer where
  value := (store.perform operation).value.2
  events := (store.perform operation).events

/-- Each operation of a run meets the store that those before it left. -/
theorem getElem?_run (store : MemorySettings) (operations : List Operation) (i : ℕ) :
    (store.run operations)[i]? =
      operations[i]?.map fun operation => (store.after (operations.take i)).answer operation := by
  induction operations generalizing store i with
  | nil => rfl
  | cons first rest ih =>
      cases i with
      | zero => rfl
      | succ i => exact ih (store.perform first).value.1 i

theorem lookup_perform_of_not_touches {store : MemorySettings} {operation : Operation}
    (h : ¬operation.Touches key) :
    (store.perform operation).value.1.entries.lookup key = store.entries.lookup key := by
  cases operation with
  | set other value =>
      have hne : key ≠ other := by
        rintro rfl
        exact h (Or.inr ⟨value, rfl⟩)
      have hbeq : (key == other) = false := beq_eq_false_iff_ne.mpr hne
      simp [perform, set, List.lookup_cons, hbeq, lookup_without_of_ne hne]
  | remove other =>
      have hne : key ≠ other := by
        rintro rfl
        exact h (Or.inl rfl)
      exact lookup_without_of_ne hne store.entries
  | get other default => rfl
  | fail given => rfl

/-- The store holds for each key what it was given last. -/
theorem lookup_after_eq_some_iff :
    (empty.after operations).entries.lookup key = some value ↔
      LastSet operations key value := by
  induction operations using List.reverseRecOn generalizing value with
  | nil =>
      constructor
      · intro h
        contradiction
      · intro h
        exact absurd h (not_lastSet_nil key value)
  | append_singleton operations operation ih =>
      rw [after_append, lastSet_append_iff]
      by_cases htouches : operation.Touches key
      · rcases htouches with rfl | ⟨given, rfl⟩
        · simp [perform, remove, lookup_without_self, Operation.Touches]
        · simp [perform, set, Operation.Touches]
      · have hne : operation ≠ .set key value := fun h => htouches (Or.inr ⟨value, h⟩)
        rw [lookup_perform_of_not_touches htouches, ih]
        simp [htouches, hne]

/-- The mark stays from the first writer that fails. -/
theorem marked_after (operations : List Operation) :
    (empty.after operations).marked = operations.any Operation.isFailure := by
  induction operations using List.reverseRecOn with
  | nil => rfl
  | append_singleton operations operation ih =>
      rw [after_append, List.any_append, ← ih]
      cases operation with
      | set key value => simp [perform, set, Operation.isFailure]
      | remove key => simp [perform, remove, Operation.isFailure]
      | get key default => simp [perform, Operation.isFailure]
      | fail given => simp [perform, set, Operation.isFailure]

/-! ## Readers -/

/-- What a reader was told. -/
def Answer.read? : Answer → Option Bool
  | .value value => some value
  | _ => none

/-- What the readers of a run were told, in their order. -/
def readings (store : MemorySettings) (operations : List Operation) : List Bool :=
  (store.run operations).filterMap fun answered => answered.value.read?

theorem readings_cons (store : MemorySettings) (first : Operation)
    (rest : List Operation) :
    store.readings (first :: rest) =
      (store.answer first).value.read?.toList ++
        (store.perform first).value.1.readings rest := by
  have hrun : store.run (first :: rest) =
      store.answer first :: (store.perform first).value.1.run rest := rfl
  rw [readings, hrun, List.filterMap_cons]
  cases (store.answer first).value.read? with
  | none => rfl
  | some value => rfl

/-- Stores with the same entries answer alike, and stay so. -/
theorem answer_congr {store other : MemorySettings} (h : store.entries = other.entries)
    (operation : Operation) :
    (store.answer operation).value = (other.answer operation).value ∧
      (store.perform operation).value.1.entries =
        (other.perform operation).value.1.entries := by
  cases operation with
  | set key value => exact ⟨rfl, by simp only [perform, set, h]⟩
  | remove key => exact ⟨rfl, by simp only [perform, remove, h]⟩
  | get key default => exact ⟨by simp only [answer, perform, lookup, h], h⟩
  | fail given => exact ⟨rfl, h⟩

/-- Leaving out the writers that fail changes nothing for the readers, since such a
writer tells them nothing and keeps the entries. -/
theorem readings_filter {store other : MemorySettings} (h : store.entries = other.entries)
    (operations : List Operation) :
    other.readings (operations.filter fun operation => !operation.isFailure) =
      store.readings operations := by
  induction operations generalizing store other with
  | nil => rfl
  | cons first rest ih =>
      rw [readings_cons]
      by_cases hfailure : first.isFailure = true
      · cases first with
        | fail given =>
            rw [List.filter_cons_of_neg (by simp [hfailure])]
            exact ih h
        | set key value => contradiction
        | remove key => contradiction
        | get key default => contradiction
      · obtain ⟨hanswer, hentries⟩ := answer_congr h first
        rw [List.filter_cons_of_pos (by simp [hfailure]), readings_cons, ih hentries, hanswer]

/-! ## All operations together -/

/-- What readers are told by a store that begins empty, and what its writers
report. -/
structure KeepsLastWrites (operations : List Operation) : Prop where
  read_set : ∀ i key default value, operations[i]? = some (.get key default) →
    LastSet (operations.take i) key value →
    (empty.run operations)[i]?.map Logged.value = some (.value value)
  read_default : ∀ i key default, operations[i]? = some (.get key default) →
    (∀ value, ¬LastSet (operations.take i) key value) →
    (empty.run operations)[i]?.map Logged.value = some (.value default)
  readings_eq : empty.readings (operations.filter fun operation => !operation.isFailure) =
    empty.readings operations
  events_eq : ∀ i operation, operations[i]? = some operation →
    (empty.run operations)[i]?.map Logged.events =
      some (if operation.isWriter && (operations.take i).any Operation.isFailure then
        [.settingsRecovered] else [])

theorem value_run_of_get {i : ℕ} {default : Bool}
    (h : operations[i]? = some (.get key default)) :
    (empty.run operations)[i]?.map Logged.value =
      some (.value ((empty.after (operations.take i)).lookup key default)) := by
  rw [getElem?_run, h]
  rfl

theorem events_answer (store : MemorySettings) (operation : Operation) :
    (store.answer operation).events =
      if operation.isWriter && store.marked then [.settingsRecovered] else [] := by
  cases operation with
  | get key default => rfl
  | set key value => simp [answer, perform, set, recovery, Operation.isWriter]
  | remove key => simp [answer, perform, remove, recovery, Operation.isWriter]
  | fail given => simp [answer, perform, set, recovery, Operation.isWriter]

/-- In every run from the empty store the last write wins, and a writer that fails
costs nothing but a warning from each writer after it. -/
theorem last_write_wins (operations : List Operation) : KeepsLastWrites operations := by
  constructor
  case read_set =>
    intro i key default value hget hlast
    rw [value_run_of_get hget, lookup, lookup_after_eq_some_iff.mpr hlast]
    rfl
  case read_default =>
    intro i key default hget hnone
    have hlookup : (empty.after (operations.take i)).entries.lookup key = none := by
      rw [Option.eq_none_iff_forall_ne_some]
      intro value hvalue
      exact hnone value (lookup_after_eq_some_iff.mp hvalue)
    rw [value_run_of_get hget, lookup, hlookup]
    rfl
  case readings_eq => exact readings_filter rfl operations
  case events_eq =>
    intro i operation hoperation
    rw [getElem?_run, hoperation, Option.map_map, Option.map_some, Function.comp_apply,
      events_answer, marked_after]

/-- A key is given two values, between them a writer fails, and then the key is
deprived of its value. -/
example : (empty.run [.set "a" true, .fail true, .set "a" false, .get "a" true, .fail true,
      .remove "a", .get "a" true]).map Logged.events =
    [[], [], [.settingsRecovered], [], [.settingsRecovered], [.settingsRecovered], []] := by
  decide

end EcpAgreement.MemorySettings
