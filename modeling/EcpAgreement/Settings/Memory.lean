import EcpAgreement.Log
import EcpAgreement.Settings.Static

/-!
# Changeable settings

A store of values by key, to be changed while sessions read it. A writer makes
its key out of something else while it holds the store, and may fail at that. It
then changes nothing, but the store stays marked: each later writer reports that
it carries on with the marked store, and readers do not mind.
-/

namespace EcpAgreement

structure MemorySettings where
  /-- The keys that have a value, each once. -/
  entries : List (String × Bool)
  /-- Whether a writer has failed inside the store. -/
  marked : Bool

namespace MemorySettings

def empty : MemorySettings where
  entries := []
  marked := false

/-- What a writer reports before it changes the store. -/
def recovery (store : MemorySettings) : List LogEvent :=
  if store.marked then [.settingsRecovered] else []

/-- The entries without those of a key. -/
def without (entries : List (String × Bool)) (key : String) : List (String × Bool) :=
  entries.filter fun entry => entry.1 != key

inductive Answer where
  | done
  | failed
  | value (value : Bool)
  deriving DecidableEq

/-- Gives a key a value, in place of any other. The writer holds the store before
the key is made, and a key that cannot be made leaves the store marked. -/
def set (store : MemorySettings) (made : Option String) (value : Bool) :
    Logged (MemorySettings × Answer) where
  value :=
    match made with
    | some key => ({ store with entries := (key, value) :: without store.entries key }, .done)
    | none => ({ store with marked := true }, .failed)
  events := store.recovery

def remove (store : MemorySettings) (key : String) : Logged MemorySettings where
  value := { store with entries := without store.entries key }
  events := store.recovery

/-- The store as a configuration. -/
def lookup (store : MemorySettings) : Lookup := fun key default =>
  (store.entries.lookup key).getD default

inductive Operation where
  | set (key : String) (value : Bool)
  | remove (key : String)
  | get (key : String) (default : Bool)
  /-- A value for a key that cannot be made. -/
  | fail (value : Bool)

def perform (store : MemorySettings) : Operation → Logged (MemorySettings × Answer)
  | .set key value => store.set (some key) value
  | .remove key =>
      { value := ((store.remove key).value, .done), events := (store.remove key).events }
  | .get key default => { value := (store, .value (store.lookup key default)), events := [] }
  | .fail value => store.set none value

/-- Does one thing after the other and gives each answer with its events. -/
def run (store : MemorySettings) : List Operation → List (Logged Answer)
  | [] => []
  | first :: rest =>
      let done := store.perform first
      { value := done.value.2, events := done.events } :: done.value.1.run rest

/-! ## Lookups after a change -/

/-- What is found once the entries of a key have been taken away. -/
theorem lookup_filter_ne {α : Type} (entries : List (String × α)) (key other : String) :
    (entries.filter fun entry => entry.1 != key).lookup other
      = if other = key then none else entries.lookup other := by
  induction entries with
  | nil => simp
  | cons entry rest ih =>
      obtain ⟨held, value⟩ := entry
      by_cases h : held = key
      · rw [List.filter_cons_of_neg (by simp [h]), ih]
        by_cases hother : other = key
        · rw [if_pos hother, if_pos hother]
        · have hbeq : (other == held) = false := beq_eq_false_iff_ne.mpr (h ▸ hother)
          rw [List.lookup_cons, hbeq]
      · rw [List.filter_cons_of_pos (by simp [h]), List.lookup_cons, List.lookup_cons, ih]
        by_cases hother : other = held
        · simp [hother, h]
        · have hbeq : (other == held) = false := beq_eq_false_iff_ne.mpr hother
          rw [hbeq]

theorem lookup_without_self (entries : List (String × Bool)) (key : String) :
    (without entries key).lookup key = none := by
  rw [without, lookup_filter_ne, if_pos rfl]

theorem lookup_without_of_ne {key other : String} (h : other ≠ key)
    (entries : List (String × Bool)) :
    (without entries key).lookup other = entries.lookup other := by
  rw [without, lookup_filter_ne, if_neg h]

/-- After a key is given a value, that key has it and every other key is as
before. -/
theorem lookup_set (store : MemorySettings) (key other : String) (value default : Bool) :
    (store.set (some key) value).value.1.lookup other default
      = if other = key then value else store.lookup other default := by
  by_cases h : other = key
  · simp [lookup, set, h]
  · have hbeq : (other == key) = false := beq_eq_false_iff_ne.mpr h
    simp [lookup, set, List.lookup_cons, hbeq, h, lookup_without_of_ne h]

/-- After a key's value is taken away, that key has none and every other key is
as before. -/
theorem lookup_remove (store : MemorySettings) (key other : String) (default : Bool) :
    (store.remove key).value.lookup other default
      = if other = key then default else store.lookup other default := by
  by_cases h : other = key
  · simp [lookup, remove, h, lookup_without_self]
  · simp [lookup, remove, h, lookup_without_of_ne h]

/-- A writer that fails changes no value. -/
theorem lookup_set_none (store : MemorySettings) (value : Bool) :
    (store.set none value).value.1.lookup = store.lookup :=
  rfl

end MemorySettings

end EcpAgreement
