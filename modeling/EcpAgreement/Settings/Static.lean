/-!
# The format option

The one option that a session asks for: whether a shared secret is the first
coordinate alone. Its key joins a namespace and the option's name with a dot, so
parties with different namespaces can be configured apart.

Fixed settings hold one namespace and one value of the option. They answer for the
option in that namespace and know no other key.
-/

namespace EcpAgreement

/-- A configuration as its readers see it: the value of a key, or else the given
default. -/
abbrev Lookup := String → Bool → Bool

/-- The namespace used when none is chosen. -/
def defaultNamespace : String := "charon"

def formatOption : String := "ecp_x_coordinate_only"

/-- The key of the format option in a namespace. -/
def formatKey (scope : String) : String :=
  scope ++ "." ++ formatOption

/-! ## Fixed settings -/

/-- A namespace with the format option's value in it. -/
structure StaticSettings where
  scope : String
  /-- Whether a shared secret is the first coordinate alone. -/
  xOnly : Bool
  deriving DecidableEq

namespace StaticSettings

def standard : StaticSettings where
  scope := defaultNamespace
  xOnly := true

/-- What follows `front` in a list that begins with it. -/
def after? : List Char → List Char → Option (List Char)
  | [], s => some s
  | _ :: _, [] => none
  | c :: front, d :: s => if c = d then after? front s else none

/-- What follows a namespace and a dot in a key. -/
def optionOf? (scope key : String) : Option (List Char) :=
  match after? scope.toList key.toList with
  | some ('.' :: name) => some name
  | _ => none

def lookup (settings : StaticSettings) : Lookup := fun key default =>
  match optionOf? settings.scope key with
  | some name => if name = formatOption.toList then settings.xOnly else default
  | none => default

theorem after?_eq_some_iff {front s rest : List Char} :
    after? front s = some rest ↔ s = front ++ rest := by
  induction front generalizing s with
  | nil => simp [after?]
  | cons c front ih =>
      cases s with
      | nil => simp [after?]
      | cons d s =>
          by_cases h : c = d
          · simp [after?, h, ih]
          · have hne : ¬ d = c := Ne.symm h
            simp [after?, h, hne]

theorem optionOf?_eq_some_iff {scope key : String} {name : List Char} :
    optionOf? scope key = some name ↔ key.toList = scope.toList ++ '.' :: name := by
  rw [← after?_eq_some_iff]
  unfold optionOf?
  split
  · rename_i rest hrest
    rw [hrest]
    simp
  · rename_i hno
    constructor
    · intro h
      contradiction
    · intro h
      exact absurd h (hno name)

/-- The settings answer for one key and give every other key its default. -/
theorem lookup_eq (settings : StaticSettings) (key : String) (default : Bool) :
    settings.lookup key default
      = if key = formatKey settings.scope then settings.xOnly else default := by
  have hkey : (formatKey settings.scope).toList
      = settings.scope.toList ++ '.' :: formatOption.toList := by
    simp [formatKey]
  by_cases h : key = formatKey settings.scope
  · have hsome : optionOf? settings.scope key = some formatOption.toList :=
      optionOf?_eq_some_iff.mpr (h ▸ hkey)
    rw [lookup, hsome, if_pos h]
    simp
  · have hother : optionOf? settings.scope key ≠ some formatOption.toList := by
      intro hsome
      apply h
      apply String.toList_inj.mp
      rw [hkey]
      exact optionOf?_eq_some_iff.mp hsome
    rw [lookup, if_neg h]
    split
    · rename_i name hname
      have hne : name ≠ formatOption.toList := by
        intro heq
        rw [heq] at hname
        exact hother hname
      rw [if_neg hne]
    · rfl

end StaticSettings

end EcpAgreement
