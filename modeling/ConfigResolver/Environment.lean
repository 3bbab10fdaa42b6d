import ConfigResolver.Text.Utf8

/-!
# The environment of a process

Variables are named texts with values in bytes, which need not be UTF-8. A placeholder sees every
value, leniently decoded; an option sees only the values that are UTF-8.
-/

namespace ConfigResolver

/-- The variables of a process. -/
structure Environment where
  /-- The bytes of a variable that is set. -/
  bytes? : String → Option (List UInt8)

namespace Environment

/-- The environment in which no variable is set. -/
def empty : Environment := ⟨fun _ ↦ none⟩

/-- Whether a variable can have a name: it is not empty, and holds neither an equals sign nor
NUL. -/
def isName (name : String) : Bool :=
  !name.isEmpty && name.toList.all fun c ↦ c != '=' && c != '\x00'

/-- The environment with a variable set. A name that no variable can have sets nothing. -/
def set (env : Environment) (name : String) (value : List UInt8) : Environment :=
  if isName name then ⟨fun other ↦ if other = name then some value else env.bytes? other⟩ else env

/-- The environment with a variable removed. -/
def unset (env : Environment) (name : String) : Environment :=
  ⟨fun other ↦ if other = name then none else env.bytes? other⟩

/-- The value of a variable for a placeholder: faults in its bytes become replacement
characters. -/
def lookup (env : Environment) (name : String) : Option String :=
  if isName name then (env.bytes? name).map fun bytes ↦ String.ofList (Text.Utf8.decodeLossy bytes)
  else none

/-- The value of a variable for an option: a value that is not UTF-8 counts as not set. -/
def text? (env : Environment) (name : String) : Option String :=
  (env.bytes? name).bind fun bytes ↦ (Text.Utf8.decode? bytes).map String.ofList

@[simp] theorem bytes?_empty (name : String) : empty.bytes? name = none := rfl

theorem bytes?_set (env : Environment) {name : String} (h : isName name = true)
    (value : List UInt8) (other : String) :
    (env.set name value).bytes? other = if other = name then some value else env.bytes? other := by
  simp [set, h]

@[simp] theorem bytes?_unset (env : Environment) (name other : String) :
    (env.unset name).bytes? other = if other = name then none else env.bytes? other := rfl

@[simp] theorem lookup_empty (name : String) : empty.lookup name = none := by
  simp [lookup]

@[simp] theorem text?_empty (name : String) : empty.text? name = none := rfl

end Environment

end ConfigResolver
