import ConfigResolver.Options
import ConfigResolver.Run

/-!
# Resolvers

A resolver has validated options and, unless it works offline, a parameter store. It keeps nothing
between two runs.
-/

namespace ConfigResolver

/-- Options and a parameter store with states in `σ`. -/
structure Resolver (σ : Type) where
  /-- The options, in normal form. -/
  options : Options
  /-- The parameter store. -/
  store : Option (Store σ)

namespace Resolver

variable {σ : Type}

/-- A resolver with a store or without one. -/
def new (options : Options) (store : Option (Store σ)) : Except Error (Resolver σ) :=
  options.validated.map fun valid ↦ ⟨valid, store⟩

/-- A resolver with a store. -/
def withStore (options : Options) (store : Store σ) : Except Error (Resolver σ) :=
  new options (some store)

/-- A resolver that asks no store: it answers a parameter's key in the place of its value. -/
def offline (options : Options) : Except Error (Resolver σ) :=
  new (options.withSkipRemote true) none

/-- The names to try for a key, in order: an absolute key is a name, a relative one is put behind
each root path. -/
def qualify (r : Resolver σ) (key : String) : Except Error (List String) :=
  if key.toList.head? = some '/' then .ok [key]
  else if r.options.rootPaths.isEmpty then .error (.keyNotQualified key)
  else .ok (r.options.rootPaths.map (· ++ key))

/-- The store, asked for on behalf of the first name to try. -/
def requireStore (r : Resolver σ) (names : List String) : Except Error (Store σ) :=
  match r.store with
  | some store => .ok store
  | none => .error (.backendUnavailable (names.headD "") "no parameter store configured")

/-- The error for a store's failure with a name. -/
def storeFailure (name : String) : StoreError → Error
  | .unavailable text => .backendUnavailable name text
  | .other text => .backendOther name text
  | .notFound _ => .missingParameter name [name]

end Resolver

end ConfigResolver
