import ConfigResolver.Environment
import ConfigResolver.Resolver.Basic

/-!
# Looking up one token

The value of a token is that of its variable or parameter; without one it is the token's own
default, then the default of the options. A parameter is asked for under each of its names in
turn, and only the answer that there is no such parameter leads on to the next name.
-/

namespace ConfigResolver.Resolver

variable {σ : Type}

/-- What stands in for a value that was not found: the token's own default, else the default of
the options, which is reported. -/
def fallback (r : Resolver σ) (key : String) (inline : Option (List Char)) :
    Run σ (Option (List Char)) :=
  match inline with
  | some text => pure (some text)
  | none =>
    match r.options.defaultValue with
    | none => pure none
    | some text => do
      Run.log (.defaultUsed key)
      pure (some text.toList)

/-- The fallback of a key, or an error if it has none. -/
def fallbackOr (r : Resolver σ) (key : String) (inline : Option (List Char)) (missing : Error) :
    Run σ (List Char) := do
  match ← r.fallback key inline with
  | some text => pure text
  | none => Run.fail missing

/-- The value of a variable. One that is set but empty is found. -/
def lookupVariable (r : Resolver σ) (env : Environment) (key : String)
    (inline : Option (List Char)) : Run σ (List Char) :=
  match env.lookup key with
  | some value => pure value.toList
  | none => r.fallbackOr key inline (.missingVariable key)

/-- The value under the first of some names that exists. Any failure but a missing parameter ends
the search. -/
def firstFound (store : Store σ) : List String → Run σ (Option String)
  | [] => pure none
  | name :: rest => do
    match ← Run.askGet store name with
    | .ok value => pure (some value)
    | .error (.notFound _) => do
      Run.log (.parameterNotFound name)
      firstFound store rest
    | .error e => Run.fail (storeFailure name e)

/-- The value of a parameter. -/
def lookupParameter (r : Resolver σ) (key : String) (inline : Option (List Char)) :
    Run σ (List Char) :=
  if r.options.skipRemote then do
    Run.log (.skipped key)
    pure key.toList
  else do
    let names ← Run.ofExcept (r.qualify key)
    let store ← Run.ofExcept (r.requireStore names)
    match ← firstFound store names with
    | some value => pure value.toList
    | none => r.fallbackOr key inline (.missingParameter key names)

/-- The value of a token. -/
def lookup (r : Resolver σ) (env : Environment) (t : Token) : Run σ (List Char) :=
  match t.source with
  | .environment => r.lookupVariable env (String.ofList t.key) t.fallback
  | .parameterStore => r.lookupParameter (String.ofList t.key) t.fallback

/-- The value of one parameter by its key. -/
def getParameter (r : Resolver σ) (key : String) : Run σ String :=
  String.ofList <$> r.lookupParameter key none

end ConfigResolver.Resolver
