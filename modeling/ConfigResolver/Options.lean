import ConfigResolver.Environment
import ConfigResolver.Error
import ConfigResolver.Text.Blank

/-!
# Options of a resolver

Root paths qualify relative parameter keys. In a text they are separated by colons; blank
segments are left out, the others have to start with a slash, and a slash is put at the end of
those that have none. `Options.validated` does the same for root paths that were set one by one,
so the options of a resolver are always in this normal form.
-/

namespace ConfigResolver

/-- How a resolver works. -/
structure Options where
  /-- The roots tried in order for a relative key. -/
  rootPaths : List String := []
  /-- What is used where neither a value nor a default of the placeholder is found. -/
  defaultValue : Option String := none
  /-- Whether keys are answered as they are, without asking a parameter store. -/
  skipRemote : Bool := false
  /-- The region of the parameter store. -/
  region : String := "us-west-2"
  /-- The address of the parameter store, where it is not the region's own. -/
  endpoint : Option String := none
  /-- The name of a set of credentials. -/
  profile : Option String := none
  /-- How many substitutions one scalar may take. -/
  maxSubstitutions : Nat := 64
deriving DecidableEq, Repr

namespace Options

/-- The variable that holds root paths. -/
def rootPathVariable : String := "SSM_ROOT_PATH"

/-- The variable that switches the parameter store off. -/
def skipVariable : String := "SSM_SKIP_RESOLUTION"

/-- The variable that holds the region. -/
def regionVariable : String := "AWS_REGION"

/-- What separates root paths in a text. -/
def separator : Char := ':'

/-- The options without root paths and without a default. -/
def standard : Options := {}

/-- A root path in normal form: it starts and ends with a slash. -/
def normalRoot (path : List Char) : Except Error (List Char) :=
  if path.head? = some '/' then
    .ok (if path.getLast? = some '/' then path else path ++ ['/'])
  else
    .error (.invalidRootPath (String.ofList path))

/-- The segments of a list of root paths: trimmed, and without the blank ones. -/
def rootSegments (paths : List Char) : List (List Char) :=
  ((paths.splitOn separator).map Text.trim).filter (!·.isEmpty)

/-- The root paths that a text lists. The first segment that is not absolute is refused. -/
def parseRootPaths (paths : String) : Except Error (List String) :=
  (rootSegments paths.toList).mapM fun segment ↦ (normalRoot segment).map String.ofList

/-- Whether a text switches something on. -/
def parseFlag (value : String) : Bool :=
  (Text.trim value.toList).map Char.toLower ∈ [['y'], ['y', 'e', 's'], ['t', 'r', 'u', 'e'], ['1']]

/-- The options that an environment asks for. -/
def ofEnvironment (env : Environment) : Except Error Options := do
  let rootPaths ← match env.text? rootPathVariable with
    | none => pure []
    | some paths => parseRootPaths paths
  let region := match env.text? regionVariable with
    | none => standard.region
    | some value =>
      let name := Text.trim value.toList
      if name.isEmpty then standard.region else String.ofList name
  return { standard with
    rootPaths
    skipRemote := (env.text? skipVariable).any parseFlag
    region }

/-- The options with the root paths that a text lists. -/
def withRootPaths (o : Options) (paths : String) : Except Error Options := do
  return { o with rootPaths := ← parseRootPaths paths }

/-- The options with the root paths that several texts list. -/
def withRootPathList (o : Options) (paths : List String) : Except Error Options := do
  return { o with rootPaths := (← paths.mapM parseRootPaths).flatten }

/-- The options with a default for every placeholder; an empty one is none. -/
def withDefaultValue (o : Options) (value : String) : Options :=
  { o with defaultValue := if value.isEmpty then none else some value }

/-- The options with the parameter store switched off or on. -/
def withSkipRemote (o : Options) (skip : Bool) : Options := { o with skipRemote := skip }

/-- The options with a region. -/
def withRegion (o : Options) (region : String) : Options := { o with region }

/-- The options with an address of the parameter store. -/
def withEndpoint (o : Options) (endpoint : String) : Options := { o with endpoint := some endpoint }

/-- The options with a name of a set of credentials. -/
def withProfile (o : Options) (profile : String) : Options := { o with profile := some profile }

/-- The options with a limit of substitutions. -/
def withMaxSubstitutions (o : Options) (limit : Nat) : Options :=
  { o with maxSubstitutions := limit }

/-- The options in normal form: every root path starts and ends with a slash, and the default is
not empty. Root paths are taken as they are, neither split nor trimmed. -/
def validated (o : Options) : Except Error Options := do
  return { o with
    rootPaths := ← o.rootPaths.mapM fun path ↦ (normalRoot path.toList).map String.ofList
    defaultValue := if o.defaultValue = some "" then none else o.defaultValue }

end Options

end ConfigResolver
