import ConfigResolver.Placeholder.Basic

/-!
# Errors

An error is a kind together with the place in the document where it happened, the place in the
file, the cause below it and a hint. `Error.message` is the text that a user sees: a head line
for the kind, then one indented line for each part that is there.
-/

namespace ConfigResolver

/-- What went wrong. -/
inductive ErrorKind where
  /-- The file to load does not exist. -/
  | sourceNotFound (source : String)
  /-- The file to load holds no document. -/
  | sourceEmpty (source : String)
  /-- A text is no document. -/
  | parse
  /-- A file could not be read. -/
  | io
  /-- A root path is not absolute. -/
  | invalidRootPath (rootPath : String)
  /-- A relative key was asked for and there is no root path. -/
  | keyNotQualified (key : String)
  /-- Neither a value nor a default was found; `tried` are the parameters asked for. -/
  | missingValue (key : String) (source : Source) (tried : List String)
  /-- The parameter store cannot be used. -/
  | backendUnavailable (key : String)
  /-- The parameter store failed in another way. -/
  | backendOther (key : String)
  /-- A scalar still holds a placeholder after as many substitutions as are allowed. -/
  | substitutionLimit (limit : Nat)
deriving DecidableEq, Repr

/-- A place in a file. -/
structure Location where
  /-- The file. -/
  file : String
  /-- The line, counted from one. -/
  line : Option Nat
  /-- The column, counted from one. -/
  column : Option Nat
deriving DecidableEq, Repr

/-- A failure, and what is known about it. -/
structure Error where
  /-- What went wrong. -/
  kind : ErrorKind
  /-- Where in the document. -/
  path : Option String
  /-- Where in the file. -/
  location : Option Location
  /-- What the user can do about it. -/
  help : Option String
  /-- What was below it. -/
  cause : Option String
deriving DecidableEq, Repr

namespace ErrorKind

/-- The head line of a message. -/
def headline : ErrorKind → String
  | sourceNotFound source => s!"Config file {source} not found"
  | sourceEmpty source => s!"Config file {source} is empty"
  | parse => "Parse error"
  | io => "I/O error"
  | invalidRootPath rootPath => s!"Root path must start with '/': {rootPath}"
  | keyNotQualified key =>
    if key.isEmpty then "No parameter path given and no root path is configured"
    else s!"Parameter key {key} is relative and no root path is configured"
  | missingValue key .environment _ =>
    s!"Environment variable {key} not found, no default provided"
  | missingValue key .parameterStore tried =>
    s!"SSM key {key} not found, no default provided" ++
      if tried.isEmpty then "" else " (tried " ++ String.intercalate ", " tried ++ ")"
  | backendUnavailable key => s!"Parameter store unavailable while reading {key}"
  | backendOther key => s!"Cannot read SSM parameter {key}"
  | substitutionLimit limit => s!"Placeholder substitution limit of {limit} exceeded"

end ErrorKind

namespace Error

/-- An error of which only the kind is known. -/
def ofKind (kind : ErrorKind) : Error := ⟨kind, none, none, none, none⟩

/-- The file to load does not exist. -/
def sourceNotFound (source : String) : Error :=
  { ofKind (.sourceNotFound source) with
    help := some s!"Check that '{source}' exists and is readable" }

/-- The file to load holds no document. -/
def sourceEmpty (source : String) : Error :=
  { ofKind (.sourceEmpty source) with help := some s!"Add at least one key to '{source}'" }

/-- A text is no document. -/
def parse (cause : String) : Error := { ofKind .parse with cause := some cause }

/-- A file could not be read. -/
def io (cause : String) : Error := { ofKind .io with cause := some cause }

/-- A root path is not absolute. -/
def invalidRootPath (rootPath : String) : Error :=
  { ofKind (.invalidRootPath rootPath) with
    help := some s!"Root paths must be absolute, e.g. '/{rootPath}'" }

/-- A relative key was asked for and there is no root path. The empty key stands for no key. -/
def keyNotQualified (key : String) : Error :=
  { ofKind (.keyNotQualified key) with
    help := some (
      if key.isEmpty then
        "Configure at least one root path (SSM_ROOT_PATH) or pass an absolute path"
      else
        s!"Configure at least one root path (SSM_ROOT_PATH) or use an absolute key: /{key}") }

/-- A variable is not set and there is no default. -/
def missingVariable (name : String) : Error :=
  { ofKind (.missingValue name .environment []) with
    help := some (s!"Set the {name} environment variable or provide a default: " ++
      "\x7b!ENV: " ++ name ++ " !DEFAULT: value\x7d") }

/-- None of the parameters tried for a key exists and there is no default. -/
def missingParameter (key : String) (tried : List String) : Error :=
  { ofKind (.missingValue key .parameterStore tried) with
    help := some ("Create the parameter or provide a default: \x7b!SSM: " ++ key ++
      " !DEFAULT: value\x7d") }

/-- The parameter store cannot be used. -/
def backendUnavailable (key cause : String) : Error :=
  { ofKind (.backendUnavailable key) with
    cause := some cause
    help := some
      "Make sure AWS credentials are available and the parameter store is reachable" }

/-- The parameter store failed in another way. -/
def backendOther (key cause : String) : Error :=
  { ofKind (.backendOther key) with cause := some cause }

/-- A scalar still holds a placeholder after as many substitutions as are allowed. -/
def substitutionLimit (limit : Nat) (last : String) : Error :=
  { ofKind (.substitutionLimit limit) with
    cause := some s!"Last value: {last}"
    help := some "A resolved value probably contains another placeholder that never settles" }

/-- The error at a place in the document. -/
def withPath (e : Error) (path : String) : Error := { e with path := some path }

/-- The error at a place in the document, unless it has one already. The empty path is the whole
document and names no place. -/
def orPath (e : Error) (path : String) : Error :=
  if e.path.isSome || path.isEmpty then e else e.withPath path

/-- The error at a place in a file. -/
def withLocation (e : Error) (location : Location) : Error := { e with location := some location }

/-- The error with a hint. -/
def withHelp (e : Error) (help : String) : Error := { e with help := some help }

/-- Whether a value was missing. -/
def isMissingValue (e : Error) : Bool := e.kind matches .missingValue ..

/-- Whether the parameter store could not be used. -/
def isBackendUnavailable (e : Error) : Bool := e.kind matches .backendUnavailable ..

/-- One indented line of a message, if there is something to say. -/
def detailLine (label : String) : Option String → String
  | none => ""
  | some text => "\n  " ++ label ++ text

/-- The place in a file as a message shows it: the column is left out. -/
def locationText (location : Location) : String :=
  location.file ++ match location.line with
    | none => ""
    | some line => s!":{line}"

/-- What the user sees. -/
def message (e : Error) : String :=
  e.kind.headline ++ detailLine "Path: " e.path ++
    detailLine "File: " (e.location.map locationText) ++ detailLine "" e.cause ++
    detailLine "Help: " e.help

@[simp] theorem kind_orPath (e : Error) (path : String) : (e.orPath path).kind = e.kind := by
  unfold orPath; split <;> rfl

@[simp] theorem cause_orPath (e : Error) (path : String) : (e.orPath path).cause = e.cause := by
  unfold orPath; split <;> rfl

/-- The whole document names no place. -/
@[simp] theorem orPath_empty (e : Error) : e.orPath "" = e := by
  simp [orPath]

end Error

end ConfigResolver
