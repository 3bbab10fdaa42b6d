import ConfigResolver.Placeholder.Basic

/-!
# Log records

What a run reports while it works. Each record has a level and a text.
-/

namespace ConfigResolver

/-- How much a record matters. -/
inductive Level where
  /-- Every single step. -/
  | trace
  /-- What was tried. -/
  | debug
  /-- What the user should look at. -/
  | warn
deriving DecidableEq, Repr

namespace Level

/-- The name of a level. -/
def name : Level → String
  | trace => "TRACE"
  | debug => "DEBUG"
  | warn => "WARN"

end Level

/-- Something that a run reports. -/
inductive Record where
  /-- A placeholder was replaced. -/
  | substituted (source : Source) (key : String)
  /-- A key was answered without asking the store. -/
  | skipped (key : String)
  /-- The store has no parameter of this name. -/
  | parameterNotFound (name : String)
  /-- The default of the options was used for a key. -/
  | defaultUsed (key : String)
  /-- The document has no such top-level key. -/
  | keyAbsent (key : String)
  /-- The store has nothing under a path. -/
  | nothingUnder (path : String)
  /-- A file was loaded, with the kind of its document. -/
  | loaded (file : String) (typeName : String)
deriving DecidableEq, Repr

namespace Record

/-- How much the record matters. -/
def level : Record → Level
  | substituted .. => .trace
  | defaultUsed _ => .warn
  | _ => .debug

/-- What the record says. -/
def text : Record → String
  | substituted source key => s!"Substituted {String.ofList source.tag} {key}"
  | skipped key => s!"Skipping SSM resolution for {key}"
  | parameterNotFound name => s!"SSM parameter {name} not found"
  | defaultUsed key => s!"No value for {key}, using the global default"
  | keyAbsent key => s!"Key '{key}' not in document, resolving everything"
  | nothingUnder path => s!"No SSM parameters under {path}"
  | loaded file typeName => s!"Loaded {file} ({typeName})"

/-- A record as one line of a log. -/
def line (r : Record) : String := r.level.name ++ " " ++ r.text

end Record

end ConfigResolver
