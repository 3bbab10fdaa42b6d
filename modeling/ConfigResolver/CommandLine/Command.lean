import ConfigResolver.CommandLine.Words
import ConfigResolver.Options

/-!
# Commands

A command line asks for one command, and its common switches set options of the resolver, which
the environment sets otherwise.
-/

namespace ConfigResolver.CommandLine

/-- The values of the common switches. -/
structure Common where
  /-- Lists of root paths. -/
  rootPaths : List String
  /-- The default for placeholders without one. -/
  defaultValue : Option String
  /-- Whether the parameter store is not asked. -/
  skipRemote : Bool
  /-- The region of the parameter store. -/
  region : Option String
  /-- The address of the parameter store. -/
  endpoint : Option String
  /-- The name of a set of credentials. -/
  profile : Option String
deriving DecidableEq, Repr

/-- The formats of a document. -/
inductive DocumentFormat where
  /-- YAML. -/
  | yaml
  /-- JSON, one item to a line. -/
  | json
deriving DecidableEq, Repr

/-- The formats of a listing. -/
inductive ListFormat where
  /-- A name and a value to a line. -/
  | text
  /-- JSON, one item to a line. -/
  | json
deriving DecidableEq, Repr

/-- What a command line asks for. -/
inductive Command where
  /-- To resolve the document in a file. -/
  | resolve (file : String) (resolveKey returnKey : Option String) (format : DocumentFormat)
    (output : Option String)
  /-- To show the value of a parameter. -/
  | get (key : String)
  /-- To list the parameters under a path, or under the root paths. -/
  | list (path : Option String) (format : ListFormat)
deriving DecidableEq, Repr

namespace Common

/-- The common switches among those that were given. -/
def ofGiven (g : Given) : Common where
  rootPaths := g.values .rootPath
  defaultValue := g.value? .defaultValue
  skipRemote := g.has .skipRemote
  region := g.value? .region
  endpoint := g.value? .endpoint
  profile := g.value? .profile

/-- The options with those replaced that the switches set. -/
def apply (c : Common) (o : Options) : Except Error Options := do
  let o ← if c.rootPaths.isEmpty then pure o else o.withRootPathList c.rootPaths
  let o := c.defaultValue.elim o o.withDefaultValue
  let o := if c.skipRemote then o.withSkipRemote true else o
  let o := c.region.elim o o.withRegion
  let o := c.endpoint.elim o o.withEndpoint
  return c.profile.elim o o.withProfile

/-- The options that the environment and the switches ask for. -/
def options (c : Common) (env : Environment) : Except Error Options := do
  c.apply (← Options.ofEnvironment env)

end Common

/-- The command of a scope. -/
def commandOf (scope : Scope) (g : Given) : Except Stop Command :=
  match scope, g.operands.head? with
  | .top, _ => .error (.misuse .missingCommand)
  | .resolve, some file =>
    .ok (.resolve file (g.value? .resolveKey) (g.value? .returnKey)
      (if g.value? .format = some "json" then .json else .yaml) (g.value? .output))
  | .get, some key => .ok (.get key)
  | .list, path => .ok (.list path (if g.value? .format = some "json" then .json else .text))
  | .resolve, none | .get, none => .error (.misuse .missingOperand)

/-- Whether there is help with a word: it names a command, or asks for help. -/
def hasHelp (name : String) : Bool := name = Scope.helpName || (Scope.ofName? name).isSome

/-- What words behind the one that asks for help come to. They name at most one thing. -/
def helpWith : List String → Stop
  | [] => .help
  | [name] => if hasHelp name then .help else .misuse (.unknownCommand name)
  | name :: further :: _ => .misuse (.unknownCommand (if hasHelp name then further else name))

/-- What the words of a command line ask for. -/
def parse (words : List String) : Except Stop (Common × Command) := do
  match ← readWords .top .nothing words with
  | .finished _ => .error (.misuse .missingCommand)
  | .help rest => .error (helpWith rest)
  | .command front scope rest =>
    match ← readWords scope .nothing rest with
    | .finished back =>
      let command ← commandOf scope back
      return (Common.ofGiven (front.join back), command)
    | .command .. | .help _ => .error (.misuse .missingCommand)

end ConfigResolver.CommandLine
