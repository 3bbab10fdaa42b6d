/-!
# Switches of the command line

Each command understands some switches of its own, and the switches that are common to all of
them, which may stand in front of the command too.
-/

namespace ConfigResolver.CommandLine

/-- What the words of a command line are read for. -/
inductive Scope where
  /-- The words in front of a command. -/
  | top
  /-- Resolving a file. -/
  | resolve
  /-- Getting a parameter. -/
  | get
  /-- Listing parameters. -/
  | list
deriving DecidableEq, Repr

/-- A switch. -/
inductive Switch where
  /-- Root paths for relative keys. -/
  | rootPath
  /-- The default for placeholders without one. -/
  | defaultValue
  /-- The parameter store is not asked. -/
  | skipRemote
  /-- The region of the parameter store. -/
  | region
  /-- The address of the parameter store. -/
  | endpoint
  /-- The name of a set of credentials. -/
  | profile
  /-- What is done is reported. -/
  | verbose
  /-- The only top-level key to resolve. -/
  | resolveKey
  /-- The only top-level key to show. -/
  | returnKey
  /-- The format of the output. -/
  | format
  /-- The file to write to. -/
  | output
  /-- How the command line is used. -/
  | help
  /-- The version of the program. -/
  | version
deriving DecidableEq, Repr

namespace Switch

/-- The name behind two hyphens. -/
def long : Switch → String
  | rootPath => "root-path"
  | defaultValue => "default-value"
  | skipRemote => "skip-remote"
  | region => "region"
  | endpoint => "endpoint"
  | profile => "profile"
  | verbose => "verbose"
  | resolveKey => "resolve-key"
  | returnKey => "return-key"
  | format => "format"
  | output => "output"
  | help => "help"
  | version => "version"

/-- The letter behind one hyphen. -/
def short? : Switch → Option Char
  | verbose => some 'v'
  | format => some 'f'
  | output => some 'o'
  | help => some 'h'
  | version => some 'V'
  | _ => none

/-- Whether a value follows the switch. -/
def takesValue : Switch → Bool
  | skipRemote | verbose | help | version => false
  | _ => true

/-- Whether the switch may be given more than once. -/
def isRepeatable : Switch → Bool
  | rootPath => true
  | _ => false

/-- The switches that every command understands. -/
def common : List Switch :=
  [rootPath, defaultValue, skipRemote, region, endpoint, profile, verbose]

end Switch

namespace Scope

/-- The switches that a scope understands besides the common ones. -/
def ownSwitches : Scope → List Switch
  | top => [.help, .version]
  | resolve => [.resolveKey, .returnKey, .format, .output, .help]
  | get => [.help]
  | list => [.format, .help]

/-- The switches that a scope understands. -/
def switches (scope : Scope) : List Switch := Switch.common ++ scope.ownSwitches

/-- The names of the formats that a scope knows. -/
def formats : Scope → List String
  | resolve => ["yaml", "json"]
  | list => ["text", "json"]
  | _ => []

/-- The command of a name. -/
def ofName? (name : String) : Option Scope :=
  if name = "resolve" then some resolve
  else if name = "get" then some get
  else if name = "list" then some list
  else none

/-- The name that asks for help with a command. -/
def helpName : String := "help"

/-- Whether a scope accepts a value of a switch. -/
def acceptsValue (scope : Scope) (s : Switch) (value : String) : Bool :=
  match s with
  | .format => scope.formats.contains value
  | .output => !value.isEmpty
  | _ => true

/-- Whether a scope accepts an operand. -/
def acceptsOperand (scope : Scope) (operand : String) : Bool :=
  match scope with
  | top => false
  | resolve => !operand.isEmpty
  | get | list => true

end Scope

end ConfigResolver.CommandLine
