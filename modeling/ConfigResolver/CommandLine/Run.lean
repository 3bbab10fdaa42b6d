import ConfigResolver.CommandLine.Command
import ConfigResolver.CommandLine.Usage
import ConfigResolver.Json.Write
import ConfigResolver.Resolver.File
import ConfigResolver.Resolver.Listing
import ConfigResolver.Ssm.Store
import ConfigResolver.Yaml.Write

/-!
# Running a command line

A command line comes to a report: what is printed, and the exit status. It is 0 for a success, 2 if
the command line, the options or the files are at fault, and 1 if a value could not be had or not be
printed. A command that writes a file first comes to a plan, because what is printed depends on how
the writing ends.
-/

namespace ConfigResolver.CommandLine

/-- What a command line comes to. -/
structure Report where
  /-- The exit status. -/
  exit : Nat
  /-- What is printed on standard output. -/
  output : String
  /-- What is printed on standard error. -/
  errors : String
deriving DecidableEq, Repr

/-- What is left to do for a command line. -/
inductive Plan where
  /-- Nothing but to report. -/
  | report (r : Report)
  /-- To write a file, and to report how that ended. -/
  | write (path content : String) (conclude : Option FileError → Report)

namespace Plan

/-- The report, and the files afterwards. -/
def perform {φ : Type} (system : FileSystem φ) (files : φ) : Plan → Report × φ
  | .report r => (r, files)
  | .write path content conclude =>
    let (failure, after) := system.write path content.toUTF8.toList files
    (conclude failure, after)

end Plan

/-! ## Colours -/

/-- The variable that asks for colours. -/
def colourVariable : String := "CLICOLOR_FORCE"

/-- Whether messages are coloured: only if that is asked for, because the output may be no
terminal. -/
def isColoured (env : Environment) : Bool := (env.text? colourVariable).any (· != "0")

/-- A colour of messages. -/
inductive Colour where
  /-- For failures. -/
  | red
  /-- For successes. -/
  | green
deriving DecidableEq, Repr

/-- What switches a colour on. -/
def Colour.start : Colour → List Char
  | red => ['\x1b', '[', '3', '1', 'm']
  | green => ['\x1b', '[', '3', '2', 'm']

/-- What switches colours off. -/
def colourEnd : List Char := ['\x1b', '[', '0', 'm']

/-- A text with a colour switched on again wherever it is switched off. -/
def resume (start : List Char) : List Char → List Char
  | [] => []
  | c :: rest =>
    match colourEnd.isPrefixOf (c :: rest), rest with
    | true, _ :: _ :: _ :: rest => colourEnd ++ start ++ resume start rest
    | _, rest => c :: resume start rest

/-- A text in a colour. -/
def paint (coloured : Bool) (colour : Colour) (text : String) : String :=
  if coloured then
    String.ofList (colour.start ++ resume colour.start text.toList ++ colourEnd)
  else text

/-! ## Rendering -/

/-- A document as it is printed. -/
def render (format : DocumentFormat) (v : Value) : String :=
  match format with
  | .yaml => Yaml.write v
  | .json => Json.writePretty v ++ "\n"

/-- A parameter as a document. -/
def parameterValue (p : Parameter) : Value :=
  .mapping [("name", .string p.name), ("value", .string p.value)]

/-- A listing as it is printed. -/
def renderParameters (format : ListFormat) (ps : List Parameter) : String :=
  match format with
  | .text => String.join (ps.map fun p ↦ p.name ++ "=" ++ p.value ++ "\n")
  | .json => Json.writePretty (.sequence (ps.map parameterValue)) ++ "\n"

/-- What prints documents and listings. -/
structure Printer where
  /-- A document, or why it cannot be printed. -/
  document : DocumentFormat → Value → Except String String
  /-- A listing, or why it cannot be printed. -/
  listing : ListFormat → List Parameter → Except String String

/-- The printer that prints whatever there is. -/
def Printer.standard : Printer where
  document format v := .ok (render format v)
  listing format ps := .ok (renderParameters format ps)

/-! ## Commands -/

/-- What command lines are run in. -/
structure Setting (σ : Type) where
  /-- The variables of the process. -/
  environment : Environment
  /-- What reading a file comes to. -/
  read : String → Except FileError (List UInt8)
  /-- The library that the parameter store is asked by. -/
  library : Ssm.Library σ
  /-- What prints documents and listings. -/
  printer : Printer
  /-- How many pages a listing may have to a path. -/
  pages : Nat

/-- The exit status for an error: whether the input file or a value is at fault. -/
def exitOf (e : Error) : Nat :=
  match e.kind with
  | .sourceNotFound _ | .sourceEmpty _ | .parse | .io => 2
  | _ => 1

/-- The report of a failure that is no fault of a file. -/
def failed (coloured : Bool) (reason : String) : Report :=
  ⟨1, "", paint coloured .red "Error" ++ ": " ++ reason ++ "\n"⟩

/-- The report of a file that cannot be resolved. -/
def unresolved (coloured : Bool) (file : String) (e : Error) : Report :=
  ⟨exitOf e, "", paint coloured .red "✗" ++ " " ++ file ++ "\n\n" ++ e.message ++ "\n"⟩

/-- The report of how writing a file ended. -/
def written (coloured : Bool) (path : String) : Option FileError → Report
  | none => ⟨0, "", paint coloured .green "✓" ++ " Wrote to " ++ path ++ "\n"⟩
  | some e => ⟨2, "", paint coloured .red "Error writing file" ++ ": " ++ e.message ++ "\n"⟩

variable {σ : Type}

/-- The resolver that options ask for, or why there is none. One that skips the parameter store has
no store, and no library is started for it. -/
def resolverOf (library : Ssm.Library σ) (o : Options) : Except String (Resolver σ) :=
  if o.skipRemote then (Resolver.offline o).mapError Error.message
  else
    match (Ssm.Connection.ofOptions o).connect library with
    | .error e => .error s!"Failed to create SSM client: {e.message}"
    | .ok store => (Resolver.withStore o store).mapError Error.message

namespace Setting

/-- Whether messages are coloured. -/
def coloured (w : Setting σ) : Bool := isColoured w.environment

/-- The resolver that the environment and the common switches ask for, or why there is none. The
environment is looked at before the switches. -/
def resolver (w : Setting σ) (common : Common) : Except String (Resolver σ) :=
  (common.options w.environment).mapError Error.message >>= resolverOf w.library

/-- What is left to do with a document that was resolved: it is printed or written to a file. -/
def deliver (w : Setting σ) (format : DocumentFormat) (output : Option String) (v : Value) : Plan :=
  match w.printer.document format v with
  | .error reason => .report (failed w.coloured reason)
  | .ok content =>
    match output with
    | none => .report ⟨0, content, ""⟩
    | some path => .write path content (written w.coloured path)

/-- The report of a listing. -/
def listed (w : Setting σ) (format : ListFormat) (ps : List Parameter) : Report :=
  match w.printer.listing format ps with
  | .error reason => failed w.coloured reason
  | .ok content => ⟨0, content, ""⟩

/-- The plan for a command. There is none for a listing of more pages than it may have. -/
def plan (w : Setting σ) (r : Resolver σ) (command : Command) (s : σ) : Option Plan × σ :=
  match command with
  | .resolve file resolveKey returnKey format output =>
    let loaded := Loading.ofBytes file (w.read file)
    let out := r.resolveLoaded w.environment file loaded resolveKey returnKey s
    let todo := match out.result with
      | .error e => .report (unresolved w.coloured file e)
      | .ok v => w.deliver format output v
    (some todo, out.store)
  | .get key =>
    let out := r.getParameter key s
    let report := match out.result with
      | .error e => failed w.coloured e.message
      | .ok value => ⟨0, value ++ "\n", ""⟩
    (some (.report report), out.store)
  | .list path format =>
    let out := r.listParameters w.pages path s
    let report := match out.result with
      | .error e => some (failed w.coloured e.message)
      | .ok found => found.map (w.listed format)
    (report.map Plan.report, out.store)

end Setting

/-- The report of a command line that leads to no command. -/
def stopped : Stop → Report
  | .help => ⟨0, usage, ""⟩
  | .version => ⟨0, versionLine, ""⟩
  | .misuse reason => ⟨2, "", "error: " ++ reason.message ++ "\n\n" ++ usage⟩

/-- The report of options that cannot be met. -/
def unfit (coloured : Bool) (reason : String) : Report :=
  ⟨2, "", paint coloured .red reason ++ "\n"⟩

/-- The plan for a command line. -/
def run (w : Setting σ) (words : List String) (s : σ) : Option Plan × σ :=
  match parse words with
  | .error stop => (some (.report (stopped stop)), s)
  | .ok (common, command) =>
    match w.resolver common with
    | .error reason => (some (.report (unfit w.coloured reason)), s)
    | .ok r => w.plan r command s

end ConfigResolver.CommandLine
