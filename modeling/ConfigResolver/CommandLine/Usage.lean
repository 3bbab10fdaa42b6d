import ConfigResolver.CommandLine.Words

/-!
# Messages about the command line

How the command line is used, the version of the program, and why a command line is refused.
-/

namespace ConfigResolver.CommandLine

/-- The name of the program. -/
def programName : String := "paramconf"

/-- The version of the program. -/
def programVersion : String := "0.1.0"

/-- How the command line is used. -/
def usage : String :=
  String.intercalate "\n" [
    "Usage: " ++ programName ++ " [OPTIONS] <COMMAND>",
    "",
    "Commands:",
    "  resolve <FILE>  Resolve every placeholder in a configuration file",
    "  get <KEY>       Print the value of one parameter",
    "  list [PATH]     List the parameters under a path",
    "  help            Print this message",
    "",
    "Options of every command:",
    "      --root-path <PATHS>      Root paths for relative keys (colon-delimited, repeatable)",
    "      --default-value <VALUE>  Value of placeholders without a value and a default",
    "      --skip-remote            Do not contact the parameter store",
    "      --region <REGION>        Region of the parameter store",
    "      --endpoint <ENDPOINT>    Address of the parameter store",
    "      --profile <PROFILE>      Credentials for the parameter store",
    "  -v, --verbose                Log lookups",
    "  -h, --help                   Print help",
    "  -V, --version                Print version",
    "",
    "Options of resolve:",
    "      --resolve-key <KEY>  Only resolve the value under this top-level key",
    "      --return-key <KEY>   Only output the value under this top-level key",
    "  -f, --format <FORMAT>    Output format: yaml, json",
    "  -o, --output <FILE>      Write to a file",
    "",
    "Options of list:",
    "  -f, --format <FORMAT>    Output format: text, json",
    ""]

/-- The version of the program as it is shown. -/
def versionLine : String := programName ++ " " ++ programVersion ++ "\n"

/-- A switch as messages name it. -/
def Switch.shown (s : Switch) : String := "'--" ++ s.long ++ "'"

/-- Why a command line is refused. -/
def Misuse.message : Misuse → String
  | unknownSwitch word => s!"unexpected argument '{word}' found"
  | missingValue s => "a value is required for " ++ s.shown ++ " but none was supplied"
  | needlessValue s => "no value is taken by " ++ s.shown
  | invalidValue s value => s!"invalid value '{value}' for " ++ s.shown
  | repeated s => s.shown ++ " cannot be used multiple times"
  | invalidOperand word => s!"unexpected argument '{word}' found"
  | unknownCommand word => s!"unrecognized subcommand '{word}'"
  | missingOperand => "a required argument was not provided"
  | missingCommand => "a subcommand is required but was not provided"

end ConfigResolver.CommandLine
