import ConfigResolver.Json.Read
import ConfigResolver.Yaml.Read

/-!
# Documents in texts

A document is written in YAML or in JSON.
-/

namespace ConfigResolver

/-- How a document is written. -/
inductive Format where
  /-- As YAML. -/
  | yaml
  /-- As JSON. -/
  | json
deriving DecidableEq, Repr

/-- The document that a text holds, or the first fault of the text. -/
def Format.parse (format : Format) (text : List Char) : Except Fault Value :=
  match format with
  | .yaml => (Yaml.read text).toValue
  | .json => (Json.read text).toValue

/-- The document that a text holds. -/
def Format.load (format : Format) (text : String) : Except Error Value :=
  (format.parse text.toList).mapError Fault.toError

end ConfigResolver
