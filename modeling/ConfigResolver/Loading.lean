import ConfigResolver.Document
import ConfigResolver.Files
import ConfigResolver.Text.Utf8

/-!
# Loading documents from files

A file whose name ends in `.json` is read as JSON, every other file as YAML. A file that holds
nothing, or null, holds no document.
-/

namespace ConfigResolver

/-- What stands behind the last dot of a name. A dot at the start of a name does not count. -/
def extension? (name : List Char) : Option (List Char) :=
  match name.reverse.span (· != '.') with
  | (back, _ :: _ :: _) => some back.reverse
  | _ => none

/-- How the document in a file is written. -/
def Format.ofPath (path : String) : Format :=
  let name := (path.toList.splitOn '/').getLastD []
  if (extension? name).map (·.map Char.toLower) = some ['j', 's', 'o', 'n'] then .json else .yaml

namespace Loading

/-- A file cannot be read. -/
def failure (path : String) : FileError → Error
  | .missing => .sourceNotFound path
  | e => .io s!"Failed to read file '{path}': {e.message}"

/-- The error of a text that is in a file. -/
def inFile (path : String) (e : Error) : Error :=
  e.withLocation ⟨path, e.location.bind Location.line, e.location.bind Location.column⟩

/-- The document that the text of a file holds. -/
def ofText (path text : String) : Except Error Value := do
  if text.isEmpty then .error (.sourceEmpty path)
  else
    let value ← ((Format.ofPath path).load text).mapError (inFile path)
    if value.isNull then .error (.sourceEmpty path) else .ok value

/-- The document in a file, from what reading the bytes of the file came to. -/
def ofBytes (path : String) (bytes : Except FileError (List UInt8)) : Except Error Value := do
  let bytes ← bytes.mapError (failure path)
  match Text.Utf8.decode? bytes with
  | none => .error (failure path .notText)
  | some text => ofText path (String.ofList text)

end Loading

/-- The document in a file. -/
def Files.load (files : Files) (path : String) : Except Error Value :=
  Loading.ofBytes path (files.read path)

end ConfigResolver
