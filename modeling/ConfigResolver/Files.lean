import ConfigResolver.Error
import ConfigResolver.Text.Bytes

/-!
# Files

The ways in which reading or writing a file can fail, and the file systems that do so. One of them
holds the files below a working directory, and of what lies outside of it only the directories on
the way up. It fails only where a path leads nowhere; another one may do so anywhere.
-/

namespace ConfigResolver

/-- Why a file cannot be read or written. -/
inductive FileError where
  /-- There is no such file. -/
  | missing
  /-- A name on the way is that of a file. -/
  | notDirectory
  /-- The path leads to a directory. -/
  | isDirectory
  /-- The path or a name in it has too many bytes. -/
  | nameTooLong
  /-- The path holds NUL. -/
  | nameHasNul
  /-- The bytes of the file are no text. -/
  | notText
  /-- Any other failure. -/
  | other (text : String)
deriving DecidableEq, Repr

namespace FileError

/-- What the user sees. -/
def message : FileError → String
  | missing => "No such file or directory (os error 2)"
  | notDirectory => "Not a directory (os error 20)"
  | isDirectory => "Is a directory (os error 21)"
  | nameTooLong => "File name too long (os error 36)"
  | nameHasNul => "file name contained an unexpected NUL byte"
  | notText => "stream did not contain valid UTF-8"
  | other text => text

end FileError

/-- How files are read and written, where `φ` is what is to be known of them. A file that could not
be written may have been changed. -/
structure FileSystem (φ : Type) where
  /-- The bytes of a file. -/
  read : String → φ → Except FileError (List UInt8)
  /-- Why a file could not be written, and the files afterwards. -/
  write : String → List UInt8 → φ → Option FileError × φ

/-- The names on the way from the working directory. Two names lead out of it: that of the parent
directory and that of the root. -/
abbrev Place := List String

namespace Place

/-- The name of the parent directory. -/
def up : String := ".."

/-- The name of the directory itself. -/
def here : String := "."

/-- The name of the root. -/
def root : String := "/"

/-- The directory that a directory is in. -/
def parent (place : Place) : Place :=
  if place = [root] then place
  else if place.all (· == up) then place ++ [up]
  else place.dropLast

/-- Whether a directory is outside the working directory, but on the way to it. -/
def isOutside (place : Place) : Bool := place = [root] || place.all (· == up)

end Place

/-- What is at a place. -/
inductive Entry where
  /-- A directory. -/
  | directory
  /-- A file with its bytes. -/
  | file (bytes : List UInt8)
deriving DecidableEq, Repr

/-- Files and directories with their places. The directories on the way to one of them are there
too. -/
structure Files where
  /-- The files and directories. -/
  entries : List (Place × Entry)
deriving DecidableEq, Repr

namespace Files

/-- The empty working directory. -/
def empty : Files := ⟨[]⟩

/-- What is at a place. -/
def entry? (files : Files) (place : Place) : Option Entry :=
  match files.entries.lookup place with
  | some entry => some entry
  | none =>
    if place.isOutside || files.entries.any fun (other, _) ↦ place.isPrefixOf other then
      some .directory
    else none

/-- The files with one more file or directory; what was at its place is replaced. -/
def put (files : Files) (place : Place) (entry : Entry) : Files :=
  ⟨(place, entry) :: files.entries.filter (·.1 ≠ place)⟩

/-- How many bytes a name may have. -/
def maxName : Nat := 255

/-- A path has fewer bytes than this. -/
def maxPath : Nat := 4096

/-- The place that names lead to from a place. There need be nothing at the end of the way. -/
def follow (files : Files) (place : Place) : List String → Except FileError Place
  | [] => .ok place
  | name :: rest =>
    match files.entry? place with
    | none => .error .missing
    | some (.file _) => .error .notDirectory
    | some .directory =>
      if name.isEmpty || name = Place.here then follow files place rest
      else if name = Place.up then follow files place.parent rest
      else if maxName < name.utf8ByteSize then .error .nameTooLong
      else follow files (place ++ [name]) rest

/-- Where a path starts, and the names in it. -/
def namesOf (path : String) : Except FileError (Place × List String) :=
  if path.toList.contains '\x00' then .error .nameHasNul
  else if path.isEmpty then .error .missing
  else if maxPath ≤ path.utf8ByteSize then .error .nameTooLong
  else
    .ok (if path.toList.head? = some '/' then [Place.root] else [],
      (path.toList.splitOn '/').map String.ofList)

/-- The bytes of a file. -/
def read (files : Files) (path : String) : Except FileError (List UInt8) := do
  let (start, names) ← namesOf path
  let place ← files.follow start names
  match files.entry? place with
  | none => .error .missing
  | some .directory => .error .isDirectory
  | some (.file bytes) => .ok bytes

/-- The names of a path without an empty one at its end, and whether there was one. -/
def cutSlash (names : List String) : List String × Bool :=
  let short := (names.reverse.dropWhile String.isEmpty).reverse
  (short, short.length < names.length)

/-- The files after bytes were written to a file. The directory of the file has to be there. -/
def write (files : Files) (path : String) (bytes : List UInt8) : Except FileError Files := do
  let (start, names) ← namesOf path
  let (names, slash) := cutSlash names
  let name := names.getLastD ""
  let place ← files.follow start names.dropLast
  match files.entry? place with
  | none => .error .missing
  | some (.file _) => .error .notDirectory
  | some .directory =>
    if slash || name.isEmpty || name = Place.here || name = Place.up then .error .isDirectory
    else if maxName < name.utf8ByteSize then .error .nameTooLong
    else if files.entry? (place ++ [name]) = some .directory then .error .isDirectory
    else .ok (files.put (place ++ [name]) (.file bytes))

/-- The file system with the files below a working directory. -/
def system : FileSystem Files where
  read path files := files.read path
  write path bytes files :=
    match files.write path bytes with
    | .ok after => (none, after)
    | .error e => (some e, files)

end Files

end ConfigResolver
