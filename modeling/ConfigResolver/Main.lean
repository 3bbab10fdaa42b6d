import ConfigResolver.CommandLine.Run

/-!
# The program

Reads the command line, the environment and at most one file, and prints and writes what the
command line comes to. No network is attached, so a parameter store that is asked is not reached.
-/

namespace ConfigResolver.Main

/-- The failure of a file that the system reports. -/
def failure (e : IO.Error) : FileError :=
  match e with
  | .noFileOrDirectory .. => .missing
  | .inappropriateType _ code _ => if code = 20 then .notDirectory else .isDirectory
  | other => .other (toString other)

/-- The bytes of a file. -/
def readFile (path : String) : IO (Except FileError (List UInt8)) := do
  if path.toList.contains '\x00' then return .error .nameHasNul
  try return .ok (← IO.FS.readBinFile path).toList
  catch e => return .error (failure e)

/-- Writes a file. -/
def writeFile (path content : String) : IO (Option FileError) := do
  try
    IO.FS.writeFile path content
    return none
  catch e => return some (failure e)

/-- A variable and its value. -/
def variableOf (entry : List UInt8) : String × List UInt8 :=
  let name := entry.takeWhile (· != 61)
  (String.ofList (Text.Utf8.decodeLossy name), entry.drop (name.length + 1))

/-- The environment of the process. -/
def readEnvironment : IO Environment := do
  let bytes ← try IO.FS.readBinFile "/proc/self/environ" catch _ => pure .empty
  let entries := (bytes.toList.splitOn 0).filter (!·.isEmpty)
  return entries.foldl (fun env entry ↦ let (name, value) := variableOf entry; env.set name value)
    .empty

/-- Runs a command line. -/
def runWords (words : List String) : IO UInt32 := do
  let env ← readEnvironment
  let file := match CommandLine.parse words with
    | .ok (_, .resolve file ..) => some file
    | _ => none
  let bytes ← match file with
    | some path => readFile path
    | none => pure (.error .missing)
  let setting : CommandLine.Setting Unit :=
    ⟨env, fun _ ↦ bytes, .json .none, .standard, 1⟩
  let (plan, _) := CommandLine.run setting words ()
  let report ← match plan with
    | some (.report r) => pure r
    | some (.write path content conclude) => conclude <$> writeFile path content
    | none => pure ⟨1, "", ""⟩
  (← IO.getStdout).putStr report.output
  (← IO.getStderr).putStr report.errors
  return UInt32.ofNat report.exit

end ConfigResolver.Main

/-- Runs the command line of the process. -/
def main (words : List String) : IO UInt32 := ConfigResolver.Main.runWords words
