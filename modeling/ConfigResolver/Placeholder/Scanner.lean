import ConfigResolver.Placeholder.Basic
import ConfigResolver.Text.Bytes

/-!
# Scanning by byte offset

A scanner holds a text and a position in it, counted in bytes of its UTF-8 form. Every cut of the
text goes through `Text.cutBytes?`, which refuses an offset past the end or inside a character, so a
scan either finishes or says which cut was wrong.
-/

namespace ConfigResolver

/-- A text that is being scanned, and how many of its bytes are done with. -/
structure Scanner where
  /-- The whole text. -/
  input : List Char
  /-- The bytes before the place where the next search starts. -/
  position : Nat
deriving DecidableEq, Repr

namespace Scanner

/-- A cut at an offset that is no character boundary of the text. -/
structure BadCut where
  /-- The text that was to be cut. -/
  text : List Char
  /-- The offset of the cut. -/
  offset : Nat
deriving DecidableEq, Repr

/-- A text from an offset on. -/
def sliceFrom (s : List Char) (offset : Nat) : Except BadCut (List Char) :=
  match Text.cutBytes? offset s with
  | some (_, right) => .ok right
  | none => .error ⟨s, offset⟩

/-- A text up to an offset. -/
def sliceTo (s : List Char) (offset : Nat) : Except BadCut (List Char) :=
  match Text.cutBytes? offset s with
  | some (left, _) => .ok left
  | none => .error ⟨s, offset⟩

/-- Scanning a text from its start. -/
def ofText (input : List Char) : Scanner := ⟨input, 0⟩

/-- The default of a token and the offset of the token's end, where its key ends at `cursor`. -/
def endAt (input : List Char) (cursor : Nat) :
    Except BadCut (Option (Option (List Char) × Nat)) := do
  let rest ← sliceFrom input cursor
  if ['}'].isPrefixOf rest then
    return some (none, cursor + 1)
  else
    match Token.defaultMarker.isPrefixOf? rest with
    | none => return none
    | some after =>
      match Text.findByte? (· == '}') after with
      | none => return none
      | some length =>
        let raw ← sliceTo after length
        return some (Token.fallbackOf raw,
          cursor + Text.byteLength Token.defaultMarker + length + 1)

/-- The token whose opening stands at `start`, with the text around it. -/
def placeholderAt (input : List Char) (start : Nat) : Except BadCut (Option Placeholder) := do
  let tagStart := start + Text.byteLength Token.opening
  let rest ← sliceFrom input tagStart
  match Text.findByte? (· == ':') rest with
  | none => return none
  | some colon =>
    match Source.ofTag? (← sliceTo rest colon) with
    | none => return none
    | some source =>
      let keyStart := tagStart + colon + 1
      let body ← sliceFrom input keyStart
      match Text.findByte? (fun c ↦ c == '}' || c == '!') body with
      | none => return none
      | some keyLength =>
        let raw ← sliceTo body keyLength
        match ← endAt input (keyStart + keyLength) with
        | none => return none
        | some (fallback, stop) =>
          return some ⟨← sliceTo input start, ⟨source, Text.trim raw, fallback⟩,
            ← sliceFrom input stop⟩

/-- The next placeholder, and the scanner after the search: it stands where the last search
started, so asking again gives the same placeholder again. Each failed candidate moves the scanner
by at least one byte, so `fuel` above the number of bytes left is never used up. -/
def search (scanner : Scanner) : Nat → Except BadCut (Option Placeholder × Scanner)
  | 0 => return (none, scanner)
  | fuel + 1 => do
    if scanner.position < Text.byteLength scanner.input then
      match Text.findPart? Token.opening (← sliceFrom scanner.input scanner.position) with
      | none => return (none, scanner)
      | some offset =>
        let start := scanner.position + offset
        match ← placeholderAt scanner.input start with
        | some found => return (some found, scanner)
        | none => search { scanner with position := start + 1 } fuel
    else
      return (none, scanner)

/-- The next placeholder, and the scanner after the search. -/
def next (scanner : Scanner) : Except BadCut (Option Placeholder × Scanner) :=
  scanner.search (Text.byteLength scanner.input + 1)

end Scanner

end ConfigResolver
