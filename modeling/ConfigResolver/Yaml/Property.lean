import ConfigResolver.Text.Hex
import ConfigResolver.Text.Utf8
import ConfigResolver.Yaml.Token

/-!
# Reading anchors, tags and directives

What stands in front of nodes and documents. Each reader starts at the indicator of what it reads
and answers the cursor behind it.
-/

namespace ConfigResolver.Yaml

/-! ## Anchors -/

/-- What may follow the name of an anchor. -/
def endsAnchor (s : List Char) : Bool :=
  atGap s || (s.head?.any fun c ↦ c ∈ ['?', ':', ',', ']', '}', '%', '@', '\x60'])

/-- Reads the name of an anchor or an alias. -/
def readAnchor (c : Cursor) : Except Fault (List Char × Cursor) :=
  let (name, after) := (c.drop 1).takeWhile isWord
  if name.isEmpty || !endsAnchor after.rest then
    .error (after.fault "alphabetic or numeric character")
  else .ok (name, after)

/-! ## Tags -/

/-- What may stand in a tag; flow indicators only where `whole` tags are written. -/
def isTagChar (whole : Bool) (c : Char) : Bool :=
  isWord c || c ∈ [';', '/', '?', ':', '@', '&', '=', '+', '$', '.', '%', '!', '~', '*', '\'', '(',
    ')'] || (whole && c ∈ [',', '[', ']'])

/-- The bytes that escapes in a row spell, and how many characters they take up. -/
def escapedBytes : List Char → List UInt8
  | '%' :: a :: b :: rest =>
    match Text.hexValue? a, Text.hexValue? b with
    | some high, some low => UInt8.ofNat (16 * high + low) :: escapedBytes rest
    | _, _ => []
  | _ => []

/-- The number of bytes of a character that starts with a byte. -/
def byteWidth (b : UInt8) : Option Nat :=
  if b < 0x80 then some 1
  else if 0xC0 ≤ b && b < 0xE0 then some 2
  else if 0xE0 ≤ b && b < 0xF0 then some 3
  else if 0xF0 ≤ b && b < 0xF8 then some 4
  else none

/-- The character that is escaped byte by byte at the start of a text, and the number of its
bytes. -/
def escapedChar? (s : List Char) : Option (List Char × Nat) :=
  match escapedBytes s with
  | [] => none
  | b :: more =>
    match byteWidth b with
    | none => none
    | some width =>
      let tail := more.take (width - 1)
      if tail.length + 1 = width ∧ tail.all (fun x ↦ 0x80 ≤ x && x < 0xC0) then
        some (Text.Utf8.decodeLossy (b :: tail), width)
      else none

/-- The characters of a tag. Each call reads one character or one escaped character, so `fuel`
need not exceed the length of the text. -/
def readTagText (whole : Bool) (c : Cursor) : Nat → Except Fault (List Char × Cursor)
  | 0 => .ok ([], c)
  | fuel + 1 =>
    match c.rest with
    | [] => .ok ([], c)
    | x :: _ =>
      if !isTagChar whole x then .ok ([], c)
      else if x == '%' then
        match escapedChar? c.rest with
        | none => .error (c.fault "an escaped character of a tag")
        | some (text, width) => do
          let (more, after) ← readTagText whole (c.drop (3 * width)) fuel
          return (text ++ more, after)
      else do
        let (more, after) ← readTagText whole (c.drop 1) fuel
        return (x :: more, after)

/-- The rest of a tag behind a part that is known. The whole may not be empty. -/
def readTagSuffix (whole : Bool) (known : List Char) (c : Cursor) :
    Except Fault (List Char × Cursor) := do
  let (text, after) ← readTagText whole c c.rest.length
  if known.isEmpty && text.isEmpty then .error (after.fault "expected tag URI")
  else return (known.drop 1 ++ text, after)

/-- What looks like a handle: an exclamation mark, a word, and maybe another one. -/
def readHandle (c : Cursor) : Except Fault (List Char × Cursor) :=
  match c.rest with
  | '!' :: _ =>
    let (word, after) := (c.drop 1).takeWhile isWord
    match after.rest with
    | '!' :: _ => .ok ('!' :: word ++ ['!'], after.drop 1)
    | _ => .ok ('!' :: word, after)
  | _ => .error (c.fault "expected '!'")

/-- Reads a tag: written out between angle brackets, or with a handle. A tag that is a mere
exclamation mark has no handle. -/
def readTag (inFlow : Bool) (c : Cursor) : Except Fault (TagToken × Cursor) := do
  let (tag, after) ←
    if (c.rest.drop 1).head? == some '<' then do
      let (suffix, after) ← readTagSuffix true [] (c.drop 2)
      match after.rest with
      | '>' :: _ => pure (TagToken.mk [] suffix, after.drop 1)
      | _ => .error (after.fault "the expected '>'")
    else do
      let (handle, after) ← readHandle c
      if 1 < handle.length && handle.getLast? == some '!' then
        let (suffix, after) ← readTagSuffix false [] after
        pure (TagToken.mk handle suffix, after)
      else
        let (suffix, after) ← readTagSuffix false handle after
        pure (if suffix.isEmpty then ⟨[], ['!']⟩ else ⟨['!'], suffix⟩, after)
  if atGap after.rest || (inFlow && after.rest.head? == some ',') then return (tag, after)
  else .error (after.fault "expected whitespace or line break")

/-! ## Directives -/

/-- A number of a version. -/
def readVersionNumber (c : Cursor) : Except Fault (Nat × Cursor) :=
  let (digits, after) := c.takeWhile fun x ↦ '0' ≤ x && x ≤ '9'
  if digits.isEmpty then .error (c.fault "expected version number")
  else if 9 < digits.length then .error (after.fault "a short version number")
  else .ok (digits.foldl (fun n x ↦ 10 * n + (x.toNat - '0'.toNat)) 0, after)

/-- The two numbers of a version. -/
def readVersion (c : Cursor) : Except Fault (TokenKind × Cursor) := do
  let (major, after) ← readVersionNumber c.dropBlanks
  match after.rest with
  | '.' :: _ =>
    let (minor, after) ← readVersionNumber (after.drop 1)
    return (.versionDirective major minor, after)
  | _ => .error (after.fault "expected digit or '.' character")

/-- A handle and what it stands for. -/
def readTagDirective (c : Cursor) : Except Fault (TokenKind × Cursor) := do
  let (handle, after) ← readHandle c.dropBlanks
  if handle != ['!'] && !(1 < handle.length && handle.getLast? == some '!') then
    .error (after.fault "expected '!'")
  else if !(after.rest.head?.any isBlank) then .error (after.fault "expected whitespace")
  else
    let (expansion, after) ← readTagSuffix true [] after.dropBlanks
    if atGap after.rest then return (.tagDirective handle expansion, after)
    else .error (after.fault "expected whitespace or line break")

/-- The rest of a line that may hold a comment only, and the end of the line. -/
def endLine (c : Cursor) : Except Fault Cursor :=
  let c := c.dropBlanks.dropComment
  if atBreak c.rest then .ok c.takeBreak.2
  else .error (c.fault "expected comment or line break")

/-- Reads a directive with its line. -/
def readDirective (c : Cursor) : Except Fault (TokenKind × Cursor) := do
  let (name, after) := (c.drop 1).takeWhile isWord
  if name.isEmpty then .error (after.fault "expected directive name")
  else if !atGap after.rest then .error (after.fault "an alphabetical character")
  else
    let (kind, after) ←
      if name = ['Y', 'A', 'M', 'L'] then readVersion after
      else if name = ['T', 'A', 'G'] then readTagDirective after
      else .error (after.fault "a known directive name")
    return (kind, ← endLine after)

end ConfigResolver.Yaml
