import ConfigResolver.Yaml.Property

/-!
# Reading scalars

Plain scalars, scalars in quotes, and blocks. Words of a scalar that spans lines are joined: the
end of one line becomes a space, and of several ends of lines the first is dropped.
-/

namespace ConfigResolver.Yaml

/-! ## Plain scalars -/

/-- The rest of a word of a plain scalar: up to a blank, the end of a line, a colon that is
followed by one of these, or, inside brackets, an indicator of a collection. -/
def readPlainWord (inFlow : Bool) (m : Mark) : List Char → Except Fault (List Char × Cursor)
  | [] => .ok ([], ⟨[], m⟩)
  | c :: rest =>
    if isBlank c || isBreak c then .ok ([], ⟨c :: rest, m⟩)
    else if inFlow && c == ':' && rest.head?.any (· ∈ [',', '?', '[', ']', '{', '}']) then
      .error ⟨.malformed "a space behind ':'", some m⟩
    else if (c == ':' && atGap rest) || (inFlow && c ∈ [',', '[', ']', '{', '}']) then
      .ok ([], ⟨c :: rest, m⟩)
    else do
      let (word, after) ← readPlainWord inFlow (Mark.forward m 1) rest
      return (c :: word, after)

/-- Reads a plain scalar behind a part of it and a gap. Answers the text, whether a line ended
behind it, and the cursor. Each call reads a word, so `fuel` need not exceed the length of the
text. -/
def readPlainFrom (inFlow : Bool) (margin : Nat) (known : List Char) (gap : Gap) (c : Cursor) :
    Nat → Except Fault (List Char × Bool × Cursor)
  | 0 => .ok (known, gap.broken, c)
  | fuel + 1 =>
    if c.atDocumentLine '-' || c.atDocumentLine '.' || c.rest.head? == some '#' then
      .ok (known, gap.broken, c)
    else do
      let (word, after) ← readPlainWord inFlow c.mark c.rest
      if word.isEmpty then return (known, gap.broken, after)
      else
        let text := known ++ gap.text ++ word
        if after.rest.isEmpty || !atGap after.rest then return (text, false, after)
        else
          let (gap, after) ← Gap.read margin .none after.mark after.rest
          if !inFlow && after.mark.column < margin then return (text, gap.broken, after)
          else readPlainFrom inFlow margin text gap after fuel

/-- Reads a plain scalar. The lines of one in a block start at column `margin` or behind it. -/
def readPlain (inFlow : Bool) (margin : Nat) (c : Cursor) :
    Except Fault (List Char × Bool × Cursor) :=
  readPlainFrom inFlow margin [] .none c (c.rest.length + 1)

/-! ## Scalars in quotes -/

/-- The character of a short escape. -/
def shortEscape? (c : Char) : Option Char :=
  match c with
  | '0' => some '\x00'
  | 'a' => some '\x07'
  | 'b' => some '\x08'
  | 't' | '\t' => some '\t'
  | 'n' => some '\n'
  | 'v' => some '\x0b'
  | 'f' => some '\x0c'
  | 'r' => some '\r'
  | 'e' => some '\x1b'
  | ' ' => some ' '
  | '"' => some '"'
  | '/' => some '/'
  | '\\' => some '\\'
  | 'N' => some '\x85'
  | '_' => some '\xa0'
  | 'L' => some '\u2028'
  | 'P' => some '\u2029'
  | _ => none

/-- How many digits an escape by number has. -/
def escapeWidth? (c : Char) : Option Nat :=
  match c with
  | 'x' => some 2
  | 'u' => some 4
  | 'U' => some 8
  | _ => none

/-- The character of an escape, whose backslash stands at the cursor. -/
def readEscape (c : Cursor) : Except Fault (Char × Cursor) :=
  match (c.rest.drop 1).head? with
  | none => .error (c.fault "an escape character")
  | some x =>
    match shortEscape? x with
    | some y => .ok (y, c.drop 2)
    | none =>
      match escapeWidth? x with
      | none => .error (c.fault "a known escape character")
      | some width =>
        let digits := (c.rest.drop 2).take width
        match digits.mapM Text.hexValue? with
        | none => .error (c.fault "expected hexdecimal number")
        | some values =>
          let n := values.foldl (fun n v ↦ 16 * n + v) 0
          if values.length < width then .error (c.fault "expected hexdecimal number")
          else if (0xD800 ≤ n && n ≤ 0xDFFF) || 0x10FFFF < n then
            .error (c.fault "a valid character escape code")
          else .ok (Char.ofNat n, c.drop (2 + width))

/-- Where a run of characters in quotes ends. -/
inductive Stop where
  /-- At the closing quote. -/
  | closed
  /-- Behind an escaped end of a line. -/
  | continued
  /-- At a blank, the end of a line or the end of the text. -/
  | gap
deriving DecidableEq, Repr

/-- The characters between quotes up to a gap or the closing quote. Each call reads at least one
character, so `fuel` need not exceed the length of the text. -/
def readQuotedRun (single : Bool) (c : Cursor) : Nat → Except Fault (List Char × Stop × Cursor)
  | 0 => .ok ([], .gap, c)
  | fuel + 1 =>
    match c.rest with
    | [] => .ok ([], .gap, c)
    | x :: rest =>
      if isBlank x || isBreak x then .ok ([], .gap, c)
      else if single && x == '\'' then
        if rest.head? == some '\'' then do
          let (more, stop, after) ← readQuotedRun single (c.drop 2) fuel
          return ('\'' :: more, stop, after)
        else .ok ([], .closed, c)
      else if !single && x == '"' then .ok ([], .closed, c)
      else if !single && x == '\\' then
        if rest.head?.any isBreak then .ok ([], .continued, (c.drop 1).takeBreak.2)
        else do
          let (y, after) ← readEscape c
          let (more, stop, after) ← readQuotedRun single after fuel
          return (y :: more, stop, after)
      else do
        let (more, stop, after) ← readQuotedRun single (c.drop 1) fuel
        return (x :: more, stop, after)

/-- Whether the closing quote stands at the cursor. -/
def atClosingQuote (single : Bool) (c : Cursor) : Bool :=
  c.rest.head? == some (if single then '\'' else '"')

/-- Reads a scalar in quotes, behind its opening quote and a part of it. Each call reads at least
one character. -/
def readQuotedFrom (single : Bool) (known : List Char) (c : Cursor) :
    Nat → Except Fault (List Char × Cursor)
  | 0 => .error (c.fault "the end of a quoted scalar")
  | fuel + 1 =>
    if c.atDocumentLine '-' || c.atDocumentLine '.' then
      .error (c.fault "a line of a quoted scalar")
    else if c.rest.isEmpty then .error (c.fault "the end of a quoted scalar")
    else do
      let (run, stop, after) ← readQuotedRun single c (c.rest.length + 1)
      if atClosingQuote single after then return (known ++ run, after.drop 1)
      else
        let known' := known ++ run
        let (gap, after) ← Gap.read 0 (if stop = .continued then .continued else .none)
          after.mark after.rest
        readQuotedFrom single (known' ++ gap.text) after fuel

/-- Reads a scalar in quotes. -/
def readQuoted (single : Bool) (c : Cursor) : Except Fault (List Char × Cursor) :=
  readQuotedFrom single [] (c.drop 1) (c.rest.length + 1)

/-! ## Blocks -/

/-- What happens to the line ends at the end of a block. -/
inductive Chomp where
  /-- None is kept. -/
  | strip
  /-- The first is kept. -/
  | clip
  /-- All are kept. -/
  | keep
deriving DecidableEq, Repr

/-- The chomping that an indicator asks for. -/
def chompOf? : Option Char → Option Chomp
  | some '+' => some .keep
  | some '-' => some .strip
  | _ => none

/-- The indentation that an indicator asks for. -/
def indentOf? (c : Option Char) : Option Nat :=
  match c with
  | some x => if '0' ≤ x ∧ x ≤ '9' then some (x.toNat - '0'.toNat) else none
  | none => none

/-- The indicators of a block, in either order: chomping and indentation. -/
def readBlockHeader (c : Cursor) : Except Fault (Chomp × Option Nat × Cursor) := do
  let (chomp, digit, after) := match chompOf? c.rest.head? with
    | some chomp =>
      let c := c.drop 1
      match indentOf? c.rest.head? with
      | some n => (chomp, some n, c.drop 1)
      | none => (chomp, none, c)
    | none =>
      match indentOf? c.rest.head? with
      | some n =>
        let c := c.drop 1
        match chompOf? c.rest.head? with
        | some chomp => (chomp, some n, c.drop 1)
        | none => (.clip, some n, c)
      | none => (.clip, none, c)
  if digit = some 0 then .error (after.fault "an indentation indicator above 0")
  else return (chomp, digit, ← endLine after)

/-- The ends of empty lines, the largest indentation among them, and the cursor at the first line
that is not empty. `indent` is the indentation of the block, if it is known. Each call reads a
line. -/
def readEmptyLines (indent : Option Nat) (c : Cursor) (breaks : List Char) (widest : Nat) :
    Nat → Except Fault (List Char × Nat × Cursor)
  | 0 => .ok (breaks, widest, c)
  | fuel + 1 =>
    let spaces := (c.rest.takeWhile (· == ' ')).length
    let taken := match indent with
      | none => spaces
      | some n => min spaces (n - c.mark.column)
    let c := c.drop taken
    let widest := max widest c.mark.column
    if indent.all (c.mark.column < ·) && c.rest.head? == some '\t' then
      .error (c.fault "a space in place of a tab")
    else if c.rest.isEmpty || !atBreak c.rest then .ok (breaks, widest, c)
    else
      let (ended, c) := c.takeBreak
      readEmptyLines indent c (breaks ++ ended) widest fuel

/-- The state of a block that is being read. -/
structure Block where
  /-- The text up to here. -/
  text : List Char
  /-- The end of the last line. -/
  lastBreak : List Char
  /-- The ends of the empty lines behind it. -/
  breaks : List Char
  /-- Whether the last line started with a blank. -/
  startedBlank : Bool
deriving Repr, Inhabited

/-- What stands between two lines: in a folded block a single line feed between lines that do not
start with blanks is a space. -/
def Block.joint (b : Block) (literal startsBlank : Bool) : List Char :=
  if !literal && b.lastBreak.head? == some '\n' && !b.startedBlank && !startsBlank then
    (if b.breaks.isEmpty then [' '] else []) ++ b.breaks
  else b.lastBreak ++ b.breaks

/-- The lines of a block. Each call reads a line, so `fuel` need not exceed the length of the
text. -/
def readBlockLines (literal : Bool) (indent : Nat) (b : Block) (c : Cursor) :
    Nat → Except Fault (Block × Cursor)
  | 0 => .ok (b, c)
  | fuel + 1 =>
    if c.mark.column ≠ indent || c.rest.isEmpty then .ok (b, c)
    else do
      let startsBlank := c.rest.head?.any isBlank
      let (line, after) := c.takeWhile (!isBreak ·)
      let (ended, after) := after.takeBreak
      let (breaks, _, after) ← readEmptyLines (some indent) after [] 0 (after.rest.length + 1)
      readBlockLines literal indent
        ⟨b.text ++ b.joint literal startsBlank ++ line, ended, breaks, startsBlank⟩ after fuel

/-- Reads a block. `parent` is the indentation of the collection around it, if there is one. -/
def readBlock (literal : Bool) (parent : Option Nat) (c : Cursor) :
    Except Fault (List Char × Cursor) := do
  let (chomp, digit, c) ← readBlockHeader (c.drop 1)
  let given := digit.map (parent.getD 0 + ·)
  let (breaks, widest, c) ← readEmptyLines given c [] 0 (c.rest.length + 1)
  let indent := given.getD (max (max widest (parent.elim 0 (· + 1))) 1)
  let (b, c) ← readBlockLines literal indent ⟨[], [], breaks, false⟩ c (c.rest.length + 1)
  return (b.text ++ (if chomp = .strip then [] else b.lastBreak) ++
    (if chomp = .keep then b.breaks else []), c)

end ConfigResolver.Yaml
