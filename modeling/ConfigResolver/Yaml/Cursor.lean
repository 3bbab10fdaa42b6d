import ConfigResolver.Value.Node

/-!
# A place in a YAML text

Classes of characters, and a cursor: what is left of a text, and where that is. A line ends with a
carriage return, a line feed, both, or one of three further characters; the first four are one
line feed in the text of a scalar.
-/

namespace ConfigResolver.Yaml

/-- The characters that a text may hold. -/
def isAllowed (c : Char) : Bool :=
  c == '\t' || c == '\n' || c == '\r' || (0x20 ≤ c.val && c.val ≤ 0x7E) || c.val == 0x85 ||
    (0xA0 ≤ c.val && c.val ≤ 0xD7FF) || (0xE000 ≤ c.val && c.val ≤ 0xFFFD) || 0x10000 ≤ c.val

/-- The character that may mark the start of a text. -/
def byteOrderMark : Char := '\uFEFF'

/-- A space or a tab. -/
def isBlank (c : Char) : Bool := c == ' ' || c == '\t'

/-- What ends a line. -/
def isBreak (c : Char) : Bool :=
  c == '\r' || c == '\n' || c.val == 0x85 || c.val == 0x2028 || c.val == 0x2029

/-- What may stand in names of anchors, handles and directives. -/
def isWord (c : Char) : Bool :=
  ('0' ≤ c && c ≤ '9') || ('A' ≤ c && c ≤ 'Z') || ('a' ≤ c && c ≤ 'z') || c == '_' || c == '-'

/-- The end of a line as the text of a scalar holds it. -/
def breakText (c : Char) : Char := if c.val == 0x2028 || c.val == 0x2029 then c else '\n'

/-- Whether a text is at its end or goes on with what ends a line. -/
def atBreak : List Char → Bool
  | [] => true
  | c :: _ => isBreak c

/-- Whether a text is at its end or goes on with a blank or what ends a line. -/
def atGap : List Char → Bool
  | [] => true
  | c :: _ => isBlank c || isBreak c

/-- The place some characters further on in the same line. -/
def Mark.forward (m : Mark) (n : Nat) : Mark := ⟨m.index + n, m.line, m.column + n⟩

/-- The start of the next line, where the end of this one has `n` characters. -/
def Mark.newLine (m : Mark) (n : Nat) : Mark := ⟨m.index + n, m.line + 1, 0⟩

/-- What is left of a text, and where that is. -/
structure Cursor where
  /-- What is left. -/
  rest : List Char
  /-- Where it is. -/
  mark : Mark
deriving Repr, Inhabited

namespace Cursor

/-- The start of a text. -/
def start (text : List Char) : Cursor := ⟨text, ⟨0, 0, 0⟩⟩

/-- Some characters further on in the same line. -/
def drop (c : Cursor) (n : Nat) : Cursor := ⟨c.rest.drop n, Mark.forward c.mark n⟩

/-- The characters in a row that pass a test, none of which ends a line, and what follows them. -/
def takeWhile (c : Cursor) (p : Char → Bool) : List Char × Cursor :=
  let run := c.rest.takeWhile p
  (run, c.drop run.length)

/-- What follows the characters in a row that pass a test. -/
def dropWhile (c : Cursor) (p : Char → Bool) : Cursor := (c.takeWhile p).2

/-- What follows the blanks. -/
def dropBlanks (c : Cursor) : Cursor := c.dropWhile isBlank

/-- What follows a comment, if one starts here. -/
def dropComment (c : Cursor) : Cursor :=
  match c.rest with
  | '#' :: _ => c.dropWhile (!isBreak ·)
  | _ => c

/-- The end of a line as the text of a scalar holds it, and the start of the next line. Nothing is
taken where no line ends. -/
def takeBreak (c : Cursor) : List Char × Cursor :=
  match c.rest with
  | '\r' :: '\n' :: rest => (['\n'], ⟨rest, Mark.newLine c.mark 2⟩)
  | b :: rest => if isBreak b then ([breakText b], ⟨rest, Mark.newLine c.mark 1⟩) else ([], c)
  | [] => ([], c)

/-- Whether a text starts with a line that ends or starts a document. -/
def atDocumentLine (c : Cursor) (indicator : Char) : Bool :=
  c.mark.column == 0 && [indicator, indicator, indicator].isPrefixOf c.rest && atGap (c.rest.drop 3)

/-- The fault of a text that breaks the grammar here. -/
def fault (c : Cursor) (expected : String) : Fault := ⟨.malformed expected, some c.mark⟩

end Cursor

/-! ## Gaps inside scalars -/

/-- The blanks and line ends between two words of a scalar that spans lines. -/
structure Gap where
  /-- The blanks before the first end of a line. -/
  blanks : List Char
  /-- The first end of a line. -/
  first : List Char
  /-- The further ends of lines. -/
  more : List Char
  /-- Whether a line ended. -/
  broken : Bool
deriving Repr, Inhabited

namespace Gap

/-- No gap. -/
def none : Gap := ⟨[], [], [], false⟩

/-- The gap behind an end of a line that does not count. -/
def continued : Gap := ⟨[], [], [], true⟩

/-- The gap with one more blank; blanks at the start of a line do not count. -/
def addBlank (g : Gap) (c : Char) : Gap :=
  if g.broken then g else { g with blanks := g.blanks ++ [c] }

/-- The gap with one more end of a line. -/
def addBreak (g : Gap) (c : Char) : Gap :=
  if g.broken then { g with more := g.more ++ [c] } else ⟨[], [c], [], true⟩

/-- What a gap is in the text of the scalar: blanks as they are, a single line feed as a space,
and otherwise all ends of lines but a first line feed. -/
def text (g : Gap) : List Char :=
  if g.broken then
    if g.first.head? = some '\n' then (if g.more.isEmpty then [' '] else g.more)
    else g.first ++ g.more
  else g.blanks

/-- Reads a gap behind the part of it that is known. A tab at the start of a line is refused
before column `margin`. -/
def read (margin : Nat) (g : Gap) (m : Mark) : List Char → Except Fault (Gap × Cursor)
  | [] => .ok (g, ⟨[], m⟩)
  | '\r' :: '\n' :: rest => read margin (g.addBreak '\n') (Mark.newLine m 2) rest
  | c :: rest =>
    if isBlank c then
      if g.broken && c == '\t' && m.column < margin then
        .error ⟨.malformed "a space in place of a tab", some m⟩
      else read margin (g.addBlank c) (Mark.forward m 1) rest
    else if isBreak c then read margin (g.addBreak (breakText c)) (Mark.newLine m 1) rest
    else .ok (g, ⟨c :: rest, m⟩)

end Gap

end ConfigResolver.Yaml
