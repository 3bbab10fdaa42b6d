import ConfigResolver.Json.Number
import ConfigResolver.Json.Text

/-!
# Reading JSON

A text is read into a tree of nodes. Collections may be nested up to a depth of 127. Each reader
answers a node and what is left of the text; nothing is left behind a broken node.
-/

namespace ConfigResolver.Json

/-- White space between the parts of a text. -/
def isSpace (c : Char) : Bool := c == ' ' || c == '\n' || c == '\t' || c == '\r'

/-- A text without the white space at its start. -/
def skip (s : List Char) : List Char := s.dropWhile isSpace

/-- How deeply collections may be nested. -/
def maxDepth : Nat := 127

/-- Reads the rest of a word whose node is known. -/
def readWord (word : List Char) (node : Node) (s : List Char) : Node × Option (List Char) :=
  match word.isPrefixOf? s with
  | some rest => (node, some rest)
  | none => (malformed "a value", none)

mutual

/-- Reads a value. Collections inside it may be nested up to `depth`; each call uses up one unit
of `fuel`, and a text of `n` characters needs no more than `2 * n + 2`. -/
def readValue (depth : Nat) (s : List Char) : Nat → Node × Option (List Char)
  | 0 => (malformed "a value", none)
  | fuel + 1 =>
    match skip s with
    | 'n' :: rest => readWord ['u', 'l', 'l'] .null rest
    | 't' :: rest => readWord ['r', 'u', 'e'] (.bool true) rest
    | 'f' :: rest => readWord ['a', 'l', 's', 'e'] (.bool false) rest
    | '-' :: rest => readNumber true rest
    | '"' :: rest =>
      match readString rest with
      | some (text, after) => (.string (String.ofList text), some after)
      | none => (malformed "a string", none)
    | '[' :: rest =>
      if depth = 0 then (.broken ⟨.tooDeep, none⟩, none)
      else
        match skip rest with
        | ']' :: after => (.sequence none [], some after)
        | inside =>
          let (items, after) := readItems (depth - 1) inside fuel
          (.sequence none items, after)
    | '{' :: rest =>
      if depth = 0 then (.broken ⟨.tooDeep, none⟩, none)
      else
        match skip rest with
        | '}' :: after => (.mapping none [], some after)
        | inside =>
          let (entries, after) := readEntries (depth - 1) inside fuel
          (.mapping none entries, after)
    | c :: rest => if c.isDigit then readNumber false (c :: rest) else (malformed "a value", none)
    | [] => (malformed "a value", none)

/-- Reads the items of a sequence up to its closing bracket. -/
def readItems (depth : Nat) (s : List Char) : Nat → List Node × Option (List Char)
  | 0 => ([malformed "an item"], none)
  | fuel + 1 =>
    match readValue depth s fuel with
    | (item, none) => ([item], none)
    | (item, some rest) =>
      match skip rest with
      | ']' :: after => ([item], some after)
      | ',' :: after =>
        let (items, left) := readItems depth after fuel
        (item :: items, left)
      | _ => ([item, malformed "a comma or a closing bracket"], none)

/-- Reads the entries of a mapping up to its closing brace. -/
def readEntries (depth : Nat) (s : List Char) : Nat → List (Node × Node) × Option (List Char)
  | 0 => ([(malformed "an entry", .null)], none)
  | fuel + 1 =>
    match skip s with
    | '"' :: text =>
      match readString text with
      | none => ([(malformed "a key", .null)], none)
      | some (key, rest) =>
        let key := Node.string (String.ofList key)
        match skip rest with
        | ':' :: rest =>
          match readValue depth rest fuel with
          | (value, none) => ([(key, value)], none)
          | (value, some rest) =>
            match skip rest with
            | '}' :: after => ([(key, value)], some after)
            | ',' :: after =>
              let (entries, left) := readEntries depth after fuel
              ((key, value) :: entries, left)
            | _ => ([(key, value), (malformed "a comma or a closing brace", .null)], none)
        | _ => ([(key, malformed "a colon")], none)
    | _ => ([(malformed "a key", .null)], none)

end

/-- What a text holds: one value, and nothing but white space behind it. -/
def read (s : List Char) : Reading :=
  match readValue maxDepth s (2 * s.length + 2) with
  | (node, none) => ⟨node, none⟩
  | (node, some rest) =>
    ⟨node, if (skip rest).isEmpty then none else some ⟨.malformed "the end of the text", none⟩⟩

end ConfigResolver.Json
