import ConfigResolver.Binary64.Layout
import ConfigResolver.Json.Text
import ConfigResolver.Value.Basic

/-!
# Writing JSON

A document on one line without white space, or with one item to a line, indented by two spaces for
each level. What is no number, and infinity, are written as null.
-/

namespace ConfigResolver.Json

/-- A number is set positionally from 0.00001 up to sixteen digits, otherwise with an exponent that
has a sign. -/
def numberLayout : Binary64.Layout where
  leadingZeros := some 4
  wholeDigits := some 16
  wholeEnd := ['.', '0']
  exponentSign := ['+']
  tie := .even
  nan := ['n', 'u', 'l', 'l']
  infinity := ['n', 'u', 'l', 'l']

/-- The text of nothing. -/
def nullText : List Char := ['n', 'u', 'l', 'l']

/-- The text of a truth value. -/
def boolText (b : Bool) : List Char :=
  if b then ['t', 'r', 'u', 'e'] else ['f', 'a', 'l', 's', 'e']

/-- The text of a whole number. -/
def intText (i : Int) : List Char := (toString i).toList

/-- The text of a floating point number. -/
def floatText (x : Binary64) : List Char := if x.isFinite then numberLayout.text x else nullText

mutual

/-- A document on one line. -/
def compact : Value → List Char
  | .null => nullText
  | .bool b => boolText b
  | .integer i => intText i.toInt
  | .float x => floatText x
  | .string s => quote s.toList
  | .sequence items => '[' :: compactItems items ++ [']']
  | .mapping entries => '{' :: compactEntries entries ++ ['}']

/-- Items with commas between them. -/
def compactItems : List Value → List Char
  | [] => []
  | [item] => compact item
  | item :: rest => compact item ++ ',' :: compactItems rest

/-- Entries with commas between them. -/
def compactEntries : List (String × Value) → List Char
  | [] => []
  | [(key, value)] => quote key.toList ++ ':' :: compact value
  | (key, value) :: rest =>
    quote key.toList ++ ':' :: compact value ++ ',' :: compactEntries rest

end

/-- A new line that is indented for a level. -/
def newLine (level : Nat) : List Char := '\n' :: List.replicate (2 * level) ' '

mutual

/-- A document with one item to a line, whose first line stands at a level. -/
def pretty (level : Nat) : Value → List Char
  | .sequence (item :: rest) =>
    '[' :: prettyItems (level + 1) (item :: rest) ++ newLine level ++ [']']
  | .mapping (entry :: rest) =>
    '{' :: prettyEntries (level + 1) (entry :: rest) ++ newLine level ++ ['}']
  | .sequence [] => ['[', ']']
  | .mapping [] => ['{', '}']
  | .null => nullText
  | .bool b => boolText b
  | .integer i => intText i.toInt
  | .float x => floatText x
  | .string s => quote s.toList

/-- Items, each on lines of its own. -/
def prettyItems (level : Nat) : List Value → List Char
  | [] => []
  | [item] => newLine level ++ pretty level item
  | item :: rest => newLine level ++ pretty level item ++ ',' :: prettyItems level rest

/-- Entries, each on lines of its own. -/
def prettyEntries (level : Nat) : List (String × Value) → List Char
  | [] => []
  | [(key, value)] => newLine level ++ quote key.toList ++ ':' :: ' ' :: pretty level value
  | (key, value) :: rest =>
    newLine level ++ quote key.toList ++ ':' :: ' ' :: pretty level value ++
      ',' :: prettyEntries level rest

end

/-- A document on one line. -/
def writeCompact (v : Value) : String := String.ofList (compact v)

/-- A document with one item to a line. -/
def writePretty (v : Value) : String := String.ofList (pretty 0 v)

end ConfigResolver.Json
