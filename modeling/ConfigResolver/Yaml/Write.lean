import ConfigResolver.Binary64.Layout
import ConfigResolver.Yaml.Quoting

/-!
# Writing YAML

A document is written in blocks that are indented by two columns for each level. A sequence under
a key is not indented. The first item or entry of a collection stands on the line of the indicator
in front of it. A key that has lines, or is long, is marked by a question mark.
-/

namespace ConfigResolver.Yaml

/-- A number is set positionally from 0.00001 up to sixteen digits, otherwise with an exponent
that has only a minus sign. -/
def numberLayout : Binary64.Layout where
  leadingZeros := some 4
  wholeDigits := some 16
  wholeEnd := ['.', '0']
  exponentSign := []
  tie := .even
  nan := ['.', 'n', 'a', 'n']
  infinity := ['.', 'i', 'n', 'f']

/-- What is in front of a column. -/
def margin (column : Nat) : List Char := List.replicate column ' '

/-- A key has its value on its own line if it has no lines itself and at most 128 bytes. -/
def isShortKey (key : String) : Bool := !key.toList.any isBreak && key.utf8ByteSize ≤ 128

/-- A text in a collection that stands in a column. -/
def textIn (column : Nat) (s : String) : List Char := quoted (margin (column + 2)) s.toList

/-- What stands in front of the value of an entry in a column. -/
def label (column : Nat) (key : String) : List Char :=
  if isShortKey key then onLine [] key.toList ++ [':']
  else '?' :: ' ' :: textIn column key ++ margin column ++ [':']

/-- A scalar or an empty collection, in a collection that stands in a column. -/
def leaf (column : Nat) : Value → List Char
  | .null => ['n', 'u', 'l', 'l', '\n']
  | .bool true => ['t', 'r', 'u', 'e', '\n']
  | .bool false => ['f', 'a', 'l', 's', 'e', '\n']
  | .integer i => (toString i.toInt).toList ++ ['\n']
  | .float x => numberLayout.text x ++ ['\n']
  | .string s => textIn column s
  | .sequence _ => ['[', ']', '\n']
  | .mapping _ => ['{', '}', '\n']

mutual

/-- A node behind an indicator that stands in a column. -/
def behind (column : Nat) : Value → List Char
  | .sequence (item :: rest) => ' ' :: items (column + 2) (item :: rest)
  | .mapping (entry :: rest) => ' ' :: entries (column + 2) (entry :: rest)
  | other => ' ' :: leaf column other

/-- A node under a short key that stands in a column. -/
def below (column : Nat) : Value → List Char
  | .sequence (item :: rest) => '\n' :: margin column ++ items column (item :: rest)
  | .mapping (entry :: rest) => '\n' :: margin (column + 2) ++ entries (column + 2) (entry :: rest)
  | other => ' ' :: leaf column other

/-- The items of a sequence in a column; the first line is not indented. -/
def items (column : Nat) : List Value → List Char
  | [] => []
  | [item] => '-' :: behind column item
  | item :: rest => '-' :: behind column item ++ margin column ++ items column rest

/-- The entries of a mapping in a column; the first line is not indented. -/
def entries (column : Nat) : List (String × Value) → List Char
  | [] => []
  | [(key, value)] =>
    label column key ++ if isShortKey key then below column value else behind column value
  | (key, value) :: rest =>
    label column key ++ (if isShortKey key then below column value else behind column value) ++
      margin column ++ entries column rest

end

/-- A document as lines. -/
def lines : Value → List Char
  | .sequence (item :: rest) => items 0 (item :: rest)
  | .mapping (entry :: rest) => entries 0 (entry :: rest)
  | other => leaf 0 other

/-- A document as text. -/
def write (v : Value) : String := String.ofList (lines v)

end ConfigResolver.Yaml
