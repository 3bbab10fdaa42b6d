import ConfigResolver.Text.Unprintable

/-!
# Quoted texts

Messages for developers show a text between quotation marks. Quotation marks, backslashes and
unprintable characters are escaped.
-/

namespace ConfigResolver.Text

/-- A character by the number of its code point. -/
def escapeCode (c : Char) : List Char :=
  '\\' :: 'u' :: '\x7b' :: Nat.toDigits 16 c.toNat ++ ['\x7d']

/-- A character inside a quoted text. -/
def escape (c : Char) : List Char :=
  if c = '\x00' then ['\\', '0']
  else if c = '\t' then ['\\', 't']
  else if c = '\r' then ['\\', 'r']
  else if c = '\n' then ['\\', 'n']
  else if c = '\\' || c = '"' then ['\\', c]
  else if isUnprintable c then escapeCode c
  else [c]

/-- A text between quotation marks. -/
def quote (s : String) : String := String.ofList ('"' :: s.toList.flatMap escape ++ ['"'])

/-- A text between quotation marks, if there is one. -/
def quote? : Option String → String
  | some s => "Some(" ++ quote s ++ ")"
  | none => "None"

/-- Quoted texts between brackets. -/
def quoteAll (items : List String) : String :=
  "[" ++ String.intercalate ", " (items.map quote) ++ "]"

end ConfigResolver.Text
