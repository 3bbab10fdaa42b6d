import ConfigResolver.Yaml.Cursor

/-!
# YAML tokens

A text is cut into tokens: scalars, properties of nodes, the indicators of collections, and the
starts and ends of collections that only indentation shows.
-/

namespace ConfigResolver.Yaml

/-- How a scalar is written. -/
inductive Style where
  /-- Without quotes. -/
  | plain
  /-- In quotes or as a block. -/
  | quoted
deriving DecidableEq, Repr

/-- A tag as it is written. -/
structure TagToken where
  /-- What stands for the start of the tag; empty for a tag that is written out. -/
  handle : List Char
  /-- The rest of the tag. -/
  suffix : List Char
deriving DecidableEq, Repr

/-- What a token is. -/
inductive TokenKind where
  /-- The end of the text. -/
  | streamEnd
  /-- The version of the language. -/
  | versionDirective (major minor : Nat)
  /-- What a handle stands for. -/
  | tagDirective (handle expansion : List Char)
  /-- The line that starts a document. -/
  | documentStart
  /-- The line that ends a document. -/
  | documentEnd
  /-- The start of a sequence in a block. -/
  | blockSequenceStart
  /-- The start of a mapping in a block. -/
  | blockMappingStart
  /-- The end of a sequence or mapping in a block. -/
  | blockEnd
  /-- An opening bracket. -/
  | flowSequenceStart
  /-- A closing bracket. -/
  | flowSequenceEnd
  /-- An opening brace. -/
  | flowMappingStart
  /-- A closing brace. -/
  | flowMappingEnd
  /-- A hyphen in front of an item. -/
  | blockEntry
  /-- A comma. -/
  | flowEntry
  /-- What starts a key. -/
  | key
  /-- The colon in front of a value. -/
  | value
  /-- A reference to a node. -/
  | alias (name : List Char)
  /-- The name of a node. -/
  | anchor (name : List Char)
  /-- The tag of a node. -/
  | tag (tag : TagToken)
  /-- A scalar. -/
  | scalar (style : Style) (text : List Char)
deriving DecidableEq, Repr

/-- A token and where it starts. -/
structure Token where
  /-- Where it starts. -/
  mark : Mark
  /-- What it is. -/
  kind : TokenKind
deriving Repr

end ConfigResolver.Yaml
