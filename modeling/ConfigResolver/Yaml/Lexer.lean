import ConfigResolver.Yaml.ScalarText

/-!
# Cutting a YAML text into tokens

The lexer keeps the indentation of the open blocks and, for each open bracket, the place where a
key may have started: only the colon behind a key shows that it was one. A token is released once
no such place is in front of it; what the lexer had read beyond the last released token when it
met a fault is lost.
-/

namespace ConfigResolver.Yaml

/-- A place where a key may have started. -/
structure PossibleKey where
  /-- Whether the text makes no sense unless it is a key. -/
  required : Bool
  /-- The number of the token that starts it. -/
  number : Nat
  /-- Where it starts. -/
  mark : Mark
deriving Repr

/-- A text that is being cut into tokens. -/
structure Lexer where
  /-- What is left of the text. -/
  cursor : Cursor
  /-- The tokens so far. -/
  tokens : Array Token
  /-- The indentation of the innermost block; `-1` outside all blocks. -/
  indent : Int
  /-- The indentation of the blocks around it, innermost first. -/
  outer : List Int
  /-- Whether a key may start here. -/
  keyAllowed : Bool
  /-- The places where keys may have started: outside brackets, and inside each open bracket,
  innermost first. -/
  keys : List (Option PossibleKey)
  /-- Whether the end of the text was reached. -/
  done : Bool
deriving Inhabited

namespace Lexer

/-- A text before its first token. -/
def start (text : List Char) : Lexer where
  cursor := .start text
  tokens := #[]
  indent := -1
  outer := []
  keyAllowed := true
  keys := [none]
  done := false

/-- Whether a bracket is open. -/
def inFlow (l : Lexer) : Bool := 1 < l.keys.length

/-- The column of the cursor. -/
def column (l : Lexer) : Nat := l.cursor.mark.column

/-- The lexer with a token that starts at a place. -/
def push (l : Lexer) (mark : Mark) (kind : TokenKind) : Lexer :=
  { l with tokens := l.tokens.push ⟨mark, kind⟩ }

/-- The lexer with a token that starts at a place, in front of the token with a number. -/
def insert (l : Lexer) (number : Nat) (mark : Mark) (kind : TokenKind) : Lexer :=
  { l with tokens := (l.tokens.take number).push ⟨mark, kind⟩ ++ l.tokens.drop number }

/-- The lexer with a token of `n` characters. -/
def pushIndicator (l : Lexer) (n : Nat) (kind : TokenKind) : Lexer :=
  { l.push l.cursor.mark kind with cursor := l.cursor.drop n }

/-- The lexer whose next token may start a key, or may not. -/
def allowKey (l : Lexer) (allowed : Bool) : Lexer := { l with keyAllowed := allowed }

/-! ## Places where keys may start -/

/-- A key ends on its line and has at most 1024 characters. -/
def expired (l : Lexer) (key : PossibleKey) : Bool :=
  key.mark.line < l.cursor.mark.line || key.mark.index + 1024 < l.cursor.mark.index

/-- Forgets the places that are too far back to start a key. -/
def dropExpired (l : Lexer) : Except Fault Lexer := do
  let keys ← l.keys.mapM fun key ↦
    match key with
    | some k =>
      if !l.expired k then .ok key
      else if k.required then .error (l.cursor.fault "expected ':'")
      else .ok none
    | none => .ok none
  return { l with keys }

/-- Forgets the innermost place. -/
def dropKey (l : Lexer) : Except Fault Lexer :=
  match l.keys with
  | some key :: outer =>
    if key.required then .error (l.cursor.fault "expected ':'")
    else .ok { l with keys := none :: outer }
  | _ => .ok l

/-- Remembers that a key may start here. -/
def saveKey (l : Lexer) : Except Fault Lexer := do
  if l.keyAllowed then
    let l ← l.dropKey
    let key : PossibleKey := {
      required := !l.inFlow && l.indent == (l.column : Int)
      number := l.tokens.size
      mark := l.cursor.mark }
    return { l with keys := some key :: l.keys.drop 1 }
  else return l

/-! ## Blocks -/

/-- Opens a block at a column if it is further in than the innermost one; its start stands in
front of the token with a number, or at the end. -/
def openBlock (l : Lexer) (column : Nat) (number : Option Nat) (kind : TokenKind) (mark : Mark) :
    Lexer :=
  if l.inFlow || (column : Int) ≤ l.indent then l
  else
    let l := { l with indent := column, outer := l.indent :: l.outer }
    match number with
    | some n => l.insert n mark kind
    | none => l.push mark kind

/-- Ends the blocks that are further in than a column. -/
def endBlocks (l : Lexer) (column : Int) : List Int → Lexer
  | [] => l
  | indent :: outer =>
    if column < l.indent then
      endBlocks { l.push l.cursor.mark .blockEnd with indent, outer } column outer
    else l

/-- Ends the blocks that are further in than a column; brackets end no blocks. -/
def closeBlocks (l : Lexer) (column : Int) : Lexer :=
  if l.inFlow then l else l.endBlocks column l.outer

/-! ## Between tokens -/

/-- What follows blanks, comments and ends of lines. Each call reads a line. -/
def skipGap (l : Lexer) : Nat → Lexer
  | 0 => l
  | fuel + 1 =>
    let c := if l.cursor.mark.index == 0 && l.cursor.rest.head? == some byteOrderMark
      then l.cursor.drop 1 else l.cursor
    let c := c.dropWhile fun x ↦ x == ' ' || ((l.inFlow || !l.keyAllowed) && x == '\t')
    let c := c.dropComment
    if !c.rest.isEmpty && atBreak c.rest then
      skipGap { l with
        cursor := c.takeBreak.2
        keyAllowed := l.keyAllowed || !l.inFlow } fuel
    else { l with cursor := c }

/-! ## Tokens -/

/-- The end of the text. -/
def fetchEnd (l : Lexer) : Except Fault Lexer := do
  let mark := l.cursor.mark
  let mark := if mark.column = 0 then mark else { mark with line := mark.line + 1, column := 0 }
  let l ← ({ l with cursor.mark := mark }.closeBlocks (-1)).dropKey
  return { (l.allowKey false).push l.cursor.mark .streamEnd with done := true }

/-- A directive. -/
def fetchDirective (l : Lexer) : Except Fault Lexer := do
  let l ← (l.closeBlocks (-1)).dropKey
  let mark := l.cursor.mark
  let (kind, cursor) ← readDirective l.cursor
  return { (l.allowKey false).push mark kind with cursor }

/-- The line that starts or ends a document. -/
def fetchDocumentLine (l : Lexer) (kind : TokenKind) : Except Fault Lexer := do
  let l ← (l.closeBlocks (-1)).dropKey
  return (l.allowKey false).pushIndicator 3 kind

/-- An opening bracket or brace. -/
def fetchOpening (l : Lexer) (kind : TokenKind) : Except Fault Lexer := do
  let l ← l.saveKey
  return { l.pushIndicator 1 kind with keys := none :: l.keys, keyAllowed := true }

/-- A closing bracket or brace. -/
def fetchClosing (l : Lexer) (kind : TokenKind) : Except Fault Lexer := do
  let l ← l.dropKey
  let keys := if l.inFlow then l.keys.drop 1 else l.keys
  return { l.pushIndicator 1 kind with keys, keyAllowed := false }

/-- A comma. -/
def fetchComma (l : Lexer) : Except Fault Lexer := do
  let l ← l.dropKey
  return (l.allowKey true).pushIndicator 1 .flowEntry

/-- The block that starts at the cursor, if none does yet; `what` is missing where none may. -/
def blockAt (l : Lexer) (kind : TokenKind) (what : String) : Except Fault Lexer :=
  if l.inFlow then .ok l
  else if !l.keyAllowed then .error (l.cursor.fault what)
  else .ok (l.openBlock l.column none kind l.cursor.mark)

/-- A hyphen in front of an item. -/
def fetchBlockEntry (l : Lexer) : Except Fault Lexer := do
  let l ← (← l.blockAt .blockSequenceStart "a place for a sequence entry").dropKey
  return (l.allowKey true).pushIndicator 1 .blockEntry

/-- A question mark in front of a key. -/
def fetchKey (l : Lexer) : Except Fault Lexer := do
  let l ← (← l.blockAt .blockMappingStart "a place for a mapping key").dropKey
  return (l.allowKey (!l.inFlow)).pushIndicator 1 .key

/-- A colon in front of a value. What stands in front of it may turn out to be a key. -/
def fetchValue (l : Lexer) : Except Fault Lexer := do
  match l.keys with
  | some key :: outer =>
    let l := l.insert key.number key.mark .key
    let l := l.openBlock key.mark.column (some key.number) .blockMappingStart key.mark
    return ({ l with keys := none :: outer }.allowKey false).pushIndicator 1 .value
  | _ =>
    let l ← l.blockAt .blockMappingStart "a place for a mapping value"
    return (l.allowKey (!l.inFlow)).pushIndicator 1 .value

/-- A token that may start a key: a reader answers what it is and the cursor behind it. -/
def fetchContent (l : Lexer) (read : Cursor → Except Fault (TokenKind × Cursor)) :
    Except Fault Lexer := do
  let l ← l.saveKey
  let (kind, cursor) ← read l.cursor
  return { (l.allowKey false).push l.cursor.mark kind with cursor }

/-- A block. -/
def fetchBlock (l : Lexer) (literal : Bool) : Except Fault Lexer := do
  let l ← l.dropKey
  let (text, cursor) ← readBlock literal (if 0 ≤ l.indent then some l.indent.toNat else none)
    l.cursor
  return { (l.allowKey true).push l.cursor.mark (.scalar .quoted text) with cursor }

/-- A plain scalar. A key may start behind one that ends with a line. -/
def fetchPlain (l : Lexer) : Except Fault Lexer := do
  let l ← l.saveKey
  let (text, broken, cursor) ← readPlain l.inFlow (l.indent + 1).toNat l.cursor
  return { (l.allowKey broken).push l.cursor.mark (.scalar .plain text) with cursor }

/-- What no plain scalar starts with. -/
def isIndicator (c : Char) : Bool :=
  c ∈ ['-', '?', ':', ',', '[', ']', '{', '}', '#', '&', '*', '!', '|', '>', '\'', '"', '%', '@',
    '\x60']

/-- Whether a plain scalar starts with a character, in front of the rest of a text. -/
def startsPlain (l : Lexer) (c : Char) (rest : List Char) : Bool :=
  !(isBlank c || isBreak c || isIndicator c) ||
    (c == '-' && !(rest.head?.any isBlank)) ||
    (!l.inFlow && (c == '?' || c == ':') && !atGap rest)

/-- The token that starts with a character at the cursor, in front of the rest of the text. -/
def fetchAt (l : Lexer) (c : Char) (rest : List Char) : Except Fault Lexer :=
  if l.column = 0 && c == '%' then l.fetchDirective
  else if l.cursor.atDocumentLine '-' then l.fetchDocumentLine .documentStart
  else if l.cursor.atDocumentLine '.' then l.fetchDocumentLine .documentEnd
  else if c == '[' then l.fetchOpening .flowSequenceStart
  else if c == '{' then l.fetchOpening .flowMappingStart
  else if c == ']' then l.fetchClosing .flowSequenceEnd
  else if c == '}' then l.fetchClosing .flowMappingEnd
  else if c == ',' then l.fetchComma
  else if c == '-' && atGap rest then l.fetchBlockEntry
  else if c == '?' && (l.inFlow || atGap rest) then l.fetchKey
  else if c == ':' && (l.inFlow || atGap rest) then l.fetchValue
  else if c == '*' then l.fetchContent fun c ↦ do
    let (name, after) ← readAnchor c
    return (.alias name, after)
  else if c == '&' then l.fetchContent fun c ↦ do
    let (name, after) ← readAnchor c
    return (.anchor name, after)
  else if c == '!' then l.fetchContent fun c ↦ do
    let (tag, after) ← readTag l.inFlow c
    return (.tag tag, after)
  else if c == '|' && !l.inFlow then l.fetchBlock true
  else if c == '>' && !l.inFlow then l.fetchBlock false
  else if c == '\'' || c == '"' then l.fetchContent fun cursor ↦ do
    let (text, after) ← readQuoted (c == '\'') cursor
    return (.scalar .quoted text, after)
  else if l.startsPlain c rest then l.fetchPlain
  else .error (l.cursor.fault "a character that can start a token")

/-- The next token, or a few: blocks may end in front of it. -/
def fetch (l : Lexer) : Except Fault Lexer := do
  let l ← (l.skipGap (l.cursor.rest.length + 1)).dropExpired
  let l := l.closeBlocks l.column
  match l.cursor.rest with
  | [] => l.fetchEnd
  | c :: rest => l.fetchAt c rest

/-- The number of tokens in front of the first place where a key may have started. -/
def released (l : Lexer) : Nat :=
  l.keys.foldl (fun n key ↦ match key with
    | some k => min n k.number
    | none => n) l.tokens.size

/-- The tokens of a text, and the fault that ends them if there is one. Each call reads at least
one character, so `fuel` need not exceed the length of the text by more than one. -/
def run (l : Lexer) : Nat → List Token × Option Fault
  | 0 => (l.tokens.toList, none)
  | fuel + 1 =>
    match l.fetch with
    | .error fault => (l.tokens.toList.take l.released, some fault)
    | .ok l' =>
      match l'.dropExpired with
      | .error fault => (l'.tokens.toList.take l.released, some fault)
      | .ok l' => if l'.done then (l'.tokens.toList, none) else run l' fuel

end Lexer

/-- The tokens of a text, and the fault that ends them if there is one. A character that no text
may hold is found before the first token. -/
def tokensOf (text : List Char) : List Token × Option Fault :=
  let text := match text with
    | c :: rest => if c = byteOrderMark then rest else c :: rest
    | [] => []
  if text.all isAllowed then (Lexer.start text).run (text.length + 2)
  else ([], some ⟨.malformed "a character that is allowed", some ⟨0, 0, 0⟩⟩)

end ConfigResolver.Yaml
