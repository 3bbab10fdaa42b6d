import ConfigResolver.Yaml.Lexer

/-!
# Trees of YAML nodes

The tokens of one document make up a tree whose nodes still have their tags, names and aliases.
Where the tokens break the grammar the tree has a broken leaf. A reader answers what it read and
the tokens behind it; there are none behind a broken leaf.
-/

namespace ConfigResolver.Yaml

/-- The name and the tag of a node. -/
structure Properties where
  /-- The name that aliases refer to. -/
  anchor : Option (List Char)
  /-- The tag, with its handle expanded. -/
  tag : Option (List Char)
deriving Repr, Inhabited

namespace Properties

/-- Neither a name nor a tag. -/
def none : Properties := ⟨.none, .none⟩

end Properties

/-- A node of a document as it is written. -/
inductive Tree where
  /-- A scalar. -/
  | scalar (mark : Mark) (properties : Properties) (style : Style) (text : List Char)
  /-- A sequence. -/
  | sequence (mark : Mark) (properties : Properties) (items : List Tree)
  /-- A mapping. -/
  | mapping (mark : Mark) (properties : Properties) (entries : List (Tree × Tree))
  /-- A reference to a node by its name. -/
  | alias (mark : Mark) (name : List Char)
  /-- Where reading stopped. -/
  | broken (fault : Fault)
deriving Repr, Inhabited

namespace Tree

/-- The scalar of a node that is not there. -/
def empty (mark : Mark) : Tree := .scalar mark .none .plain []

end Tree

/-- The tokens that are left, and the fault behind them if there is one. -/
structure Tokens where
  /-- The tokens. -/
  list : List Token
  /-- The fault behind them. -/
  fault : Option Fault
deriving Repr, Inhabited

namespace Tokens

/-- The fault of tokens that break the grammar here. -/
def broken (ts : Tokens) (expected : String) : Fault :=
  match ts.list with
  | t :: _ => ⟨.malformed expected, some t.mark⟩
  | [] => ts.fault.getD ⟨.malformed expected, some ⟨0, 0, 0⟩⟩

/-- What the next token is. -/
def kind? (ts : Tokens) : Option TokenKind := ts.list.head?.map Token.kind

/-- Whether there is a next token and it passes a test. -/
def nextIs (ts : Tokens) (p : TokenKind → Bool) : Bool := ts.kind?.any p

/-- Where the next token starts. -/
def mark (ts : Tokens) : Mark := (ts.list.head?.map Token.mark).getD ⟨0, 0, 0⟩

/-- The tokens behind the next one. -/
def tail (ts : Tokens) : Tokens := { ts with list := ts.list.drop 1 }

end Tokens

/-- What handles stand for. -/
abbrev Handles : Type := List (List Char × List Char)

/-- What two handles stand for unless a document says otherwise. -/
def standardHandles : Handles :=
  [(['!'], ['!']), (['!', '!'], "tag:yaml.org,2002:".toList)]

/-- A tag with its handle expanded. -/
def expandTag (handles : Handles) (tag : TagToken) : Option (List Char) :=
  if tag.handle.isEmpty then some tag.suffix
  else (handles.lookup tag.handle).map (· ++ tag.suffix)

/-- The properties in front of a node, the first of which may be a name or a tag. -/
def readProperties (handles : Handles) (ts : Tokens) : Except Fault (Properties × Tokens) :=
  let start := ts
  let (anchor, tag, ts) := match ts.kind? with
    | some (.anchor name) =>
      match ts.tail.kind? with
      | some (.tag tag) => (some name, some tag, ts.tail.tail)
      | _ => (some name, none, ts.tail)
    | some (.tag tag) =>
      match ts.tail.kind? with
      | some (.anchor name) => (some name, some tag, ts.tail.tail)
      | _ => (none, some tag, ts.tail)
    | _ => (none, none, ts)
  match tag with
  | none => .ok (⟨anchor, none⟩, ts)
  | some tag =>
    if ts.list.isEmpty then .error (ts.broken "expected node content")
    else
      match expandTag handles tag with
      | some text => .ok (⟨anchor, some text⟩, ts)
      | none => .error (start.broken "a defined tag handle")

/-- What a reader of trees answers: a tree, and the tokens behind it unless it is broken. -/
abbrev Step (α : Type) : Type := α × Option Tokens

/-- What ends an item of a sequence in a block. -/
def endsBlockItem (k : TokenKind) : Bool := k matches .blockEntry | .blockEnd

/-- What ends an item of a sequence that is not indented. -/
def endsOpenItem (k : TokenKind) : Bool := k matches .blockEntry | .key | .value | .blockEnd

/-- What ends a key or a value of a mapping in a block. -/
def endsBlockPart (k : TokenKind) : Bool := k matches .key | .value | .blockEnd

/-- What ends a key of a pair between brackets. -/
def endsPairKey (k : TokenKind) : Bool := k matches .value | .flowEntry | .flowSequenceEnd

/-- What ends a value of a pair between brackets. -/
def endsPairValue (k : TokenKind) : Bool := k matches .flowEntry | .flowSequenceEnd

/-- What ends a key between braces. -/
def endsFlowKey (k : TokenKind) : Bool := k matches .value | .flowEntry | .flowMappingEnd

/-- What ends a value between braces. -/
def endsFlowValue (k : TokenKind) : Bool := k matches .flowEntry | .flowMappingEnd

/-- One tree in a list that ends with it where it is broken. -/
def Step.cons {α : Type} (first : α) (rest : Step (List α)) : Step (List α) :=
  (first :: rest.1, rest.2)

/-- A list that ends with a fault. -/
def brokenItems (ts : Tokens) (expected : String) : Step (List Tree) :=
  ([.broken (ts.broken expected)], none)

/-- Entries that end with a fault. -/
def brokenEntries (ts : Tokens) (expected : String) : Step (List (Tree × Tree)) :=
  ([(.broken (ts.broken expected), .broken (ts.broken expected))], none)

mutual

/-- Reads a node. In a `block`, collections may be shown by indentation, and with `openItems` a
sequence need not be indented. Each call uses up one unit of `fuel`; no more than four calls come
between two tokens. -/
def readNode (g : Handles) (block openItems : Bool) (ts : Tokens) : Nat → Step Tree
  | 0 => (.broken (ts.broken "expected node content"), none)
  | fuel + 1 =>
    match ts.kind? with
    | some (.alias name) => (.alias ts.mark name, some ts.tail)
    | _ =>
      let mark := ts.mark
      match readProperties g ts with
      | .error fault => (.broken fault, none)
      | .ok (ps, ts) =>
        match ts.kind? with
        | some (.scalar style text) => (.scalar mark ps style text, some ts.tail)
        | some .flowSequenceStart =>
          let (items, rest) := readFlowItems g true ts.tail fuel
          (.sequence mark ps items, rest)
        | some .flowMappingStart =>
          let (entries, rest) := readFlowEntries g true ts.tail fuel
          (.mapping mark ps entries, rest)
        | some .blockEntry =>
          if openItems then
            let (items, rest) := readOpenItems g ts fuel
            (.sequence mark ps items, rest)
          else absent ps mark ts
        | some .blockSequenceStart =>
          if block then
            let (items, rest) := readBlockItems g ts.tail fuel
            (.sequence mark ps items, rest)
          else absent ps mark ts
        | some .blockMappingStart =>
          if block then
            let (entries, rest) := readBlockEntries g ts.tail fuel
            (.mapping mark ps entries, rest)
          else absent ps mark ts
        | _ => absent ps mark ts
where
  /-- A node of which there are only the properties. -/
  absent (ps : Properties) (mark : Mark) (ts : Tokens) : Step Tree :=
    if ts.list.isEmpty || (ps.anchor.isNone && ps.tag.isNone) then
      (.broken (ts.broken "expected node content"), none)
    else (.scalar mark ps .plain [], some ts)

/-- Reads a node unless the next token ends the part of a collection that it would be. -/
def readPart (g : Handles) (block openItems : Bool) (ends : TokenKind → Bool) (ts : Tokens) :
    Nat → Step Tree
  | 0 => (.broken (ts.broken "expected node content"), none)
  | fuel + 1 =>
    if ts.list.isEmpty then (.broken (ts.broken "expected node content"), none)
    else if ts.nextIs ends then (.empty ts.mark, some ts)
    else readNode g block openItems ts fuel

/-- Reads the items of a sequence in a block. -/
def readBlockItems (g : Handles) (ts : Tokens) : Nat → Step (List Tree)
  | 0 => brokenItems ts "expected '-' indicator"
  | fuel + 1 =>
    match ts.kind? with
    | some .blockEntry =>
      match readPart g true false endsBlockItem ts.tail fuel with
      | (item, none) => ([item], none)
      | (item, some ts) => Step.cons item (readBlockItems g ts fuel)
    | some .blockEnd => ([], some ts.tail)
    | _ => brokenItems ts "expected '-' indicator"

/-- Reads the items of a sequence that is not indented. -/
def readOpenItems (g : Handles) (ts : Tokens) : Nat → Step (List Tree)
  | 0 => brokenItems ts "expected '-' indicator"
  | fuel + 1 =>
    match ts.kind? with
    | some .blockEntry =>
      match readPart g true false endsOpenItem ts.tail fuel with
      | (item, none) => ([item], none)
      | (item, some ts) => Step.cons item (readOpenItems g ts fuel)
    | some _ => ([], some ts)
    | none => brokenItems ts "expected '-' indicator"

/-- Reads the entries of a mapping in a block. A key may stand without a value. -/
def readBlockEntries (g : Handles) (ts : Tokens) : Nat → Step (List (Tree × Tree))
  | 0 => brokenEntries ts "expected key"
  | fuel + 1 =>
    match ts.kind? with
    | some .blockEnd => ([], some ts.tail)
    | some .key =>
      match readPart g true true endsBlockPart ts.tail fuel with
      | (key, none) => ([(key, key)], none)
      | (key, some ts) =>
        match readBlockValue g ts fuel with
        | (value, none) => ([(key, value)], none)
        | (value, some ts) => Step.cons (key, value) (readBlockEntries g ts fuel)
    | _ => brokenEntries ts "expected key"

/-- Reads the value of an entry in a block. -/
def readBlockValue (g : Handles) (ts : Tokens) : Nat → Step Tree
  | 0 => (.broken (ts.broken "expected node content"), none)
  | fuel + 1 =>
    match ts.kind? with
    | some .value => readPart g true true endsBlockPart ts.tail fuel
    | some _ => (.empty ts.mark, some ts)
    | none => (.broken (ts.broken "expected node content"), none)

/-- Reads the items between brackets. -/
def readFlowItems (g : Handles) (first : Bool) (ts : Tokens) : Nat → Step (List Tree)
  | 0 => brokenItems ts "expected ',' or ']'"
  | fuel + 1 =>
    match ts.kind? with
    | none => brokenItems ts "expected ',' or ']'"
    | some .flowSequenceEnd => ([], some ts.tail)
    | some kind =>
      if !first && kind != .flowEntry then brokenItems ts "expected ',' or ']'"
      else
        let ts := if first then ts else ts.tail
        match ts.kind? with
        | none => brokenItems ts "expected ',' or ']'"
        | some .flowSequenceEnd => ([], some ts.tail)
        | some .key =>
          match readPair g ts.tail fuel with
          | (entries, none) => ([.mapping ts.mark .none entries], none)
          | (entries, some ts') =>
            Step.cons (.mapping ts.mark .none entries) (readFlowItems g false ts' fuel)
        | some _ =>
          match readNode g false false ts fuel with
          | (item, none) => ([item], none)
          | (item, some ts) => Step.cons item (readFlowItems g false ts fuel)

/-- Reads the one entry of a mapping that is an item between brackets. Where the key is missing,
the token that ends it is passed over. -/
def readPair (g : Handles) (ts : Tokens) : Nat → Step (List (Tree × Tree))
  | 0 => brokenEntries ts "expected node content"
  | fuel + 1 =>
    let (key, rest) :=
      if ts.nextIs endsPairKey then (Tree.empty ts.mark, some ts.tail)
      else if ts.list.isEmpty then (.broken (ts.broken "expected node content"), none)
      else readNode g false false ts fuel
    match rest with
    | none => ([(key, key)], none)
    | some ts =>
      match ts.kind? with
      | none => ([(key, .broken (ts.broken "expected node content"))], none)
      | some .value =>
        let (value, rest) := readPart g false false endsPairValue ts.tail fuel
        match rest with
        | none => ([(key, value)], none)
        | some ts =>
          if ts.list.isEmpty then ((key, value) :: (brokenEntries ts "expected ',' or ']'").1, none)
          else ([(key, value)], some ts)
      | some _ => ([(key, .empty ts.mark)], some ts)

/-- Reads the entries between braces. -/
def readFlowEntries (g : Handles) (first : Bool) (ts : Tokens) : Nat → Step (List (Tree × Tree))
  | 0 => brokenEntries ts "expected ',' or '\x7d'"
  | fuel + 1 =>
    match ts.kind? with
    | none => brokenEntries ts "expected ',' or '\x7d'"
    | some .flowMappingEnd => ([], some ts.tail)
    | some kind =>
      if !first && kind != .flowEntry then brokenEntries ts "expected ',' or '\x7d'"
      else
        let ts := if first then ts else ts.tail
        match ts.kind? with
        | none => brokenEntries ts "expected ',' or '\x7d'"
        | some .flowMappingEnd => ([], some ts.tail)
        | some .key =>
          match readPart g false false endsFlowKey ts.tail fuel with
          | (key, none) => ([(key, key)], none)
          | (key, some ts) =>
            match readFlowValue g ts fuel with
            | (value, none) => ([(key, value)], none)
            | (value, some ts) => Step.cons (key, value) (readFlowEntries g false ts fuel)
        | some _ =>
          match readNode g false false ts fuel with
          | (key, none) => ([(key, key)], none)
          | (key, some ts) =>
            if ts.list.isEmpty then
              ([(key, .broken (ts.broken "expected ',' or '\x7d'"))], none)
            else Step.cons (key, .empty ts.mark) (readFlowEntries g false ts fuel)

/-- Reads the value of an entry between braces. -/
def readFlowValue (g : Handles) (ts : Tokens) : Nat → Step Tree
  | 0 => (.broken (ts.broken "expected node content"), none)
  | fuel + 1 =>
    match ts.kind? with
    | some .value => readPart g false false endsFlowValue ts.tail fuel
    | some _ => (.empty ts.mark, some ts)
    | none => (.broken (ts.broken "expected node content"), none)

end

end ConfigResolver.Yaml
