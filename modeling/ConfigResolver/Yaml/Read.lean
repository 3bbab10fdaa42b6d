import ConfigResolver.Yaml.Alias

/-!
# Reading YAML

A text holds one document: directives, a line that starts it, a node, and a line that ends it, all
of which may be missing. A text without any node is null.
-/

namespace ConfigResolver.Yaml

/-- What stands in front of the node of a document. -/
structure Preamble where
  /-- Whether the version was given. -/
  versioned : Bool
  /-- What handles stand for. -/
  handles : Handles

/-- Reads directives behind those that are known. -/
def readDirectives (p : Preamble) (fault : Option Fault) :
    List Token → Except Fault (Preamble × Tokens)
  | ⟨mark, .versionDirective major minor⟩ :: rest =>
    if p.versioned then .error ⟨.malformed "one %YAML directive only", some mark⟩
    else if major ≠ 1 || (minor ≠ 1 && minor ≠ 2) then
      .error ⟨.malformed "a compatible version", some mark⟩
    else readDirectives { p with versioned := true } fault rest
  | ⟨mark, .tagDirective handle expansion⟩ :: rest =>
    if (p.handles.lookup handle).isSome then
      .error ⟨.malformed "one %TAG directive for a handle only", some mark⟩
    else readDirectives { p with handles := p.handles ++ [(handle, expansion)] } fault rest
  | rest => .ok (p, ⟨rest, fault⟩)

/-- What ends a document that has no node. -/
def endsDocument (k : TokenKind) : Bool :=
  k matches .versionDirective .. | .tagDirective .. | .documentStart | .documentEnd | .streamEnd

/-- The node of a document, and the tokens behind it. -/
def readRoot (handles : Handles) (ts : Tokens) : Tree × Option Tokens :=
  readNode handles true false ts (4 * ts.list.length + 8)

/-- The node of the first document, and the tokens behind it. A document that is not the first one
would need the line that starts it. -/
def readDocument (ts : Tokens) : Tree × Option Tokens :=
  if ts.nextIs fun k ↦ k matches .versionDirective .. | .tagDirective .. | .documentStart then
    match readDirectives ⟨false, []⟩ ts.fault ts.list with
    | .error fault => (.broken fault, none)
    | .ok (p, ts) =>
      match ts.kind? with
      | some .documentStart =>
        let ts := ts.tail
        if ts.list.isEmpty then (.broken (ts.broken "expected node content"), none)
        else if ts.nextIs endsDocument then (.empty ts.mark, some ts)
        else readRoot (p.handles ++ standardHandles) ts
      | _ => (.broken (ts.broken "expected <document start>"), none)
  else readRoot standardHandles ts

/-- What is wrong behind the first document: the fault of the tokens right behind it, or anything
but the end of the text behind the lines that end it. -/
def trailingFault (ts : Tokens) : Option Fault :=
  match ts.list with
  | [] => some (ts.broken "expected the end of the document")
  | _ =>
    match ts.list.dropWhile (·.kind == .documentEnd) with
    | ⟨_, .streamEnd⟩ :: _ => none
    | _ => some ⟨.moreThanOneDocument, none⟩

/-- What a text holds. -/
def read (text : List Char) : Reading :=
  let (list, fault) := tokensOf text
  let ts : Tokens := ⟨list, fault⟩
  if ts.list.isEmpty then ⟨.broken (ts.broken "expected <stream-start>"), none⟩
  else if ts.nextIs (· == .streamEnd) then ⟨.null, none⟩
  else
    match readDocument ts with
    | (tree, none) => ⟨tree.toNode, none⟩
    | (tree, some ts) => ⟨tree.toNode, trailingFault ts⟩

end ConfigResolver.Yaml
