import ConfigResolver.Binary64.Layout
import ConfigResolver.Error
import ConfigResolver.Value.Basic

/-!
# Node trees

What a reader makes of a text: a tree whose mapping keys are nodes of any kind. Where the text is
wrong the tree has a broken leaf, so a fault that stands earlier in the text is found first.
`Node.toValue` turns a tree into a document: keys become texts, and a key that is no scalar or
occurs twice is a fault.
-/

namespace ConfigResolver

/-- A place in a text, counted from zero. -/
structure Mark where
  /-- The characters before it. -/
  index : Nat
  /-- The lines before it. -/
  line : Nat
  /-- The characters before it in its line. -/
  column : Nat
deriving DecidableEq, Repr, Inhabited

/-- Why a text is no document. -/
inductive Reason where
  /-- A key occurs twice in a mapping. -/
  | duplicateKey (key : String)
  /-- A key is a sequence or a mapping. -/
  | keyNotScalar
  /-- The text breaks the grammar. -/
  | malformed (expected : String)
  /-- A number, or a scalar with a type, is none of that type. -/
  | badScalar (expected : String)
  /-- A tag that no type is known for. -/
  | unknownTag
  /-- An alias of a node that has not been named. -/
  | unknownAnchor
  /-- Collections are nested too deeply. -/
  | tooDeep
  /-- Aliases unfold to far more than was written. -/
  | tooManyAliases
  /-- The text goes on after the document. -/
  | moreThanOneDocument
deriving DecidableEq, Repr

namespace Reason

/-- What the user sees. -/
def message : Reason → String
  | duplicateKey key => "duplicate mapping key \x60" ++ key ++ "\x60"
  | keyNotScalar => "a mapping key is not a scalar"
  | malformed expected => s!"did not find {expected}"
  | badScalar expected => s!"a scalar is not {expected}"
  | unknownTag => "a tag is not known"
  | unknownAnchor => "an alias is not known"
  | tooDeep => "recursion limit exceeded"
  | tooManyAliases => "repetition limit exceeded"
  | moreThanOneDocument => "more than one document"

end Reason

/-- A fault of a text. -/
structure Fault where
  /-- What is wrong. -/
  reason : Reason
  /-- Where, if the reader keeps track of places. -/
  mark : Option Mark
deriving DecidableEq, Repr

namespace Fault

/-- The error of a fault. Lines and columns are counted from one; a text has no file. -/
def toError (fault : Fault) : Error :=
  let e := Error.parse fault.reason.message
  match fault.mark with
  | none => e
  | some mark => e.withLocation ⟨"", some (mark.line + 1), some (mark.column + 1)⟩

end Fault

/-- A node as it was read. -/
inductive Node where
  /-- Nothing. -/
  | null
  /-- A truth value. -/
  | bool (b : Bool)
  /-- A whole number that is read as a signed word. -/
  | int (i : Int64)
  /-- A whole number that is read as an unsigned word. -/
  | uint (u : UInt64)
  /-- A floating point number. -/
  | float (x : Binary64)
  /-- A text. -/
  | string (s : String)
  /-- Some nodes in order. -/
  | sequence (mark : Option Mark) (items : List Node)
  /-- Pairs of nodes in order. -/
  | mapping (mark : Option Mark) (entries : List (Node × Node))
  /-- Where reading stopped. -/
  | broken (fault : Fault)
deriving Repr, Inhabited

namespace Node

/-- The text of a node as a mapping key. -/
def keyText : Node → Except Fault String
  | null => .ok "null"
  | bool b => .ok (if b then "true" else "false")
  | int i => .ok (toString i.toInt)
  | uint u => .ok (toString u.toNat)
  | float x => .ok (String.ofList (Binary64.keyLayout.text x))
  | string s => .ok s
  | sequence mark _ | mapping mark _ => .error ⟨.keyNotScalar, mark⟩
  | broken fault => .error fault

/-- An unsigned word as a node of a document: a floating point number where it is no signed
word. -/
def ofUnsigned (u : UInt64) : Value :=
  if u.toNat < Nat.pow 2 63 then .integer (Int64.ofNat u.toNat) else .float (Binary64.ofNat u.toNat)

mutual

/-- The document that a tree stands for, or its first fault. -/
def toValue : Node → Except Fault Value
  | null => .ok .null
  | bool b => .ok (.bool b)
  | int i => .ok (.integer i)
  | uint u => .ok (ofUnsigned u)
  | float x => .ok (.float x)
  | string s => .ok (.string s)
  | sequence _ items => do return .sequence (← toItems items)
  | mapping mark entries => do return .mapping (← toEntries mark [] entries)
  | broken fault => .error fault

/-- The items of a sequence. -/
def toItems : List Node → Except Fault (List Value)
  | [] => .ok []
  | item :: rest => do
    let item ← toValue item
    let rest ← toItems rest
    return item :: rest

/-- The entries of a mapping, behind those whose keys are `seen`. -/
def toEntries (mark : Option Mark) (seen : List String) :
    List (Node × Node) → Except Fault (List (String × Value))
  | [] => .ok []
  | (key, value) :: rest => do
    let key ← keyText key
    if key ∈ seen then
      .error ⟨.duplicateKey key, mark⟩
    else do
      let value ← toValue value
      let rest ← toEntries mark (key :: seen) rest
      return (key, value) :: rest

end

mutual

/-- The first broken leaf of a tree. -/
def fault? : Node → Option Fault
  | sequence _ items => itemFault? items
  | mapping _ entries => entryFault? entries
  | broken fault => some fault
  | _ => none

/-- The first broken leaf of some items. -/
def itemFault? : List Node → Option Fault
  | [] => none
  | item :: rest => (fault? item).or (itemFault? rest)

/-- The first broken leaf of some entries. -/
def entryFault? : List (Node × Node) → Option Fault
  | [] => none
  | (key, value) :: rest => ((fault? key).or (fault? value)).or (entryFault? rest)

end

end Node

/-- What a reader makes of a whole text: the tree of its document, and what is wrong with the text
behind it. -/
structure Reading where
  /-- The tree of the document. -/
  node : Node
  /-- The fault behind the document. -/
  trailing : Option Fault
deriving Repr, Inhabited

namespace Reading

/-- The tree of a text without faults. Keys need not be texts and may occur twice. -/
def tree? (r : Reading) : Option Node :=
  if (r.node.fault?.or r.trailing).isSome then none else some r.node

/-- The document of a text, or the first fault of the text. -/
def toValue (r : Reading) : Except Fault Value := do
  let value ← r.node.toValue
  match r.trailing with
  | some fault => .error fault
  | none => .ok value

end Reading

end ConfigResolver
