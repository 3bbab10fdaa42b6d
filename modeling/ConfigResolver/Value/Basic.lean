import ConfigResolver.Binary64.Basic

/-!
# Documents

A document is a tree of scalars, sequences and mappings. The entries of a mapping keep their
order; `Value.Distinct` says that no key occurs twice in one mapping, which holds of every
document that is loaded. `Value.same` compares documents up to the order of mapping entries.
-/

namespace ConfigResolver

/-- A node of a document. -/
inductive Value where
  /-- Nothing. -/
  | null
  /-- A truth value. -/
  | bool (b : Bool)
  /-- A whole number. -/
  | integer (i : Int64)
  /-- A floating point number. -/
  | float (x : Binary64)
  /-- A text, which may hold placeholders. -/
  | string (s : String)
  /-- Some nodes in order. -/
  | sequence (items : List Value)
  /-- Keys with nodes, in order. -/
  | mapping (entries : List (String × Value))
deriving Repr, Inhabited

namespace Value

/-- Whether a node is null. -/
def isNull : Value → Bool
  | null => true
  | _ => false

/-- The text of a text node. -/
def asString? : Value → Option String
  | string s => some s
  | _ => none

/-- The items of a sequence. -/
def items? : Value → Option (List Value)
  | sequence items => some items
  | _ => none

/-- The entries of a mapping. -/
def entries? : Value → Option (List (String × Value))
  | mapping entries => some entries
  | _ => none

/-- The node under a key of a mapping. -/
def get? (v : Value) (key : String) : Option Value := v.entries?.bind (·.lookup key)

/-- What messages call a node. -/
def typeName : Value → String
  | null => "null"
  | bool _ => "boolean"
  | integer _ => "integer"
  | float _ => "float"
  | string _ => "string"
  | sequence _ => "sequence"
  | mapping _ => "mapping"

/-- Entries with a key bound to a node: in the place of the entry with that key, or at the end. -/
def insertEntry (key : String) (value : Value) : List (String × Value) → List (String × Value)
  | [] => [(key, value)]
  | (k, v) :: rest =>
    if k = key then (k, value) :: rest else (k, v) :: insertEntry key value rest

/-- The mapping that binding the given pairs one after the other builds. -/
def ofPairs (pairs : List (String × Value)) : Value :=
  mapping (pairs.foldl (fun entries (k, v) ↦ insertEntry k v entries) [])

mutual

/-- Equality up to the order of mapping entries, with numbers compared as values. -/
def same : Value → Value → Bool
  | null, null => true
  | bool b, bool c => b == c
  | integer i, integer j => i == j
  | float x, float y => x.same y
  | string s, string t => s == t
  | sequence xs, sequence ys => sameItems xs ys
  | mapping xs, mapping ys => xs.length == ys.length && sameEntries xs ys
  | _, _ => false

/-- Equality item by item. -/
def sameItems : List Value → List Value → Bool
  | [], [] => true
  | x :: xs, y :: ys => same x y && sameItems xs ys
  | _, _ => false

/-- Whether each of some entries equals the entry with its key among others. -/
def sameEntries : List (String × Value) → List (String × Value) → Bool
  | [], _ => true
  | (k, v) :: xs, ys =>
    (match ys.lookup k with
      | some w => same v w
      | none => false) && sameEntries xs ys

end

mutual

/-- No key occurs twice in a mapping, at any depth. -/
def Distinct : Value → Prop
  | sequence items => DistinctItems items
  | mapping entries => (entries.map Prod.fst).Nodup ∧ DistinctEntries entries
  | _ => True

/-- No key occurs twice in a mapping of the items. -/
def DistinctItems : List Value → Prop
  | [] => True
  | x :: xs => Distinct x ∧ DistinctItems xs

/-- No key occurs twice in a mapping under the entries. -/
def DistinctEntries : List (String × Value) → Prop
  | [] => True
  | (_, v) :: xs => Distinct v ∧ DistinctEntries xs

end

end Value

end ConfigResolver
