import ConfigResolver.Resolver.Substitution
import ConfigResolver.Value.Basic

/-!
# Resolving a document

Every text of a document is resolved, in the order of the document; all else stays as it is. The
first failure ends the run, and it names the place of the text in the document: keys joined by
dots, positions in brackets.
-/

namespace ConfigResolver.Resolver

variable {σ : Type}

/-- The place of an item of a sequence. -/
def itemPath (path : String) (index : Nat) : String := s!"{path}[{index}]"

/-- The place of an entry of a mapping. -/
def entryPath (path key : String) : String := if path.isEmpty then key else s!"{path}.{key}"

mutual

/-- The node at a place, resolved. -/
def walk (r : Resolver σ) (env : Environment) (path : String) : Value → Run σ Value
  | .string s => Run.mapError (·.orPath path) (Value.string <$> r.resolveString env s)
  | .sequence items => Value.sequence <$> walkItems r env path 0 items
  | .mapping entries => Value.mapping <$> walkEntries r env path [] entries
  | other => pure other

/-- The items of the sequence at a place, resolved, from a position on. -/
def walkItems (r : Resolver σ) (env : Environment) (path : String) (index : Nat) :
    List Value → Run σ (List Value)
  | [] => pure []
  | item :: rest => do
    let item ← walk r env (itemPath path index) item
    let rest ← walkItems r env path (index + 1) rest
    pure (item :: rest)

/-- The entries of the mapping at a place, resolved and bound one after the other in the mapping
built so far. -/
def walkEntries (r : Resolver σ) (env : Environment) (path : String)
    (built : List (String × Value)) : List (String × Value) → Run σ (List (String × Value))
  | [] => pure built
  | (key, value) :: rest => do
    let value ← walk r env (entryPath path key) value
    walkEntries r env path (Value.insertEntry key value built) rest

end

/-- The node under a top-level key, or the whole document where there is no such key. -/
def select (value : Value) (key : Option String) : Value :=
  (key.bind value.get?).getD value

/-- The document with the node under one top-level key resolved, or all of it where there is no
such key. -/
def resolveUnder (r : Resolver σ) (env : Environment) (doc : Value) (key : String) :
    Run σ Value :=
  match doc with
  | .mapping entries =>
    match entries.lookup key with
    | some node => do
      let node ← r.walk env key node
      pure (.mapping (Value.insertEntry key node entries))
    | none => do
      Run.log (.keyAbsent key)
      r.walk env "" doc
  | _ => r.walk env "" doc

/-- The document resolved. With `resolveKey` only the node under that key is, with `returnKey`
only the node under that key is answered. -/
def resolveDocument (r : Resolver σ) (env : Environment) (doc : Value)
    (resolveKey returnKey : Option String) : Run σ Value := do
  let resolved ← match resolveKey with
    | some key => r.resolveUnder env doc key
    | none => r.walk env "" doc
  pure (select resolved returnKey)

end ConfigResolver.Resolver
