import ConfigResolver.Resolver.File
import ConfigResolver.Resolver.Listing

/-!
# What a resolver can be asked for

An `Operation` is a question to a resolver with all its arguments, and `perform` is the run that
answers it. `performAll` asks one question after the other.
-/

namespace ConfigResolver.Resolver

variable {σ : Type}

/-- A question to a resolver. -/
inductive Operation where
  /-- To resolve a document. -/
  | document (doc : Value) (resolveKey returnKey : Option String)
  /-- To resolve the document in a file. -/
  | file (files : Files) (path : String) (resolveKey returnKey : Option String)
  /-- To resolve a text. -/
  | text (s : String)
  /-- To look up a parameter. -/
  | parameter (key : String)
  /-- To list parameters, reading at most so many pages of a path. -/
  | listing (pages : Nat) (path : Option String)

/-- The answer to a question. -/
inductive Answer where
  /-- A document. -/
  | document (v : Value)
  /-- A text. -/
  | text (s : String)
  /-- The parameters of a listing, unless it has more pages than were to be read. -/
  | parameters (ps : Option (List Parameter))

/-- The run that answers a question. -/
def perform (r : Resolver σ) (env : Environment) : Operation → Run σ Answer
  | .document doc resolveKey returnKey =>
    .document <$> r.resolveDocument env doc resolveKey returnKey
  | .file files path resolveKey returnKey =>
    .document <$> r.resolveFile env files path resolveKey returnKey
  | .text s => .text <$> r.resolveString env s
  | .parameter key => .text <$> r.getParameter key
  | .listing pages path => .parameters <$> r.listParameters pages path

/-- What questions come to that are asked one after the other. Each finds the store as the one
before it left it; one that fails does not keep the next from being asked. -/
def performAll (r : Resolver σ) (env : Environment) : List Operation → σ → List (Outcome σ Answer)
  | [], _ => []
  | op :: ops, s =>
    let out := r.perform env op s
    out :: r.performAll env ops out.store

end ConfigResolver.Resolver
