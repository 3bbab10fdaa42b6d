import ConfigResolver.Loading
import ConfigResolver.Resolver.Document

/-!
# Resolving a file

The document in a file is loaded, which is reported, and resolved.
-/

namespace ConfigResolver.Resolver

variable {σ : Type}

/-- The document that loading a file came to, resolved. -/
def resolveLoaded (r : Resolver σ) (env : Environment) (path : String)
    (loaded : Except Error Value) (resolveKey returnKey : Option String) : Run σ Value := do
  let doc ← Run.ofExcept loaded
  Run.log (.loaded path doc.typeName)
  r.resolveDocument env doc resolveKey returnKey

/-- The document in a file, resolved. -/
def resolveFile (r : Resolver σ) (env : Environment) (files : Files) (path : String)
    (resolveKey returnKey : Option String) : Run σ Value :=
  r.resolveLoaded env path (files.load path) resolveKey returnKey

end ConfigResolver.Resolver
