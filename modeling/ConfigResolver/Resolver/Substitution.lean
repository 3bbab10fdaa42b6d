import ConfigResolver.Placeholder.Find
import ConfigResolver.Resolver.Lookup

/-!
# Substituting in a text

The leftmost placeholder of a text is replaced by its value and the new text is searched again,
from its start, until no placeholder is left. A text may take only so many substitutions; if it
still holds a placeholder after them, that is an error.
-/

namespace ConfigResolver.Resolver

variable {σ : Type}

/-- Replaces placeholders, up to `budget` of them. -/
def substituteAll (r : Resolver σ) (env : Environment) :
    Nat → List Char → Run σ (List Char)
  | 0, s =>
    if Placeholder.occurs s then
      Run.fail (.substitutionLimit r.options.maxSubstitutions (String.ofList s))
    else pure s
  | budget + 1, s =>
    match Placeholder.find s with
    | none => pure s
    | some p => do
      let value ← r.lookup env p.token
      Run.log (.substituted p.token.source (String.ofList p.token.key))
      substituteAll r env budget (p.substitute value)

/-- The text with every placeholder replaced. -/
def resolveText (r : Resolver σ) (env : Environment) (s : List Char) : Run σ (List Char) :=
  r.substituteAll env r.options.maxSubstitutions s

/-- The text with every placeholder replaced. -/
def resolveString (r : Resolver σ) (env : Environment) (s : String) : Run σ String :=
  String.ofList <$> r.resolveText env s.toList

end ConfigResolver.Resolver
