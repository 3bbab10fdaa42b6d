import ConfigResolver.Resolver.Basic
import ConfigResolver.Text.Quoted

/-!
# Showing a resolver

Messages for developers show the options of a resolver field by field. Of its store they show only
whether there is one.
-/

namespace ConfigResolver

/-- A record as messages for developers show it. -/
def inspectRecord (name : String) (fields : List (String × String)) : String :=
  name ++ " \x7b " ++
    String.intercalate ", " (fields.map fun (field, text) ↦ field ++ ": " ++ text) ++ " \x7d"

/-- The options as messages for developers show them. -/
def Options.inspect (o : Options) : String :=
  inspectRecord "ResolverOptions" [
    ("root_paths", Text.quoteAll o.rootPaths),
    ("default_value", Text.quote? o.defaultValue),
    ("skip_remote", toString o.skipRemote),
    ("region", Text.quote o.region),
    ("endpoint", Text.quote? o.endpoint),
    ("profile", Text.quote? o.profile),
    ("max_substitutions", toString o.maxSubstitutions)]

/-- A resolver as messages for developers show it. -/
def Resolver.inspect {σ : Type} (r : Resolver σ) : String :=
  inspectRecord "Resolver" [
    ("options", r.options.inspect),
    ("store", Text.quote? (r.store.map fun _ ↦ "<store>"))]

end ConfigResolver
