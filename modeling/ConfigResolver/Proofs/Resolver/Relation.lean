import ConfigResolver.Proofs.Loading
import ConfigResolver.Proofs.Resolver.Operation
import ConfigResolver.Proofs.Run

/-!
# Two resolvers side by side

Two resolvers differ in what they look up. What they make of it is the same: texts are searched for
placeholders, documents are walked, and errors are given a place. A `Run.Relation` relates runs of
the one to runs of the other and is kept by all of these steps. So if it relates their lookups it
relates the runs in which they resolve texts, documents and files (`Related.resolveString`,
`Related.resolveDocument`, `Related.resolveFile`), and if it relates their listings too it relates
all that they can be asked for (`Related.perform`).

A relation need not look at both of its sides. One that looks at the first only is a property of
runs, which all runs of a resolver have if its lookups have it.
-/

namespace ConfigResolver

/-- A relation between runs over two kinds of stores that is kept where runs are put together.
Nothing is asked of it for a run that asks a store. -/
structure Run.Relation (σ τ : Type) where
  /-- The relation. -/
  Holds : {α : Type} → Run σ α → Run τ α → Prop
  /-- It holds between runs that end at once in the same value. -/
  pure : ∀ {α : Type} (a : α), Holds (Pure.pure a) (Pure.pure a)
  /-- It holds between runs that report the same. -/
  log : ∀ record, Holds (Run.log record) (Run.log record)
  /-- It holds between runs that end at once, as a file cannot be loaded. -/
  file : ∀ {α : Type} {e : Error}, e.isOfFile → Holds (Run.fail e : Run σ α) (Run.fail e)
  /-- It holds between runs that end at once, as a text takes too many substitutions. -/
  limit : ∀ {α : Type} (limit : Nat) (last : String),
    Holds (Run.fail (.substitutionLimit limit last) : Run σ α)
      (Run.fail (.substitutionLimit limit last))
  /-- It is kept by what follows. -/
  bind : ∀ {α β : Type} {x : Run σ α} {y : Run τ α} {f : α → Run σ β} {g : α → Run τ β},
    Holds x y → (∀ a, Holds (f a) (g a)) → Holds (x >>= f) (y >>= g)
  /-- It is kept where an error is given a place. -/
  orPath : ∀ {α : Type} {x : Run σ α} {y : Run τ α} (path : String), Holds x y →
    Holds (Run.mapError (·.orPath path) x) (Run.mapError (·.orPath path) y)

variable {σ τ : Type} {R : Run.Relation σ τ}

theorem Run.Relation.map {α β : Type} {x : Run σ α} {y : Run τ α} (R : Run.Relation σ τ)
    (f : α → β) (h : R.Holds x y) : R.Holds (f <$> x) (f <$> y) := by
  rw [map_eq_pure_bind, map_eq_pure_bind]
  exact R.bind h fun a ↦ R.pure (f a)

/-- That the first run has the same result and the same events from every state of the store. -/
def Run.Relation.steady (σ : Type) : Run.Relation σ σ where
  Holds x _ := x.Steady
  pure a := .pure a
  log record := .log record
  file _ := .fail _
  limit _ _ := .fail _
  bind hx hf := hx.bind hf
  orPath _ hx := hx.mapError _

namespace Resolver

/-- With the same default in the options, a token without a value is related if being without any
default is. -/
theorem holds_fallbackOr (R : Run.Relation σ τ) {r : Resolver σ} {r' : Resolver τ}
    (hdefault : r.options.defaultValue = r'.options.defaultValue) {missing : Error}
    (hmissing : R.Holds (Run.fail missing : Run σ (List Char)) (Run.fail missing)) (key : String)
    (inline : Option (List Char)) :
    R.Holds (r.fallbackOr key inline missing) (r'.fallbackOr key inline missing) := by
  unfold fallbackOr fallback
  rw [hdefault]
  cases inline with
  | some text =>
    simp only [pure_bind]
    exact R.pure text
  | none =>
    cases r'.options.defaultValue with
    | some text =>
      simp only [bind_assoc, pure_bind]
      exact R.bind (R.log _) fun _ ↦ R.pure _
    | none =>
      simp only [pure_bind]
      exact hmissing

/-- The lookups of two resolvers are related, and a text may take as many substitutions with the
one as with the other. -/
structure Related (R : Run.Relation σ τ) (r : Resolver σ) (r' : Resolver τ) (env : Environment) :
    Prop where
  /-- The limits are the same. -/
  limit : r.options.maxSubstitutions = r'.options.maxSubstitutions
  /-- The lookups of each token are related. -/
  lookup : ∀ t, R.Holds (r.lookup env t) (r'.lookup env t)

namespace Related

variable {r : Resolver σ} {r' : Resolver τ} {env : Environment}

theorem substituteAll (h : Related R r r' env) (budget : Nat) (s : List Char) :
    R.Holds (r.substituteAll env budget s) (r'.substituteAll env budget s) := by
  induction budget generalizing s with
  | zero =>
    unfold Resolver.substituteAll
    rw [h.limit]
    split
    · exact R.limit _ _
    · exact R.pure s
  | succ budget ih =>
    unfold Resolver.substituteAll
    split
    · exact R.pure s
    · next p _ =>
      exact R.bind (h.lookup p.token) fun value ↦
        R.bind (R.log _) fun _ ↦ ih (p.substitute value)

theorem resolveString (h : Related R r r' env) (s : String) :
    R.Holds (r.resolveString env s) (r'.resolveString env s) := by
  unfold Resolver.resolveString resolveText
  rw [← h.limit]
  exact R.map _ (h.substituteAll _ _)

mutual

/-- Both resolve the same texts of a node in the same order. -/
theorem walk (h : Related R r r' env) (path : String) :
    (v : Value) → R.Holds (r.walk env path v) (r'.walk env path v)
  | .string s => by
    simp only [Resolver.walk]
    exact R.orPath path (R.map _ (h.resolveString s))
  | .sequence items => by
    simp only [Resolver.walk]
    exact R.map _ (walkItems h path 0 items)
  | .mapping entries => by
    simp only [Resolver.walk]
    exact R.map _ (walkEntries h path [] entries)
  | .null | .bool _ | .integer _ | .float _ => by
    simp only [Resolver.walk]
    exact R.pure _

theorem walkItems (h : Related R r r' env) (path : String) (index : Nat) :
    (items : List Value) →
      R.Holds (r.walkItems env path index items) (r'.walkItems env path index items)
  | [] => by
    simp only [Resolver.walkItems]
    exact R.pure _
  | item :: rest => by
    simp only [Resolver.walkItems]
    exact R.bind (walk h _ item) fun _ ↦
      R.bind (walkItems h path (index + 1) rest) fun _ ↦ R.pure _

theorem walkEntries (h : Related R r r' env) (path : String) (built : List (String × Value)) :
    (entries : List (String × Value)) →
      R.Holds (r.walkEntries env path built entries) (r'.walkEntries env path built entries)
  | [] => by
    simp only [Resolver.walkEntries]
    exact R.pure _
  | (key, value) :: rest => by
    simp only [Resolver.walkEntries]
    exact R.bind (walk h _ value) fun _ ↦ walkEntries h path _ rest

end

theorem resolveUnder (h : Related R r r' env) (doc : Value) (key : String) :
    R.Holds (r.resolveUnder env doc key) (r'.resolveUnder env doc key) := by
  unfold Resolver.resolveUnder
  split
  · split
    · exact R.bind (h.walk key _) fun _ ↦ R.pure _
    · exact R.bind (R.log _) fun _ ↦ h.walk "" _
  · exact h.walk "" doc

theorem resolveDocument (h : Related R r r' env) (doc : Value)
    (resolveKey returnKey : Option String) :
    R.Holds (r.resolveDocument env doc resolveKey returnKey)
      (r'.resolveDocument env doc resolveKey returnKey) := by
  unfold Resolver.resolveDocument
  cases resolveKey with
  | none => exact R.bind (h.walk "" doc) fun _ ↦ R.pure _
  | some key => exact R.bind (h.resolveUnder doc key) fun _ ↦ R.pure _

/-- A file is loaded before any resolver has a say. -/
theorem resolveFile (h : Related R r r' env) (files : Files) (path : String)
    (resolveKey returnKey : Option String) :
    R.Holds (r.resolveFile env files path resolveKey returnKey)
      (r'.resolveFile env files path resolveKey returnKey) := by
  unfold Resolver.resolveFile resolveLoaded
  cases hload : files.load path with
  | error e =>
    rw [Run.ofExcept_error, Run.ofExcept_error, Run.fail_bind, Run.fail_bind]
    exact R.file (isOfFile_of_load hload)
  | ok doc =>
    rw [Run.ofExcept_ok, Run.ofExcept_ok, pure_bind, pure_bind]
    exact R.bind (R.log _) fun _ ↦ h.resolveDocument doc resolveKey returnKey

/-- A parameter that is asked for by its key is looked up as that of a token without a default. -/
theorem getParameter (h : Related R r r' env) (key : String) :
    R.Holds (r.getParameter key) (r'.getParameter key) := by
  have hlookup := h.lookup ⟨.parameterStore, key.toList, none⟩
  simp only [Resolver.lookup, String.ofList_toList] at hlookup
  exact R.map _ hlookup

/-- Listings look nothing up, so they have to be related on their own. -/
theorem perform (h : Related R r r' env)
    (hlisting : ∀ pages path, R.Holds (r.listParameters pages path) (r'.listParameters pages path))
    (op : Operation) : R.Holds (r.perform env op) (r'.perform env op) := by
  cases op with
  | document doc resolveKey returnKey => exact R.map _ (h.resolveDocument doc resolveKey returnKey)
  | file files path resolveKey returnKey =>
    exact R.map _ (h.resolveFile files path resolveKey returnKey)
  | text s => exact R.map _ (h.resolveString s)
  | parameter key => exact R.map _ (h.getParameter key)
  | listing pages path => exact R.map _ (hlisting pages path)

end Related

end Resolver

end ConfigResolver
