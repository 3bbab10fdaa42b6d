import ConfigResolver.Proofs.Resolver.Listing
import ConfigResolver.Proofs.Resolver.Lookup
import ConfigResolver.Proofs.Resolver.Relation
import ConfigResolver.Proofs.Resolver.Roots

/-!
# Resolvers that ask no store

A resolver whose options switch the parameter store off takes a parameter's key for its value and
has no parameters to list. Neither its store nor its root paths are looked at, so two such resolvers
that differ in nothing else cannot be told apart. `Run.Detached` says so of one run of each,
`performAll_offline` of all that they are asked for.
-/

namespace ConfigResolver

/-- Whether an error is about the parameter store or about a key that cannot be asked for there. -/
def Error.isRemote (e : Error) : Bool :=
  e.kind matches .backendUnavailable _ | .backendOther _ | .keyNotQualified _

namespace Error

@[simp] theorem isRemote_orPath (e : Error) (path : String) :
    (e.orPath path).isRemote = e.isRemote := by
  rw [isRemote, kind_orPath]
  rfl

theorem isRemote_of_isOfFile {e : Error} (h : e.isOfFile) : e.isRemote = false := by
  obtain ⟨kind, path, location, help, cause⟩ := e
  cases kind with
  | backendUnavailable key | backendOther key | keyNotQualified key => cases h
  | _ => rfl

end Error

namespace Run

variable {σ τ α : Type}

/-- From all states of their stores both runs come to the same result with the same events, none of
which is a call, and leave the states as they are. An error has nothing to do with the store. -/
def Detached (x : Run σ α) (y : Run τ α) : Prop :=
  ∃ result events, callsOf events = [] ∧ (∀ e, result = .error e → e.isRemote = false) ∧
    (∀ s, x s = ⟨result, events, s⟩) ∧ ∀ t, y t = ⟨result, events, t⟩

namespace Detached

theorem pure (a : α) : Detached (Pure.pure a : Run σ α) (Pure.pure a : Run τ α) := by
  refine ⟨.ok a, [], rfl, ?_, fun _ ↦ rfl, fun _ ↦ rfl⟩
  rintro _ ⟨⟩

theorem log (record : Record) :
    Detached (Run.log record : Run σ Unit) (Run.log record : Run τ Unit) := by
  refine ⟨.ok (), [.log record], rfl, ?_, fun _ ↦ rfl, fun _ ↦ rfl⟩
  rintro _ ⟨⟩

theorem fail {e : Error} (h : e.isRemote = false) :
    Detached (Run.fail e : Run σ α) (Run.fail e : Run τ α) := by
  refine ⟨.error e, [], rfl, ?_, fun _ ↦ rfl, fun _ ↦ rfl⟩
  rintro _ ⟨⟩
  exact h

theorem bind {β : Type} {x : Run σ α} {y : Run τ α} {f : α → Run σ β} {g : α → Run τ β}
    (hxy : Detached x y) (hfg : ∀ a, Detached (f a) (g a)) : Detached (x >>= f) (y >>= g) := by
  obtain ⟨result, events, hcalls, herror, hx, hy⟩ := hxy
  cases result with
  | ok a =>
    obtain ⟨result', events', hcalls', herror', hf, hg⟩ := hfg a
    refine ⟨result', events ++ events', by simp [hcalls, hcalls'], herror', fun s ↦ ?_, fun t ↦ ?_⟩
    · rw [bind_of_ok (by rw [hx]), hx, hf]
    · rw [bind_of_ok (by rw [hy]), hy, hg]
  | error e =>
    refine ⟨.error e, events, hcalls, ?_, fun s ↦ ?_, fun t ↦ ?_⟩
    · rintro _ ⟨⟩
      exact herror e rfl
    · rw [bind_of_error (by rw [hx]), hx]
    · rw [bind_of_error (by rw [hy]), hy]

theorem orPath {x : Run σ α} {y : Run τ α} (path : String) (hxy : Detached x y) :
    Detached (Run.mapError (·.orPath path) x) (Run.mapError (·.orPath path) y) := by
  obtain ⟨result, events, hcalls, herror, hx, hy⟩ := hxy
  refine ⟨result.mapError (·.orPath path), events, hcalls, ?_, fun s ↦ ?_, fun t ↦ ?_⟩
  · cases result with
    | ok a =>
      rintro _ ⟨⟩
    | error e =>
      rintro _ ⟨⟩
      simpa using herror e rfl
  · rw [mapError_apply, hx]
  · rw [mapError_apply, hy]

end Detached

/-- That two runs are cut off from their stores and come to the same. -/
def Relation.detached (σ τ : Type) : Run.Relation σ τ where
  Holds := Detached
  pure := .pure
  log := .log
  file he := .fail (Error.isRemote_of_isOfFile he)
  limit _ _ := .fail rfl
  bind := .bind
  orPath := .orPath

end Run

namespace Resolver

variable {σ τ : Type} {r : Resolver σ} {r' : Resolver τ}

/-! ## Which resolvers these are -/

theorem skipRemote_of_offline {options : Options} (h : offline options = .ok r) :
    r.options.skipRemote = true := by
  obtain ⟨-, rfl⟩ := new_eq_ok_iff.1 h
  rfl

/-- Two resolvers made from the same options with different root paths differ in nothing else. -/
theorem options_of_new_of_new {options : Options} {roots : List String} {store : Option (Store σ)}
    {store' : Option (Store τ)} (h : new options store = .ok r)
    (h' : new { options with rootPaths := roots } store' = .ok r') :
    r'.options = { r.options with rootPaths := r'.options.rootPaths } := by
  obtain ⟨-, rfl⟩ := new_eq_ok_iff.1 h
  obtain ⟨-, rfl⟩ := new_eq_ok_iff.1 h'
  rfl

/-! ## Lookups and listings -/

section Skip

variable (hskip : r.options.skipRemote = true)
  (hoptions : r'.options = { r.options with rootPaths := r'.options.rootPaths })

include hskip hoptions

/-- A variable is looked up in the environment, and a parameter stands for its key. -/
theorem related_detached (env : Environment) : Related (.detached σ τ) r r' env where
  limit := (congrArg Options.maxSubstitutions hoptions).symm
  lookup t := by
    obtain ⟨source, key, inline⟩ := t
    cases source with
    | environment =>
      simp only [lookup, lookupVariable]
      cases env.lookup (String.ofList key) with
      | some text => exact .pure _
      | none =>
        exact holds_fallbackOr (.detached σ τ) (congrArg Options.defaultValue hoptions).symm
          (.fail rfl) _ _
    | parameterStore =>
      have hskip' : r'.options.skipRemote = true :=
        (congrArg Options.skipRemote hoptions).trans hskip
      simp only [lookup, lookupParameter_of_skip hskip, lookupParameter_of_skip hskip']
      exact .bind (.log _) fun _ ↦ .pure _

theorem detached_perform (env : Environment) (op : Operation) :
    (r.perform env op).Detached (r'.perform env op) := by
  have hskip' : r'.options.skipRemote = true := (congrArg Options.skipRemote hoptions).trans hskip
  refine (related_detached hskip hoptions env).perform (fun pages path ↦ ?_) op
  rw [listParameters_of_skip hskip, listParameters_of_skip hskip']
  exact .pure _

end Skip

/-! ## One operation after the other -/

/-- Offline means offline. Whatever a resolver that skips the parameter store is asked for, and
however often, it makes no call and no operation fails for the sake of the store. And a resolver
with any other store, or none, and any other root paths gives the same answers and does the same. -/
theorem performAll_offline (hskip : r.options.skipRemote = true)
    (hoptions : r'.options = { r.options with rootPaths := r'.options.rootPaths })
    (env : Environment) (ops : List Operation) (s : σ) (t : τ) :
    let outs := r.performAll env ops s
    let outs' := r'.performAll env ops t
    (∀ out ∈ outs, callsOf out.events = [] ∧ ∀ e, out.result = .error e → e.isRemote = false) ∧
      outs'.map (fun out ↦ (out.result, out.events)) =
        outs.map fun out ↦ (out.result, out.events) := by
  induction ops generalizing s t with
  | nil => exact ⟨List.forall_mem_nil _, rfl⟩
  | cons op ops ih =>
    obtain ⟨result, events, hcalls, herror, hr, hr'⟩ := detached_perform hskip hoptions env op
    obtain ⟨hrest, hsame⟩ := ih s t
    simp only [performAll, hr, hr', List.map_cons]
    exact ⟨List.forall_mem_cons.2 ⟨⟨hcalls, herror⟩, hrest⟩, by rw [hsame]⟩

/-- One resolver has no store and no root paths. The other has both, and its store would count the
calls. They answer a relative key with itself and give the same error for a variable. -/
theorem performAll_offline_counting :
    let store : Store Nat := ⟨fun _ n ↦ (.ok "1", n + 1), fun _ _ n ↦ (.ok ⟨[], none⟩, n + 1)⟩
    let options := Options.standard.withSkipRemote true
    let r : Resolver Unit := ⟨options, none⟩
    let r' : Resolver Nat := ⟨{ options with rootPaths := ["/a/"] }, some store⟩
    let ops := [.text "\x7b!SSM: x\x7d", .text "\x7b!ENV: X\x7d", .parameter "x", .listing 1 none]
    offline .standard = .ok r ∧ withStore { options with rootPaths := ["/a"] } store = .ok r' ∧
      (∀ out ∈ r.performAll .empty ops (), callsOf out.events = []) ∧
      (r'.performAll .empty ops 0).map (fun out ↦ (out.result, out.events)) =
        (r.performAll .empty ops ()).map fun out ↦ (out.result, out.events) := by
  intro store options r r' ops
  have hr : offline .standard = .ok r := rfl
  have hr' : withStore { options with rootPaths := ["/a"] } store = .ok r' := rfl
  have hoptions : r'.options = { r.options with rootPaths := r'.options.rootPaths } :=
    options_of_new_of_new hr hr'
  obtain ⟨hlocal, hsame⟩ :=
    performAll_offline (skipRemote_of_offline hr) hoptions .empty ops () 0
  exact ⟨hr, hr', fun out hout ↦ (hlocal out hout).1, hsame⟩

end Resolver

end ConfigResolver
