import ConfigResolver.Proofs.Resolver.Lookup
import ConfigResolver.Proofs.Resolver.Relation

/-!
# The default of the options

The default of the options stands in for a value that is missing, and for nothing else. So a
resolver without this default and one with it keep step: they do the same, up to the first token
that neither has a value nor a default of its own. There the one without the default fails, and its
run is over (`Run.Relation.unlessMissing`).

Main statement: `resolveDocument_withDefault`.
-/

namespace ConfigResolver

@[simp] theorem Error.isMissingValue_orPath (e : Error) (path : String) :
    (e.orPath path).isMissingValue = e.isMissingValue := by
  rw [isMissingValue, kind_orPath]
  rfl

/-- The second run is the first one, unless the first one fails as a value is missing. -/
def Run.Relation.unlessMissing (σ : Type) : Run.Relation σ σ where
  Holds x y := ∀ s, (∃ e, (x s).result = .error e ∧ e.isMissingValue) ∨ y s = x s
  pure _ _ := .inr rfl
  log _ _ := .inr rfl
  file _ _ := .inr rfl
  limit _ _ _ := .inr rfl
  bind := by
    intro α β x y f g hxy hfg s
    rcases hxy s with ⟨e, he, hmissing⟩ | heq
    · exact .inl ⟨e, by rw [Run.bind_of_error he], hmissing⟩
    · cases hx : (x s).result with
      | error e =>
        right
        rw [Run.bind_of_error hx, Run.bind_of_error (heq ▸ hx), heq]
      | ok a =>
        rw [Run.bind_of_ok hx, Run.bind_of_ok (heq ▸ hx), heq]
        rcases hfg a (x s).store with hmissing | hrest
        · exact .inl hmissing
        · right
          rw [hrest]
  orPath := by
    intro α x y path hxy s
    rcases hxy s with ⟨e, he, hmissing⟩ | heq
    · refine .inl ⟨e.orPath path, ?_, by simpa using hmissing⟩
      rw [Run.mapError_apply, he]
      rfl
    · right
      rw [Run.mapError_apply, Run.mapError_apply, heq]

namespace Resolver

open Run.Relation

variable {σ : Type} {r : Resolver σ} {env : Environment} {value : Option String}

/-- The resolver with another default, or with none. -/
def withDefault (r : Resolver σ) (value : Option String) : Resolver σ :=
  { r with options := { r.options with defaultValue := value } }

theorem unlessMissing_refl {α : Type} (x : Run σ α) : (unlessMissing σ).Holds x x :=
  fun _ ↦ .inr rfl

/-! ## Lookups -/

/-- Without a default of its own a token is missing for the first resolver. -/
theorem unlessMissing_fallbackOr {missing : Error} (h : missing.isMissingValue) (value key : String)
    (inline : Option (List Char)) :
    (unlessMissing σ).Holds ((r.withDefault none).fallbackOr key inline missing)
      ((r.withDefault (some value)).fallbackOr key inline missing) := by
  intro s
  rw [fallbackOr_apply, fallbackOr_apply]
  cases inline with
  | some text => exact .inr rfl
  | none => exact .inl ⟨missing, rfl, h⟩

theorem unlessMissing_lookupParameter (value key : String) (inline : Option (List Char)) :
    (unlessMissing σ).Holds ((r.withDefault none).lookupParameter key inline)
      ((r.withDefault (some value)).lookupParameter key inline) := by
  cases hskip : r.options.skipRemote with
  | true =>
    rw [lookupParameter_of_skip (r := r.withDefault none) hskip,
      lookupParameter_of_skip (r := r.withDefault (some value)) hskip]
    exact unlessMissing_refl _
  | false =>
    rw [lookupParameter_of_remote (r := r.withDefault none) hskip,
      lookupParameter_of_remote (r := r.withDefault (some value)) hskip]
    refine (unlessMissing σ).bind (unlessMissing_refl _) fun names ↦
      (unlessMissing σ).bind (unlessMissing_refl _) fun store ↦
        (unlessMissing σ).bind (unlessMissing_refl _) fun found ↦ ?_
    cases found with
    | some text => exact unlessMissing_refl _
    | none => exact unlessMissing_fallbackOr rfl value key inline

theorem related_withDefault (r : Resolver σ) (env : Environment) (value : String) :
    Related (unlessMissing σ) (r.withDefault none) (r.withDefault (some value)) env where
  limit := rfl
  lookup t := by
    obtain ⟨source, key, inline⟩ := t
    cases source with
    | environment =>
      simp only [lookup, lookupVariable]
      cases env.lookup (String.ofList key) with
      | some text => exact unlessMissing_refl _
      | none => exact unlessMissing_fallbackOr rfl value _ _
    | parameterStore => exact unlessMissing_lookupParameter value _ _

/-! ## Documents -/

/-- A default in the options is used only where the run would fail without it, as a value is
missing. If a document is resolved without such a default and this does not end at a missing value,
then with any default it is resolved in just the same way: the result is the same, be it a document
or an error with its place, and so is all that happens, and the state in which the store is left. -/
theorem resolveDocument_withDefault (r : Resolver σ) (env : Environment) (doc : Value)
    (resolveKey returnKey : Option String) (st : σ) (value : String)
    (h : ∀ e, ((r.withDefault none).resolveDocument env doc resolveKey returnKey st).result =
      .error e → e.isMissingValue = false) :
    (r.withDefault (some value)).resolveDocument env doc resolveKey returnKey st =
      (r.withDefault none).resolveDocument env doc resolveKey returnKey st := by
  rcases (related_withDefault r env value).resolveDocument doc resolveKey returnKey st with
    ⟨e, he, hmissing⟩ | heq
  · rw [h e he] at hmissing
    cases hmissing
  · exact heq

/-- One text has its value under the second root, one its own default, and one ends the run in an
outage; so the last one, which has no value, is not looked up. -/
theorem resolveDocument_withDefault_outage :
    let get := fun name ↦ if name = "/b/x" then .ok "1" else
      if name = "/a/z" then .error (.unavailable "down") else .error (.notFound name)
    let r : Resolver Unit :=
      ⟨{ rootPaths := ["/a/", "/b/"] }, some (.ofAnswers ⟨get, fun _ _ ↦ .ok ⟨[], none⟩⟩)⟩
    let doc := Value.sequence [.string "\x7b!SSM: x\x7d", .string "\x7b!ENV: Y !DEFAULT: 2\x7d",
      .string "\x7b!SSM: z\x7d", .string "\x7b!ENV: W\x7d"]
    let out := (r.withDefault none).resolveDocument .empty doc none none ()
    (∀ e, out.result = .error e → e.isMissingValue = false) ∧
      (r.withDefault (some "d")).resolveDocument .empty doc none none () = out := by
  intro get r doc out
  have hout : (match out.result with | .ok _ => false | .error e => e.isMissingValue) = false := by
    decide +kernel
  have hkind : ∀ e, out.result = .error e → e.isMissingValue = false := by
    intro e he
    rw [he] at hout
    exact hout
  exact ⟨hkind, resolveDocument_withDefault r .empty doc none none () "d" hkind⟩

end Resolver

end ConfigResolver
