import ConfigResolver.Proofs.Options.RootList

/-!
# Options with a history

Options come from any sequence of steps: they are started again, from the standard ones or from an
environment, changed in one field, or written to without a check. A step that fails leaves them as
they are, so a field holds what was given to it last (`get_ofSteps`). Of root paths and a default
that were written without a check nothing else is known.

A resolver is made of such options exactly if all root paths are absolute (`build_eq_error_iff`),
and its options are then in normal form and differ in nothing else (`build_of_absolute`).

Main statement: `build_ofSteps`.
-/

namespace ConfigResolver

namespace Options

/-! ## Steps -/

/-- A step in the making of options. -/
inductive Step
  /-- Starts again with the standard options. -/
  | standard
  /-- Starts again with the options that an environment asks for. -/
  | environment (env : Environment)
  /-- Sets the root paths that a text lists. -/
  | rootPaths (text : String)
  /-- Sets the root paths that several texts list. -/
  | rootPathList (texts : List String)
  /-- Sets the default; an empty one is none. -/
  | defaultValue (value : String)
  /-- Switches the parameter store off or on. -/
  | skipRemote (skip : Bool)
  /-- Sets the region. -/
  | region (name : String)
  /-- Sets the address of the parameter store. -/
  | endpoint (address : String)
  /-- Sets the name of a set of credentials. -/
  | profile (name : String)
  /-- Sets the limit of substitutions. -/
  | maxSubstitutions (limit : Nat)
  /-- Writes the root paths without a check. -/
  | writeRootPaths (paths : List String)
  /-- Writes the default without a check. -/
  | writeDefaultValue (value : Option String)

/-- The options after a step, or the reason why it fails. -/
def Step.apply (o : Options) : Step → Except Error Options
  | .standard => .ok Options.standard
  | .environment env => ofEnvironment env
  | .rootPaths text => o.withRootPaths text
  | .rootPathList texts => o.withRootPathList texts
  | .defaultValue value => .ok (o.withDefaultValue value)
  | .skipRemote skip => .ok (o.withSkipRemote skip)
  | .region name => .ok (o.withRegion name)
  | .endpoint address => .ok (o.withEndpoint address)
  | .profile name => .ok (o.withProfile name)
  | .maxSubstitutions limit => .ok (o.withMaxSubstitutions limit)
  | .writeRootPaths paths => .ok { o with rootPaths := paths }
  | .writeDefaultValue value => .ok { o with defaultValue := value }

/-- The options after a step; one that fails leaves them as they are. -/
def after (o : Options) (step : Step) : Options :=
  match step.apply o with
  | .ok next => next
  | .error _ => o

/-- The options after some steps. -/
def ofSteps (steps : List Step) : Options := steps.foldl after standard

/-! ## Fields -/

/-- The options by name. -/
inductive Field
  | rootPaths
  | defaultValue
  | skipRemote
  | region
  | endpoint
  | profile
  | maxSubstitutions
deriving DecidableEq, Repr

/-- What a field holds. -/
@[reducible] def Field.Value : Field → Type
  | .rootPaths => List String
  | .defaultValue | .endpoint | .profile => Option String
  | .skipRemote => Bool
  | .region => String
  | .maxSubstitutions => Nat

/-- The content of a field. -/
def get (o : Options) : (f : Field) → f.Value
  | .rootPaths => o.rootPaths
  | .defaultValue => o.defaultValue
  | .skipRemote => o.skipRemote
  | .region => o.region
  | .endpoint => o.endpoint
  | .profile => o.profile
  | .maxSubstitutions => o.maxSubstitutions

/-- What a step gives to a field: nothing if it is about another field, or fails. -/
def Step.value? : Step → (f : Field) → Option f.Value
  | .standard, f => some (Options.standard.get f)
  | .environment env, f => (ofEnvironment env).toOption.map (·.get f)
  | .rootPaths text, .rootPaths => (parseRootPaths text).toOption
  | .rootPathList texts, .rootPaths => (parseRootPaths (":".intercalate texts)).toOption
  | .defaultValue value, .defaultValue => some (if value = "" then none else some value)
  | .skipRemote skip, .skipRemote => some skip
  | .region name, .region => some name
  | .endpoint address, .endpoint => some (some address)
  | .profile name, .profile => some (some name)
  | .maxSubstitutions limit, .maxSubstitutions => some limit
  | .writeRootPaths paths, .rootPaths => some paths
  | .writeDefaultValue value, .defaultValue => some value
  | _, _ => none

/-- Several texts are one text. -/
theorem apply_rootPathList (o : Options) (texts : List String) :
    (Step.rootPathList texts).apply o = (Step.rootPaths (":".intercalate texts)).apply o :=
  withRootPathList_eq o texts

theorem value?_rootPathList (texts : List String) (f : Field) :
    (Step.rootPathList texts).value? f = (Step.rootPaths (":".intercalate texts)).value? f := by
  cases f <;> rfl

theorem apply_rootPaths_cases (o : Options) (text : String) :
    (∃ next, (Step.rootPaths text).apply o = .ok next ∧
      ∀ f, next.get f = ((Step.rootPaths text).value? f).getD (o.get f)) ∨
    ∃ e, (Step.rootPaths text).apply o = .error e ∧
      ∀ f, (Step.rootPaths text).value? f = none := by
  rw [Step.apply, withRootPaths_eq]
  cases hroots : parseRootPaths text with
  | error e =>
    refine .inr ⟨e, rfl, fun f ↦ ?_⟩
    cases f <;> simp [Step.value?, hroots, Except.toOption]
  | ok roots =>
    refine .inl ⟨_, rfl, fun f ↦ ?_⟩
    cases f <;> simp [Step.value?, hroots, Except.toOption, get]

/-- A step that succeeds changes the fields that it gives something to, and no other. One that fails
gives nothing to any field. -/
theorem apply_cases (o : Options) (step : Step) :
    (∃ next, step.apply o = .ok next ∧ ∀ f, next.get f = (step.value? f).getD (o.get f)) ∨
    ∃ e, step.apply o = .error e ∧ ∀ f, step.value? f = none := by
  cases step with
  | environment env =>
    simp only [Step.apply, Step.value?]
    cases ofEnvironment env with
    | error e => exact .inr ⟨e, rfl, fun f ↦ rfl⟩
    | ok next => exact .inl ⟨next, rfl, fun f ↦ rfl⟩
  | rootPaths text => exact apply_rootPaths_cases o text
  | rootPathList texts =>
    simp only [apply_rootPathList, value?_rootPathList]
    exact apply_rootPaths_cases o (":".intercalate texts)
  | defaultValue value =>
    refine .inl ⟨_, rfl, fun f ↦ ?_⟩
    cases f <;> simp [Step.value?, get, withDefaultValue]
  | _ => exact .inl ⟨_, rfl, fun f ↦ by cases f <;> rfl⟩

theorem get_after (o : Options) (step : Step) (f : Field) :
    (o.after step).get f = (step.value? f).getD (o.get f) := by
  rcases apply_cases o step with ⟨next, happly, hget⟩ | ⟨e, happly, hnone⟩
  · rw [after, happly]
    exact hget f
  · rw [after, happly, hnone f]
    rfl

/-- A field holds what the last step gave it that gave it anything. -/
theorem get_ofSteps (steps : List Step) (f : Field) :
    (ofSteps steps).get f =
      (steps.reverse.findSome? (·.value? f)).getD (standard.get f) := by
  induction steps using List.reverseRecOn with
  | nil => rfl
  | append_singleton steps step ih =>
    have hlast : ofSteps (steps ++ [step]) = (ofSteps steps).after step := by
      simp [ofSteps]
    rw [hlast, get_after, ih, List.reverse_append, List.reverse_singleton, List.singleton_append,
      List.findSome?_cons]
    cases step.value? f <;> rfl

example : (ofSteps [.writeDefaultValue (some ""), .rootPaths "/a", .rootPathList ["/b", "c"],
    .region "eu-west-1"]).rootPaths = ["/a/"] := by rfl

end Options

namespace Resolver

variable {σ : Type}

/-! ## Making a resolver -/

/-- A way to make a resolver of options. -/
inductive Construction (σ : Type)
  /-- With a store or without one. -/
  | new (store : Option (Store σ))
  /-- Without a store, and so that none is asked for. -/
  | offline

namespace Construction

/-- The resolver that is made. -/
def build : Construction σ → Options → Except Error (Resolver σ)
  | .new store, o => Resolver.new o store
  | .offline, o => Resolver.offline o

/-- Whether the resolver answers keys as they are. -/
def skips (o : Options) : Construction σ → Bool
  | .new _ => o.skipRemote
  | .offline => true

theorem build_eq (c : Construction σ) (o : Options) :
    ∃ store, c.build o = Resolver.new { o with skipRemote := c.skips o } store := by
  cases c with
  | new store => exact ⟨store, rfl⟩
  | offline => exact ⟨none, rfl⟩

theorem build_eq_error_iff {c : Construction σ} {o : Options} {e : Error} :
    c.build o = .error e ↔
      ∃ bad, Options.FirstRelative o.rootPaths bad ∧ e = .invalidRootPath bad := by
  obtain ⟨store, hbuild⟩ := c.build_eq o
  rw [hbuild, new_eq_error_iff]

/-- The resolver has the options in normal form. -/
theorem build_of_absolute (c : Construction σ) {o : Options}
    (h : ∀ path ∈ o.rootPaths, IsAbsolute path) :
    ∃ r, c.build o = .ok r ∧ r.options.Normal ∧ r.options = { o with
      rootPaths := o.rootPaths.map Options.rooted
      defaultValue := if o.defaultValue = some "" then none else o.defaultValue
      skipRemote := c.skips o } := by
  obtain ⟨store, hbuild⟩ := c.build_eq o
  have hnew := hbuild.trans (new_eq_ok_iff.2 ⟨h, rfl⟩)
  exact ⟨_, hnew, normal_of_new (hbuild ▸ hnew), rfl⟩

/-- Options in normal form are kept, if what the resolver skips is settled in them. -/
theorem build_of_normal (c : Construction σ) {o : Options} (h : o.Normal)
    (hskips : c.skips o = o.skipRemote) : ∃ r, c.build o = .ok r ∧ r.options = o := by
  obtain ⟨store, hbuild⟩ := c.build_eq o
  rw [hskips] at hbuild
  exact ⟨_, hbuild.trans (new_of_normal h store), rfl⟩

/-- Whatever has been done to options, each field holds what was given to it last, a resolver is
refused exactly for the first root path that is not absolute, and else has these options in normal
form, with nothing changed but that. Made again from its own options, it has the same ones. -/
theorem build_ofSteps (c : Construction σ) (steps : List Options.Step) :
    (∀ f, (Options.ofSteps steps).get f =
      (steps.reverse.findSome? (·.value? f)).getD (Options.standard.get f)) ∧
    (∀ e, c.build (Options.ofSteps steps) = .error e ↔
      ∃ bad, Options.FirstRelative (Options.ofSteps steps).rootPaths bad ∧
        e = .invalidRootPath bad) ∧
    ((∃ bad, Options.FirstRelative (Options.ofSteps steps).rootPaths bad) ∨
      ∃ r, c.build (Options.ofSteps steps) = .ok r ∧ r.options.Normal ∧
        r.options = { Options.ofSteps steps with
          rootPaths := (Options.ofSteps steps).rootPaths.map Options.rooted
          defaultValue := if (Options.ofSteps steps).defaultValue = some "" then none
            else (Options.ofSteps steps).defaultValue
          skipRemote := c.skips (Options.ofSteps steps) } ∧
        (∃ again, c.build r.options = .ok again ∧ again.options = r.options) ∧
        ∀ store : Option (Store σ), ∃ again, Resolver.new r.options store = .ok again ∧
          again.options = r.options) := by
  refine ⟨Options.get_ofSteps steps, fun e ↦ build_eq_error_iff, ?_⟩
  rcases Options.absolute_or_firstRelative (Options.ofSteps steps).rootPaths with
    habsolute | hrelative
  · obtain ⟨r, hbuild, hnormal, hoptions⟩ := c.build_of_absolute habsolute
    -- what is skipped is settled in the options of the resolver, in whichever way it was made
    have hskips : c.skips r.options = r.options.skipRemote := by
      rw [hoptions]
      cases c <;> rfl
    exact .inr ⟨r, hbuild, hnormal, hoptions, c.build_of_normal hnormal hskips,
      fun store ↦ ⟨_, new_of_normal hnormal store, rfl⟩⟩
  · exact .inl hrelative

end Construction

end Resolver

end ConfigResolver
