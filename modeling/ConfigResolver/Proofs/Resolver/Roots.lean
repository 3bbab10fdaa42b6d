import ConfigResolver.Proofs.Options.Roots
import ConfigResolver.Resolver.Basic

/-!
# The roots of a resolver

A resolver is made from options of any kind, also from such whose root paths were set one by one.
It is made exactly if all of them are absolute, and its own root paths are then those of the options
with a slash at the end of each, in the same order (`new_eq_ok_iff`). Else the first that is not
absolute is refused (`new_eq_error_iff`).
-/

namespace ConfigResolver.Resolver

variable {σ : Type} {r : Resolver σ} {options : Options}

theorem new_eq_ok_iff_validated {store : Option (Store σ)} :
    new options store = .ok r ↔ options.validated = .ok r.options ∧ r.store = store := by
  unfold new
  cases options.validated with
  | error e => simp [Except.map]
  | ok valid =>
    obtain ⟨own, kept⟩ := r
    simp [Except.map, eq_comm]

theorem new_eq_ok_iff {store : Option (Store σ)} :
    new options store = .ok r ↔ (∀ path ∈ options.rootPaths, IsAbsolute path) ∧
      r = ⟨{ options with
        rootPaths := options.rootPaths.map Options.rooted
        defaultValue := if options.defaultValue = some "" then none else options.defaultValue },
        store⟩ := by
  rw [new_eq_ok_iff_validated, Options.validated_eq_ok_iff, and_assoc]
  obtain ⟨own, kept⟩ := r
  rw [mk.injEq]

/-- The first path that is not absolute is named. -/
theorem new_eq_error_iff {store : Option (Store σ)} {e : Error} :
    new options store = .error e ↔
      ∃ bad, Options.FirstRelative options.rootPaths bad ∧ e = .invalidRootPath bad := by
  rw [← Options.validated_eq_error_iff, new]
  cases options.validated <;> simp [Except.map]

theorem normal_of_new {store : Option (Store σ)} (h : new options store = .ok r) :
    r.options.Normal :=
  Options.normal_of_validated (new_eq_ok_iff_validated.1 h).1

/-- Options in normal form are kept. -/
theorem new_of_normal (h : options.Normal) (store : Option (Store σ)) :
    new options store = .ok ⟨options, store⟩ :=
  new_eq_ok_iff_validated.2 ⟨h.validated, rfl⟩

theorem store_of_new {store : Option (Store σ)} (h : new options store = .ok r) :
    r.store = store :=
  (new_eq_ok_iff_validated.1 h).2

theorem skipRemote_of_new {store : Option (Store σ)} (h : new options store = .ok r) :
    r.options.skipRemote = options.skipRemote := by
  obtain ⟨-, rfl⟩ := new_eq_ok_iff.1 h
  rfl

/-- Every root starts with a slash. -/
theorem isAbsolute_roots_of_new {store : Option (Store σ)} (h : new options store = .ok r) :
    ∀ root ∈ r.options.rootPaths, IsAbsolute root := by
  intro root hroot
  exact ((normal_of_new h).roots root hroot).absolute

/-- The resolver is made from the options, in one of the three ways there are. -/
def MadeFrom (options : Options) (r : Resolver σ) : Prop :=
  (∃ store, new options store = .ok r) ∨ (∃ store, withStore options store = .ok r) ∨
    offline options = .ok r

theorem MadeFrom.roots (h : MadeFrom options r) :
    (∀ path ∈ options.rootPaths, IsAbsolute path) ∧
      r.options.rootPaths = options.rootPaths.map Options.rooted := by
  rcases h with ⟨store, h⟩ | ⟨store, h⟩ | h <;>
  · obtain ⟨habsolute, rfl⟩ := new_eq_ok_iff.1 h
    exact ⟨habsolute, rfl⟩

end ConfigResolver.Resolver
