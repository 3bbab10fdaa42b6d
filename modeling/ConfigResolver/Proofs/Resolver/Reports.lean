import ConfigResolver.Proofs.Resolver.Part
import ConfigResolver.Proofs.Resolver.Qualified

/-!
# What a run reports

A `Visit` is a lookup with the state of the store that it finds, and `Resolver.visits` lists those
of a text: the leftmost token is looked up, its value takes its place, and the new text goes on for
as long as the limit allows. All that happens in a run happens in its visits, one after the other
(`events_substituteAll`, `events_resolveDocument`), so what a run reports is what they report, in
their order, and it is enough to look at a single lookup (`reports_lookup`). Main statement:
`reports_visits`.

A run that fails has visits too, and the last of them may be the one that failed. Nothing here asks
the store to answer alike when it is asked twice.
-/

namespace ConfigResolver

/-- The name that a record says the store does not have. -/
def Record.missed? : Record → Option String
  | parameterNotFound name => some name
  | _ => none

/-- The name that a store did not have when it was asked for it. -/
def Event.absent? : Event → Option String
  | get name (.error (.notFound _)) => some name
  | _ => none

/-- The records of one level among some events. -/
def reported (level : Level) (events : List Event) : List Record :=
  (recordsOf events).filter (·.level = level)

@[simp] theorem reported_append (level : Level) (xs ys : List Event) :
    reported level (xs ++ ys) = reported level xs ++ reported level ys := by
  simp [reported]

/-- `Reports defaults replaced events`: the warnings among some events are that the default of the
options was used for each of some keys, the single steps are that each of some tokens was replaced,
and a name is reported missing wherever the store did not have it; all of it in order. -/
structure Reports (defaults : List String) (replaced : List Token) (events : List Event) :
    Prop where
  /-- The default of the options is used. -/
  warnings : reported .warn events = defaults.map .defaultUsed
  /-- A token is replaced. -/
  steps : reported .trace events = replaced.map fun t ↦ .substituted t.source (String.ofList t.key)
  /-- The store does not have a name. -/
  misses : (reported .debug events).filterMap Record.missed? = events.filterMap Event.absent?

namespace Reports

variable {defaults defaults' : List String} {replaced replaced' : List Token}
  {events events' : List Event}

theorem nil : Reports [] [] [] := ⟨rfl, rfl, rfl⟩

theorem append (h : Reports defaults replaced events) (h' : Reports defaults' replaced' events') :
    Reports (defaults ++ defaults') (replaced ++ replaced') (events ++ events') where
  warnings := by rw [reported_append, h.warnings, h'.warnings, List.map_append]
  steps := by rw [reported_append, h.steps, h'.steps, List.map_append]
  misses := by
    rw [reported_append, List.filterMap_append, List.filterMap_append, h.misses, h'.misses]

theorem defaultUsed (key : String) : Reports [key] [] [.log (.defaultUsed key)] := ⟨rfl, rfl, rfl⟩

theorem substitution (t : Token) : Reports [] [t] [Resolver.substitution t] := ⟨rfl, rfl, rfl⟩

theorem skipped (key : String) : Reports [] [] [.log (.skipped key)] := ⟨rfl, rfl, rfl⟩

theorem keyAbsent (key : String) : Reports [] [] [.log (.keyAbsent key)] := ⟨rfl, rfl, rfl⟩

/-- A name that is not there is reported right after the store was asked for it. -/
theorem missing (name text : String) : Reports [] []
    [.get name (.error (.notFound text)), .log (.parameterNotFound name)] := ⟨rfl, rfl, rfl⟩

theorem value (name text : String) : Reports [] [] [.get name (.ok text)] := ⟨rfl, rfl, rfl⟩

theorem failure (name : String) {e : StoreError} (he : ∀ text, e ≠ .notFound text) :
    Reports [] [] [.get name (.error e)] := by
  cases e with
  | notFound text => exact absurd rfl (he text)
  | unavailable _ | other _ => exact ⟨rfl, rfl, rfl⟩

end Reports

/-- A lookup of a token. -/
structure Visit (σ : Type) where
  /-- What is looked up. -/
  token : Token
  /-- The state of the store before. -/
  store : σ

namespace Resolver

variable {σ : Type} {r : Resolver σ} {env : Environment} {store : Store σ}

/-- The store has none of some names when it is asked for them one after the other. -/
def allAbsent (store : Store σ) : List String → σ → Bool
  | [], _ => true
  | name :: rest, s =>
    match (store.get name s).1 with
    | .error (.notFound _) => allAbsent store rest (store.get name s).2
    | _ => false

end Resolver

namespace Visit

variable {σ : Type}

/-- The key that is looked up. -/
def key (v : Visit σ) : String := String.ofList v.token.key

/-- What the lookup comes to. -/
def outcome (r : Resolver σ) (env : Environment) (v : Visit σ) : Outcome σ (List Char) :=
  r.lookup env v.token v.store

/-- The lookup comes to a value. -/
def isAnswered (r : Resolver σ) (env : Environment) (v : Visit σ) : Bool :=
  (v.outcome r env).result.toBool

/-- There is no value: the variable is not set, or the store is asked for the key and has none of
its candidates. -/
def isUnfound (r : Resolver σ) (env : Environment) (v : Visit σ) : Bool :=
  match v.token.source with
  | .environment => (env.lookup v.key).isNone
  | .parameterStore =>
    !r.options.skipRemote && !(Resolver.candidates r.options.rootPaths v.key).isEmpty &&
      r.store.any fun store ↦
        Resolver.allAbsent store (Resolver.candidates r.options.rootPaths v.key) v.store

/-- The default of the options stands in: there is one, but no value, and the token carries no
default of its own. -/
def takesDefault (r : Resolver σ) (env : Environment) (v : Visit σ) : Bool :=
  r.options.defaultValue.isSome && v.token.fallback.isNone && v.isUnfound r env

/-- All that happens at a lookup in a text: what the lookup does, and the substitution if it comes
to a value. -/
def events (r : Resolver σ) (env : Environment) (v : Visit σ) : List Event :=
  (v.outcome r env).events ++ bif v.isAnswered r env then [Resolver.substitution v.token] else []

end Visit

namespace Resolver

open Placeholder

variable {σ : Type} {r : Resolver σ} {env : Environment} {store : Store σ}

/-- The lookups that some substitutions in a text take. The first that has no value is the last. -/
def visits (r : Resolver σ) (env : Environment) : Nat → List Char → σ → List (Visit σ)
  | 0, _, _ => []
  | budget + 1, s, st =>
    match find s with
    | none => []
    | some p =>
      let out := r.lookup env p.token st
      ⟨p.token, st⟩ :: match out.result with
        | .ok value => visits r env budget (p.substitute value) out.store
        | .error _ => []

/-- The lookups that some texts take, one text after the other up to the first that fails. -/
def visitsOf (r : Resolver σ) (env : Environment) : List String → σ → List (Visit σ)
  | [], _ => []
  | text :: texts, st =>
    let out := r.resolveString env text st
    r.visits env r.options.maxSubstitutions text.toList st ++
      match out.result with
      | .ok _ => visitsOf r env texts out.store
      | .error _ => []

/-! ## One lookup -/

theorem reports_fallbackOr (key : String) (inline : Option (List Char)) (missing : Error) (s : σ) :
    Reports (bif r.options.defaultValue.isSome && inline.isNone then [key] else []) []
      (r.fallbackOr key inline missing s).events := by
  rw [fallbackOr_apply]
  cases inline with
  | some text => simpa using Reports.nil
  | none =>
    cases r.options.defaultValue with
    | none => exact .nil
    | some text => exact .defaultUsed key

/-- A search warns of nothing and replaces nothing. It finds nothing exactly if the store has none
of the names. -/
theorem reports_firstFound (store : Store σ) (names : List String) (s : σ) :
    let out := firstFound store names s
    Reports [] [] out.events ∧ (out.result = .ok none ↔ allAbsent store names s) := by
  induction names generalizing s with
  | nil => exact ⟨.nil, by simp [firstFound, allAbsent]⟩
  | cons name rest ih =>
    rw [allAbsent]
    cases h : (store.get name s).1 with
    | ok value =>
      rw [firstFound_of_value h]
      exact ⟨.value name value, by simp⟩
    | error e =>
      cases e with
      | notFound text =>
        obtain ⟨hreports, hresult⟩ := ih (store.get name s).2
        rw [firstFound_of_missing h]
        exact ⟨(Reports.missing name text).append hreports, hresult⟩
      | unavailable text | other text =>
        rw [firstFound_of_failure h (by simp)]
        exact ⟨.failure name (by simp), by simp⟩

/-- Behind a search the default of the options is used if nothing was found. -/
theorem reports_search (store : Store σ) (names : List String) (key : String)
    (inline : Option (List Char)) (s : σ) :
    Reports (bif r.options.defaultValue.isSome && inline.isNone && allAbsent store names s
      then [key] else []) []
      ((firstFound store names >>= r.valueOr key inline names) s).events := by
  obtain ⟨hreports, hresult⟩ := reports_firstFound store names s
  cases hfound : (firstFound store names s).result with
  | error e =>
    have hvalue : allAbsent store names s = false := by simpa [hfound] using hresult
    rw [Run.bind_of_error hfound, hvalue, Bool.and_false]
    exact hreports
  | ok found =>
    rw [Run.bind_of_ok hfound]
    cases found with
    | some value =>
      have hvalue : allAbsent store names s = false := by simpa [hfound] using hresult
      rw [hvalue, Bool.and_false]
      exact hreports.append .nil
    | none =>
      rw [hresult.1 hfound, Bool.and_true]
      exact hreports.append (reports_fallbackOr key inline _ _)

/-- A lookup warns exactly if the default of the options stands in, and replaces nothing. -/
theorem reports_lookup (r : Resolver σ) (env : Environment) (v : Visit σ) :
    Reports (bif v.takesDefault r env then [v.key] else []) [] (v.outcome r env).events := by
  obtain ⟨⟨source, key, inline⟩, s⟩ := v
  cases source with
  | environment =>
    simp only [Visit.takesDefault, Visit.isUnfound, Visit.outcome, Visit.key, lookup,
      lookupVariable]
    cases env.lookup (String.ofList key) with
    | some value => simpa using Reports.nil
    | none => simpa using reports_fallbackOr _ inline _ s
  | parameterStore =>
    simp only [Visit.takesDefault, Visit.isUnfound, Visit.outcome, Visit.key, lookup]
    cases hskip : r.options.skipRemote with
    | true =>
      rw [lookupParameter_of_skip hskip]
      simpa using Reports.skipped _
    | false =>
      cases hnames : candidates r.options.rootPaths (String.ofList key) with
      | nil =>
        rw [lookupParameter_of_no_candidate hskip hnames]
        simpa using Reports.nil
      | cons name names =>
        have hne : candidates r.options.rootPaths (String.ofList key) ≠ [] := by simp [hnames]
        cases hr : r.store with
        | none =>
          rw [lookupParameter_of_no_store hskip hne hr]
          simpa using Reports.nil
        | some store =>
          rw [lookupParameter_of_store hskip hne hr, hnames]
          simpa using reports_search store (name :: names) (String.ofList key) inline s

/-- The default of the options is the value of a lookup that it stands in for. -/
theorem result_of_takesDefault {v : Visit σ} (h : v.takesDefault r env) :
    ∃ text ∈ r.options.defaultValue, (v.outcome r env).result = .ok text.toList := by
  obtain ⟨⟨source, key, inline⟩, s⟩ := v
  simp only [Visit.takesDefault, Bool.and_eq_true, Option.isSome_iff_exists,
    Option.isNone_iff_eq_none] at h
  obtain ⟨⟨⟨text, htext⟩, rfl⟩, hunfound⟩ := h
  refine ⟨text, htext, ?_⟩
  simp only [Visit.outcome, lookup]
  cases source with
  | environment =>
    have hunset : env.lookup (String.ofList key) = none := by
      simpa [Visit.isUnfound, Visit.key] using hunfound
    rw [lookupVariable, hunset]
    simp only [fallbackOr_apply, htext]
  | parameterStore =>
    obtain ⟨⟨hskip, hne⟩, store, hr, habsent⟩ :
        (r.options.skipRemote = false ∧ candidates r.options.rootPaths (String.ofList key) ≠ []) ∧
          ∃ store, r.store = some store ∧
            allAbsent store (candidates r.options.rootPaths (String.ofList key)) s := by
      simpa [Visit.isUnfound, Visit.key, Option.any_eq_true] using hunfound
    have hfound := (reports_firstFound store _ s).2.2 habsent
    obtain ⟨-, -, hresult⟩ := lookupParameter_of_firstFound_none hskip hr hne
      (show firstFound store _ s = ⟨.ok none, _, _⟩ by rw [← hfound]) none
    rw [hresult, htext]

/-! ## One text -/

theorem events_substituteAll (budget : Nat) (s : List Char) (st : σ) :
    (r.substituteAll env budget s st).events =
      (r.visits env budget s st).flatMap (Visit.events r env) := by
  induction budget generalizing s st with
  | zero =>
    cases hfind : find s with
    | none => rw [substituteAll_of_find_none hfind, visits, List.flatMap_nil]
    | some p => rw [substituteAll_zero_of_find hfind, visits, List.flatMap_nil]
  | succ budget ih =>
    cases hfind : find s with
    | none => simp [substituteAll_of_find_none hfind, visits, hfind]
    | some p =>
      cases hvalue : (r.lookup env p.token st).result with
      | error e =>
        simp [substituteAll_of_error hfind hvalue, visits, hfind, hvalue, Visit.events,
          Visit.isAnswered, Visit.outcome, Except.toBool]
      | ok value =>
        simp [substituteAll_of_value hfind hvalue, visits, hfind, hvalue, Visit.events,
          Visit.isAnswered, Visit.outcome, Except.toBool, ih]

/-- All that happens in a text happens at its lookups. -/
theorem events_resolveString (text : String) (st : σ) :
    (r.resolveString env text st).events =
      (r.visits env r.options.maxSubstitutions text.toList st).flatMap (Visit.events r env) := by
  rw [resolveString_eq]
  exact events_substituteAll _ _ _

/-! ## Documents -/

theorem events_resolveLeaves (ls : List Leaf) (st : σ) :
    (r.resolveLeaves env ls st).events =
      (r.visitsOf env (ls.map Leaf.text) st).flatMap (Visit.events r env) := by
  induction ls generalizing st with
  | nil => rfl
  | cons leaf ls ih =>
    have hcons : r.resolveLeaves env (leaf :: ls) =
        (r.resolveLeaf env leaf).course >>= fun _ ↦ r.resolveLeaves env ls := List.forM_cons
    rw [hcons, List.map_cons, visitsOf, List.flatMap_append, ← events_resolveString]
    cases htext : (r.resolveString env leaf.text st).result with
    | error e =>
      have hleaf := course_resolveLeaf_eq_error.2 ⟨e, htext, rfl⟩
      rw [Run.bind_of_error hleaf, course_resolveLeaf_apply]
      simp
    | ok value =>
      have hleaf := course_resolveLeaf_eq_ok.2 ⟨value, htext⟩
      rw [Run.bind_of_ok hleaf, course_resolveLeaf_apply, ih]

/-- A document has the same texts wherever it is put. -/
theorem events_walk (path : String) (v : Value) (st : σ) :
    (r.walk env path v st).events =
      (r.visitsOf env (textsOf v) st).flatMap (Visit.events r env) := by
  rw [textsOf, map_text_leaves "" path, ← events_resolveLeaves, ← course_walk, Run.course_apply]

/-- Before the first lookup it may be reported that the key to resolve is absent. -/
theorem events_resolveDocument (r : Resolver σ) (env : Environment) (doc : Value)
    (resolveKey returnKey : Option String) (st : σ) :
    ∃ before, (before = [] ∨ ∃ key, before = [.log (.keyAbsent key)]) ∧
      (r.resolveDocument env doc resolveKey returnKey st).events = before ++
        (r.visitsOf env (textsOf (select doc resolveKey)) st).flatMap (Visit.events r env) := by
  obtain ⟨path, before, put, hbefore, hdocument⟩ :=
    resolveDocument_walks_selected r env doc resolveKey returnKey
  refine ⟨before, hbefore, ?_⟩
  rw [hdocument]
  exact congrArg (before ++ ·) (events_walk path (select doc resolveKey) st)

/-! ## The records -/

theorem reports_events (r : Resolver σ) (env : Environment) (v : Visit σ) :
    Reports (bif v.takesDefault r env then [v.key] else [])
      (bif v.isAnswered r env then [v.token] else []) (v.events r env) := by
  have hlookup := reports_lookup r env v
  rw [Visit.events]
  cases v.isAnswered r env with
  | false => simpa using hlookup
  | true => simpa using hlookup.append (.substitution v.token)

/-- Lookups report what each of them does, in their order. -/
theorem reports_flatMap (made : List (Visit σ)) :
    Reports ((made.filter (Visit.takesDefault r env)).map Visit.key)
      ((made.filter (Visit.isAnswered r env)).map Visit.token)
      (made.flatMap (Visit.events r env)) := by
  induction made with
  | nil => exact .nil
  | cons v made ih =>
    have hcons := (reports_events r env v).append ih
    rw [List.flatMap_cons]
    cases hdefault : v.takesDefault r env <;> cases hanswered : v.isAnswered r env <;>
      simpa [hdefault, hanswered] using hcons

/-- A value that the default of the options masks is always reported. Whatever is resolved, and
whether it succeeds or fails, the warnings are one for each lookup at which this default stands in,
as there is no value and no default of the token, and it is the value there; each names the key that
is looked up, and there are no other warnings. The single steps are one for each lookup that comes
to a value, which is substituted then, and name the token. And a name is reported missing for each
answer of the store that it does not have it. All of them come in the order of the lookups. For a
parameter that is looked up by its key there is just this lookup, and nothing is substituted. -/
theorem reports_visits (r : Resolver σ) (env : Environment) (st : σ) :
    (∀ v : Visit σ, v.takesDefault r env →
      ∃ text ∈ r.options.defaultValue, (v.outcome r env).result = .ok text.toList) ∧
    (∀ doc resolveKey returnKey,
      let made := r.visitsOf env (textsOf (select doc resolveKey)) st
      Reports ((made.filter (Visit.takesDefault r env)).map Visit.key)
        ((made.filter (Visit.isAnswered r env)).map Visit.token)
        (r.resolveDocument env doc resolveKey returnKey st).events) ∧
    (∀ text,
      let made := r.visits env r.options.maxSubstitutions text.toList st
      Reports ((made.filter (Visit.takesDefault r env)).map Visit.key)
        ((made.filter (Visit.isAnswered r env)).map Visit.token)
        (r.resolveString env text st).events) ∧
    ∀ key,
      let v : Visit σ := ⟨⟨.parameterStore, key.toList, none⟩, st⟩
      Reports (if v.takesDefault r env then [key] else []) []
        (r.getParameter key st).events := by
  refine ⟨fun v ↦ result_of_takesDefault, fun doc resolveKey returnKey ↦ ?_, fun text ↦ ?_,
    fun key ↦ ?_⟩
  · obtain ⟨before, hbefore, hevents⟩ :=
      events_resolveDocument r env doc resolveKey returnKey st
    intro made
    have hreports : Reports [] [] before := by
      rcases hbefore with rfl | ⟨key, rfl⟩
      · exact .nil
      · exact .keyAbsent key
    rw [hevents]
    exact hreports.append (reports_flatMap made)
  · intro made
    rw [events_resolveString]
    exact reports_flatMap made
  · intro v
    have hlookup := reports_lookup r env v
    rw [getParameter, Run.map_apply]
    simpa only [v, Visit.outcome, Visit.key, lookup, String.ofList_toList, Bool.cond_eq_ite]
      using hlookup

/-- The first token has no value, the second its own default; the default of the options holds a
token, which is looked up in turn and comes to the same text, up to the limit. -/
example :
    let options : Options :=
      { rootPaths := ["/a/"], defaultValue := some "{!ENV: X}", maxSubstitutions := 2 }
    let get := fun name ↦ .error (.notFound name)
    let r : Resolver Unit := ⟨options, some (.ofAnswers ⟨get, fun _ _ ↦ .ok ⟨[], none⟩⟩)⟩
    let out := r.resolveString .empty "{!SSM: k} {!SSM: l !DEFAULT: 1}" ()
    out.result.toBool = false ∧
      recordsOf out.events = [.parameterNotFound "/a/k", .defaultUsed "k",
        .substituted .parameterStore "k", .defaultUsed "X", .substituted .environment "X"] := by
  decide +kernel

end Resolver

end ConfigResolver
