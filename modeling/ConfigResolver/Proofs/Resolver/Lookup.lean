import ConfigResolver.Proofs.Run
import ConfigResolver.Resolver.Lookup

/-!
# The search for a parameter

A parameter is asked for under its candidates, one after the other. `firstFound_of_missing`,
`firstFound_of_value` and `firstFound_of_failure` say what one answer leads to, for stores that
change with every call too; `firstFound_append_missed` carries the search over any number of
candidates that do not exist. Main statement: `lookupParameter_candidates`, which names the calls
and the result of a lookup in each of its cases.
-/

namespace ConfigResolver

/-- Whatever its state, the store gives the answer that `answer` has for the name. -/
def Store.AnswersBy {σ : Type} (store : Store σ) (answer : String → Except StoreError String) :
    Prop :=
  ∀ name s, (store.get name s).1 = answer name

theorem Store.answersBy_ofAnswers {σ : Type} (answers : Answers) :
    (Store.ofAnswers answers : Store σ).AnswersBy answers.get := fun _ _ ↦ rfl

/-- The answer that there is no such parameter. -/
def IsMissing (answer : Except StoreError String) : Prop := ∃ text, answer = .error (.notFound text)

namespace Resolver

variable {σ : Type} {r : Resolver σ} {store : Store σ} {env : Environment}
  {answer : String → Except StoreError String}

/-! ## One candidate -/

section Candidate

variable {name value : String} {rest : List String} {s : σ}

theorem firstFound_of_value (h : (store.get name s).1 = .ok value) :
    firstFound store (name :: rest) s =
      ⟨.ok (some value), [.get name (.ok value)], (store.get name s).2⟩ := by
  simp [firstFound, Run.bind_apply, Run.next, h]

/-- Only the answer that there is no such parameter leads on to the next candidate. -/
theorem firstFound_of_missing {text : String}
    (h : (store.get name s).1 = .error (.notFound text)) :
    firstFound store (name :: rest) s =
      ⟨(firstFound store rest (store.get name s).2).result,
        .get name (.error (.notFound text)) :: .log (.parameterNotFound name) ::
          (firstFound store rest (store.get name s).2).events,
        (firstFound store rest (store.get name s).2).store⟩ := by
  simp only [firstFound, Run.bind_apply, Run.next, Run.askGet_apply, h, Run.log_apply,
    List.singleton_append]

/-- Any other failure ends the search. -/
theorem firstFound_of_failure {e : StoreError} (h : (store.get name s).1 = .error e)
    (he : ∀ text, e ≠ .notFound text) :
    firstFound store (name :: rest) s =
      ⟨.error (storeFailure name e), [.get name (.error e)], (store.get name s).2⟩ := by
  cases e with
  | notFound text => exact absurd rfl (he text)
  | unavailable text => simp [firstFound, Run.bind_apply, Run.next, h]
  | other text => simp [firstFound, Run.bind_apply, Run.next, h]

end Candidate

/-! ## Many candidates -/

/-- Candidates that do not exist are each asked for once and in order, and the search goes on
behind them. -/
theorem firstFound_append_missed (hstore : store.AnswersBy answer) {missed : List String}
    (hmissed : ∀ name ∈ missed, IsMissing (answer name)) (s : σ) :
    ∃ events s', callsOf events = missed.map .get ∧ ∀ rest,
      firstFound store (missed ++ rest) s = ⟨(firstFound store rest s').result,
        events ++ (firstFound store rest s').events, (firstFound store rest s').store⟩ := by
  induction missed generalizing s with
  | nil => exact ⟨[], s, rfl, fun rest ↦ rfl⟩
  | cons name missed ih =>
    obtain ⟨⟨text, htext⟩, hmissed⟩ := List.forall_mem_cons.1 hmissed
    have hget : (store.get name s).1 = .error (.notFound text) := (hstore name s).trans htext
    obtain ⟨events, s', hcalls, hrest⟩ := ih hmissed (store.get name s).2
    refine ⟨.get name (.error (.notFound text)) :: .log (.parameterNotFound name) :: events, s',
      ?_, fun rest ↦ ?_⟩
    · rw [List.map_cons, ← hcalls]
      rfl
    · rw [List.cons_append, firstFound_of_missing hget, hrest rest]
      rfl

/-- The first candidate that is not missing is asked for last, and its answer decides. -/
theorem firstFound_of_hit (hstore : store.AnswersBy answer) {missed : List String}
    (hmissed : ∀ name ∈ missed, IsMissing (answer name)) {name : String}
    (hname : ¬ IsMissing (answer name)) (rest : List String) (s : σ) :
    ∃ events s', callsOf events = (missed ++ [name]).map .get ∧
      firstFound store (missed ++ name :: rest) s =
        ⟨((answer name).map some).mapError (storeFailure name), events, s'⟩ := by
  obtain ⟨events, s', hcalls, hrest⟩ := firstFound_append_missed hstore hmissed s
  refine ⟨events ++ [.get name (answer name)], (store.get name s').2, ?_, ?_⟩
  · rw [callsOf_append, hcalls, List.map_append]
    rfl
  · rw [hrest]
    cases hanswer : answer name with
    | ok value =>
      rw [firstFound_of_value ((hstore name s').trans hanswer)]
      rfl
    | error e =>
      have he : ∀ text, e ≠ .notFound text := fun text htext ↦
        hname ⟨text, by rw [hanswer, htext]⟩
      rw [firstFound_of_failure ((hstore name s').trans hanswer) he]
      rfl

/-- Where every candidate is missing, each was asked for. -/
theorem firstFound_of_all_missed (hstore : store.AnswersBy answer) {names : List String}
    (hmissed : ∀ name ∈ names, IsMissing (answer name)) (s : σ) :
    ∃ events s', callsOf events = names.map .get ∧
      firstFound store names s = ⟨.ok none, events, s'⟩ := by
  obtain ⟨events, s', hcalls, hrest⟩ := firstFound_append_missed hstore hmissed s
  refine ⟨events, s', hcalls, ?_⟩
  have hnil := hrest []
  rw [List.append_nil] at hnil
  rw [hnil, firstFound, Run.pure_apply, List.append_nil]

/-! ## The defaults -/

/-- What a key without a value comes to: no store is asked, and only the default of the options is
reported. -/
theorem fallbackOr_apply (r : Resolver σ) (key : String) (inline : Option (List Char))
    (missing : Error) (s : σ) :
    r.fallbackOr key inline missing s =
      match inline, r.options.defaultValue with
      | some text, _ => ⟨.ok text, [], s⟩
      | none, some text => ⟨.ok text.toList, [.log (.defaultUsed key)], s⟩
      | none, none => ⟨.error missing, [], s⟩ := by
  cases inline with
  | some text => rfl
  | none =>
    cases hdefault : r.options.defaultValue <;>
      simp [fallbackOr, fallback, hdefault, Run.bind_apply, Run.next, Except.map]

/-! ## The lookup -/

/-- The full names that a key stands for: an absolute key for itself, a relative one for itself
behind each root. -/
def candidates (roots : List String) (key : String) : List String :=
  if key.toList.head? = some '/' then [key] else roots.map (· ++ key)

theorem qualify_eq (r : Resolver σ) (key : String) :
    r.qualify key = if candidates r.options.rootPaths key = [] then .error (.keyNotQualified key)
      else .ok (candidates r.options.rootPaths key) := by
  unfold qualify candidates
  by_cases hkey : key.toList.head? = some '/'
  · simp [hkey]
  · simp [hkey]

/-- What follows the search among some names: its value, or else the fallback of the key. -/
def valueOr (r : Resolver σ) (key : String) (inline : Option (List Char)) (names : List String) :
    Option String → Run σ (List Char)
  | some value => pure value.toList
  | none => r.fallbackOr key inline (.missingParameter key names)

/-- Where no store is to be asked a parameter stands for its key. -/
theorem lookupParameter_of_skip (hskip : r.options.skipRemote = true) (key : String)
    (inline : Option (List Char)) :
    r.lookupParameter key inline = Run.log (.skipped key) >>= fun _ ↦ pure key.toList := by
  rw [lookupParameter, if_pos hskip]

theorem lookupParameter_of_remote (hskip : r.options.skipRemote = false) (key : String)
    (inline : Option (List Char)) :
    r.lookupParameter key inline =
      Run.ofExcept (r.qualify key) >>= fun names ↦
        Run.ofExcept (r.requireStore names) >>= fun store ↦
          firstFound store names >>= r.valueOr key inline names := by
  rw [lookupParameter, if_neg (by simp [hskip])]
  rfl

theorem lookupParameter_of_store {key : String} (hskip : r.options.skipRemote = false)
    (hnames : candidates r.options.rootPaths key ≠ []) (hstore : r.store = some store)
    (inline : Option (List Char)) :
    r.lookupParameter key inline =
      firstFound store (candidates r.options.rootPaths key) >>=
        r.valueOr key inline (candidates r.options.rootPaths key) := by
  rw [lookupParameter_of_remote hskip, qualify_eq, if_neg hnames]
  simp only [requireStore, hstore, Run.ofExcept_ok, pure_bind]

/-- Without a candidate there is nothing to ask for, and without a store nobody to ask. -/
theorem lookupParameter_of_no_candidate {key : String} (hskip : r.options.skipRemote = false)
    (hnames : candidates r.options.rootPaths key = []) (inline : Option (List Char)) :
    r.lookupParameter key inline = Run.fail (.keyNotQualified key) := by
  rw [lookupParameter_of_remote hskip, qualify_eq, if_pos hnames]
  simp only [Run.ofExcept_error, Run.fail_bind]

theorem lookupParameter_of_no_store {key : String} (hskip : r.options.skipRemote = false)
    (hnames : candidates r.options.rootPaths key ≠ []) (hstore : r.store = none)
    (inline : Option (List Char)) :
    r.lookupParameter key inline = Run.fail (.backendUnavailable
      ((candidates r.options.rootPaths key).headD "") "no parameter store configured") := by
  rw [lookupParameter_of_remote hskip, qualify_eq, if_neg hnames]
  simp only [requireStore, hstore, Run.ofExcept_ok, pure_bind, Run.ofExcept_error, Run.fail_bind]

/-- A lookup answers the key itself, fails before anything is asked, or searches the candidates. -/
theorem lookupParameter_cases (r : Resolver σ) (key : String) (inline : Option (List Char)) :
    (r.lookupParameter key inline = Run.log (.skipped key) >>= fun _ ↦ pure key.toList) ∨
      r.lookupParameter key inline = Run.fail (.keyNotQualified key) ∨
      (r.store = none ∧ ∃ name, r.lookupParameter key inline =
        Run.fail (.backendUnavailable name "no parameter store configured")) ∨
      ∃ store ∈ r.store, r.lookupParameter key inline =
        firstFound store (candidates r.options.rootPaths key) >>=
          r.valueOr key inline (candidates r.options.rootPaths key) := by
  cases hskip : r.options.skipRemote with
  | true => exact .inl (lookupParameter_of_skip hskip key inline)
  | false =>
    by_cases hnames : candidates r.options.rootPaths key = []
    · exact .inr (.inl (lookupParameter_of_no_candidate hskip hnames inline))
    · cases hr : r.store with
      | none =>
        exact .inr (.inr (.inl ⟨rfl, _, lookupParameter_of_no_store hskip hnames hr inline⟩))
      | some store =>
        exact .inr (.inr (.inr ⟨store, rfl, lookupParameter_of_store hskip hnames hr inline⟩))

section Search

variable (hskip : r.options.skipRemote = false) (hr : r.store = some store)

include hskip hr

/-- What the search comes to by an answer is the end of the lookup, whatever the defaults are. -/
theorem lookupParameter_of_firstFound {key name : String} {x : Except StoreError String}
    {events : List Event} {s s' : σ} (hne : candidates r.options.rootPaths key ≠ [])
    (hfound : firstFound store (candidates r.options.rootPaths key) s =
      ⟨(x.map some).mapError (storeFailure name), events, s'⟩) (inline : Option (List Char)) :
    r.lookupParameter key inline s =
      ⟨(x.map String.toList).mapError (storeFailure name), events, s'⟩ := by
  rw [lookupParameter_of_store hskip hne hr]
  cases x with
  | ok value =>
    have hresult : (firstFound store (candidates r.options.rootPaths key) s).result =
        .ok (some value) := by
      rw [hfound]
      rfl
    rw [Run.bind_of_ok hresult, hfound]
    simp only [valueOr, Run.pure_apply, List.append_nil]
    rfl
  | error e =>
    have hresult : (firstFound store (candidates r.options.rootPaths key) s).result =
        .error (storeFailure name e) := by
      rw [hfound]
      rfl
    rw [Run.bind_of_error hresult, hfound]
    rfl

/-- Behind a search without an answer the defaults follow, without another call. -/
theorem lookupParameter_of_firstFound_none {key : String} {events : List Event} {s s' : σ}
    (hne : candidates r.options.rootPaths key ≠ [])
    (hfound : firstFound store (candidates r.options.rootPaths key) s = ⟨.ok none, events, s'⟩)
    (inline : Option (List Char)) :
    let out := r.lookupParameter key inline s
    callsOf out.events = callsOf events ∧ out.store = s' ∧
      out.result = match inline, r.options.defaultValue with
        | some text, _ => .ok text
        | none, some text => .ok text.toList
        | none, none => .error (.missingParameter key (candidates r.options.rootPaths key)) := by
  have hresult : (firstFound store (candidates r.options.rootPaths key) s).result = .ok none := by
    rw [hfound]
  rw [lookupParameter_of_store hskip hne hr, Run.bind_of_ok hresult, hfound]
  simp only [valueOr, fallbackOr_apply, callsOf_append]
  cases inline with
  | some text => simp
  | none => cases r.options.defaultValue <;> simp [callsOf, Event.call?]

end Search

section Answers

variable (hskip : r.options.skipRemote = false) (hr : r.store = some store)
  (hstore : store.AnswersBy answer)

include hskip hr hstore

/-- The answer for the first candidate that is not missing is the end of the lookup, whatever the
defaults are. -/
theorem lookupParameter_of_hit {key name : String} {missed rest : List String}
    (hnames : candidates r.options.rootPaths key = missed ++ name :: rest)
    (hmissed : ∀ other ∈ missed, IsMissing (answer other)) (hname : ¬ IsMissing (answer name))
    (inline : Option (List Char)) (s : σ) :
    ∃ events s', callsOf events = (missed ++ [name]).map .get ∧
      r.lookupParameter key inline s =
        ⟨((answer name).map String.toList).mapError (storeFailure name), events, s'⟩ := by
  obtain ⟨events, s', hcalls, hfound⟩ := firstFound_of_hit hstore hmissed hname rest s
  rw [← hnames] at hfound
  exact ⟨events, s', hcalls,
    lookupParameter_of_firstFound hskip hr (by simp [hnames]) hfound inline⟩

/-- When all candidates are missing the defaults follow, without another call. -/
theorem lookupParameter_of_all_missed {key : String}
    (hne : candidates r.options.rootPaths key ≠ [])
    (hmissed : ∀ name ∈ candidates r.options.rootPaths key, IsMissing (answer name))
    (inline : Option (List Char)) (s : σ) :
    let out := r.lookupParameter key inline s
    callsOf out.events = (candidates r.options.rootPaths key).map .get ∧
      out.result = match inline, r.options.defaultValue with
        | some text, _ => .ok text
        | none, some text => .ok text.toList
        | none, none => .error (.missingParameter key (candidates r.options.rootPaths key)) := by
  obtain ⟨events, s', hcalls, hfound⟩ := firstFound_of_all_missed hstore hmissed s
  obtain ⟨hsame, -, hresult⟩ := lookupParameter_of_firstFound_none hskip hr hne hfound inline
  exact ⟨hsame.trans hcalls, hresult⟩

end Answers

/-! ## The errors -/

/-- The errors that a lookup can end with. -/
inductive LookupError : Error → Prop
  /-- The variable is not set. -/
  | missingVariable (name : String) : LookupError (.missingVariable name)
  /-- No candidate exists. -/
  | missingParameter (key : String) (tried : List String) :
      LookupError (.missingParameter key tried)
  /-- There is no candidate. -/
  | keyNotQualified (key : String) : LookupError (.keyNotQualified key)
  /-- There is no store, or it cannot be used. -/
  | backendUnavailable (name text : String) : LookupError (.backendUnavailable name text)
  /-- The store failed in another way. -/
  | backendOther (name text : String) : LookupError (.backendOther name text)

theorem LookupError.kind_ne_limit {e : Error} (h : LookupError e) (n : Nat) :
    e.kind ≠ .substitutionLimit n := by
  cases h <;> nofun

theorem LookupError.storeFailure (name : String) (e : StoreError) :
    LookupError (storeFailure name e) := by
  cases e with
  | notFound text => exact .missingParameter name [name]
  | unavailable text => exact .backendUnavailable name text
  | other text => exact .backendOther name text

theorem errorsIn_fallbackOr {P : Error → Prop} {missing : Error} (h : P missing) (key : String)
    (inline : Option (List Char)) : (r.fallbackOr key inline missing).ErrorsIn P := by
  intro s e he
  rw [fallbackOr_apply] at he
  cases inline with
  | some text => cases he
  | none =>
    cases hdefault : r.options.defaultValue with
    | some text => rw [hdefault] at he; cases he
    | none => rw [hdefault] at he; cases he; exact h

theorem errorsIn_firstFound (store : Store σ) (names : List String) :
    (firstFound store names).ErrorsIn LookupError := by
  induction names with
  | nil => exact .pure none
  | cons name rest ih =>
    refine .bind (.askGet store name) fun answer ↦ ?_
    split
    · exact .pure _
    · exact .bind (.log _) fun _ ↦ ih
    · exact .fail (.storeFailure name _)

theorem errorsIn_lookupParameter (key : String) (inline : Option (List Char)) :
    (r.lookupParameter key inline).ErrorsIn LookupError := by
  rcases r.lookupParameter_cases key inline with
    h | h | ⟨-, name, h⟩ | ⟨store, -, h⟩ <;> rw [h]
  · exact .bind (.log _) fun _ ↦ .pure _
  · exact .fail (.keyNotQualified key)
  · exact .fail (.backendUnavailable name _)
  · refine .bind (errorsIn_firstFound store _) fun found ↦ ?_
    cases found with
    | some value => exact .pure _
    | none => exact errorsIn_fallbackOr (.missingParameter key _) key inline

/-- Each failure of a lookup is one of five. -/
theorem errorsIn_lookup (r : Resolver σ) (env : Environment) (t : Token) :
    (r.lookup env t).ErrorsIn LookupError := by
  unfold lookup
  split
  · unfold lookupVariable
    split
    · exact .pure _
    · exact errorsIn_fallbackOr (.missingVariable _) _ _
  · exact errorsIn_lookupParameter _ _

/-! ## Independence of the store's state -/

theorem steady_fallbackOr (key : String) (inline : Option (List Char)) (missing : Error) :
    (r.fallbackOr key inline missing).Steady := by
  intro s s'
  rw [fallbackOr_apply, fallbackOr_apply]
  cases inline with
  | some text => exact ⟨rfl, rfl⟩
  | none => cases r.options.defaultValue <;> exact ⟨rfl, rfl⟩

theorem steady_firstFound (hstore : store.AnswersBy answer) (names : List String) :
    (firstFound store names).Steady := by
  induction names with
  | nil => exact .pure none
  | cons name rest ih =>
    refine .bind (.askGet fun s s' ↦ (hstore name s).trans (hstore name s').symm) fun found ↦ ?_
    split
    · exact .pure _
    · exact .bind (.log _) fun _ ↦ ih
    · exact .fail _

theorem steady_lookupParameter (hstore : ∀ store ∈ r.store, store.AnswersBy answer) (key : String)
    (inline : Option (List Char)) : (r.lookupParameter key inline).Steady := by
  rcases r.lookupParameter_cases key inline with
    h | h | ⟨-, name, h⟩ | ⟨store, hr, h⟩ <;> rw [h]
  · exact .bind (.log _) fun _ ↦ .pure _
  · exact .fail _
  · exact .fail _
  · refine .bind (steady_firstFound (hstore store hr) _) fun found ↦ ?_
    cases found with
    | some value => exact .pure _
    | none => exact steady_fallbackOr key inline _

/-- Over a store that answers by name a token has the same value at any time. -/
theorem steady_lookup (hstore : ∀ store ∈ r.store, store.AnswersBy answer) (env : Environment)
    (t : Token) : (r.lookup env t).Steady := by
  unfold lookup
  split
  · unfold lookupVariable
    split
    · exact .pure _
    · exact steady_fallbackOr _ _ _
  · exact steady_lookupParameter hstore _ _

/-! ## The calls and the result -/

/-- A lookup over a store that answers by name asks for the candidates up to the first one that is
not missing, each once and in order. A value is the result, any other failure is the error and
names its candidate, whatever the defaults are. When all candidates are missing the defaults
follow, and an error names the key and all candidates. A key without candidates and a missing
store fail before anything is asked. -/
theorem lookupParameter_candidates (hskip : r.options.skipRemote = false)
    (hstore : ∀ store ∈ r.store, store.AnswersBy answer) (key : String)
    (inline : Option (List Char)) (s : σ) :
    let names := candidates r.options.rootPaths key
    let out := r.lookupParameter key inline s
    (key.toList.head? ≠ some '/' → r.options.rootPaths = [] →
      out = ⟨.error (.keyNotQualified key), [], s⟩) ∧
    (∀ first rest, names = first :: rest → r.store = none →
      out = ⟨.error (.backendUnavailable first "no parameter store configured"), [], s⟩) ∧
    (r.store.isSome → ∀ missed name rest, names = missed ++ name :: rest →
      (∀ other ∈ missed, IsMissing (answer other)) → ¬ IsMissing (answer name) →
        callsOf out.events = (missed ++ [name]).map .get ∧
        (∀ value, answer name = .ok value → out.result = .ok value.toList) ∧
        (∀ text, answer name = .error (.unavailable text) →
          out.result = .error (.backendUnavailable name text)) ∧
        (∀ text, answer name = .error (.other text) →
          out.result = .error (.backendOther name text))) ∧
    (r.store.isSome → names ≠ [] → (∀ name ∈ names, IsMissing (answer name)) →
      callsOf out.events = names.map .get ∧
        out.result = match inline, r.options.defaultValue with
          | some text, _ => .ok text
          | none, some text => .ok text.toList
          | none, none => .error (.missingParameter key names)) := by
  intro names out
  refine ⟨fun hkey hroots ↦ ?_, fun first rest hnames hnone ↦ ?_,
    fun hsome missed name rest hnames hmissed hname ↦ ?_, fun hsome hne hmissed ↦ ?_⟩
  · have hnames : candidates r.options.rootPaths key = [] := by
      rw [candidates, if_neg hkey, hroots, List.map_nil]
    simp only [out, lookupParameter_of_no_candidate hskip hnames, Run.fail_apply]
  · have hne : names ≠ [] := by simp [hnames]
    have hfirst : (candidates r.options.rootPaths key).headD "" = first :=
      congrArg (List.headD · "") hnames
    simp only [out, lookupParameter_of_no_store hskip hne hnone, hfirst, Run.fail_apply]
  · obtain ⟨store, hr⟩ := Option.isSome_iff_exists.1 hsome
    obtain ⟨events, s', hcalls, hout⟩ :=
      lookupParameter_of_hit hskip hr (hstore store hr) hnames hmissed hname inline s
    simp only [out, hout]
    refine ⟨hcalls, fun value hvalue ↦ ?_, fun text htext ↦ ?_, fun text htext ↦ ?_⟩
    · rw [hvalue]
      rfl
    · rw [htext]
      rfl
    · rw [htext]
      rfl
  · obtain ⟨store, hr⟩ := Option.isSome_iff_exists.1 hsome
    exact lookupParameter_of_all_missed hskip hr (hstore store hr) hne hmissed inline s

/-- With three roots an outage under the second is the error, and the third is not asked for. -/
theorem lookupParameter_candidates_outage :
    let options : Options :=
      { rootPaths := ["/a/", "/b/", "/c/"], defaultValue := some "default" }
    let answer := fun name ↦
      if name = "/a/key" then .error (.notFound "gone") else .error (.unavailable "down")
    let store : Store Unit := .ofAnswers ⟨answer, fun _ _ ↦ .ok ⟨[], none⟩⟩
    let out := lookupParameter ⟨options, some store⟩ "key" (some ['x']) ()
    callsOf out.events = [.get "/a/key", .get "/b/key"] ∧
      out.result = .error (.backendUnavailable "/b/key" "down") := by
  intro options answer store out
  have hstore : ∀ other ∈ some store, other.AnswersBy answer :=
    fun other hother ↦ Option.some.inj hother ▸ Store.answersBy_ofAnswers _
  obtain ⟨-, -, hhit, -⟩ := lookupParameter_candidates (r := ⟨options, some store⟩) rfl hstore
    "key" (some ['x']) ()
  obtain ⟨hcalls, -, hunavailable, -⟩ := hhit rfl ["/a/key"] "/b/key" ["/c/key"] (by decide)
    (by simpa [answer] using ⟨"gone", rfl⟩) (by simp [IsMissing, answer])
  exact ⟨hcalls, hunavailable "down" rfl⟩

end Resolver

end ConfigResolver
