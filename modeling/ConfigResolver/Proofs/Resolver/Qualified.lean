import ConfigResolver.Proofs.Resolver.Document
import ConfigResolver.Proofs.Resolver.Inquiry
import ConfigResolver.Proofs.Resolver.Listing
import ConfigResolver.Proofs.Resolver.Operation

/-!
# The names that leave a resolver

`Resolver.TokensOf` says which tokens come up in a text: after the leftmost one the value that the
resolver has for it stands in its place, and may hold others. So each question to a resolver has its
inquiries (`Operation.Inquires`), and the store is asked what puts them, and nothing else.

Main statement: `performAll_qualified`.
-/

namespace ConfigResolver

namespace Resolver

open Inquiry Placeholder

variable {σ : Type} {r : Resolver σ} {store : Store σ} {env : Environment}

/-! ## What is asked for -/

/-- `TokensOf r env s ts`: the tokens `ts` come up in the text `s`, one after the other. -/
inductive TokensOf (r : Resolver σ) (env : Environment) : List Char → List Token → Prop
  /-- Nothing is looked at. -/
  | stop (s : List Char) : TokensOf r env s []
  /-- The leftmost token comes up, and nothing after it. -/
  | last {s : List Char} {p : Placeholder} (hfind : find s = some p) : TokensOf r env s [p.token]
  /-- The leftmost token comes up, and its value takes its place. -/
  | next {s value : List Char} {st : σ} {p : Placeholder} {ts : List Token}
      (hfind : find s = some p) (hvalue : (r.lookup env p.token st).result = .ok value)
      (hrest : TokensOf r env (p.substitute value) ts) : TokensOf r env s (p.token :: ts)

/-- `TokensIn r env texts ts`: the tokens `ts` come up in some texts, text after text. -/
inductive TokensIn (r : Resolver σ) (env : Environment) : List String → List Token → Prop
  /-- No other text is looked at. -/
  | stop (texts : List String) : TokensIn r env texts []
  /-- Those of the first text come up, then those of the others. -/
  | next {text : String} {texts : List String} {ts us : List Token}
      (h : TokensOf r env text.toList ts) (hrest : TokensIn r env texts us) :
      TokensIn r env (text :: texts) (ts ++ us)

/-- The requests put what the tokens ask that come up in some texts. -/
def AsksIn (r : Resolver σ) (env : Environment) (texts : List String) (calls : List Call) : Prop :=
  ∃ ts, TokensIn r env texts ts ∧
    PutsAll r.options.rootPaths (ts.flatMap Token.inquiries) calls

/-- The texts of a document. -/
def textsOf (v : Value) : List String := (leaves "" v).map Leaf.text

namespace Operation

/-- The texts that a question is about. -/
def texts : Operation → List String
  | document doc resolveKey _ => textsOf (select doc resolveKey)
  | file files path resolveKey _ =>
    match files.load path with
    | .ok doc => textsOf (select doc resolveKey)
    | .error _ => []
  | text s => [s]
  | parameter _ | listing _ _ => []

/-- The inquiry that a question itself is. -/
def inquiries : Operation → List Inquiry
  | parameter key => [.parameter key]
  | listing _ path => [.listing path]
  | document .. | file .. | text _ => []

/-- What the store is to be asked about to answer a question: what the question says, or what the
tokens say that come up in its texts. -/
def Inquires (r : Resolver σ) (env : Environment) (op : Operation) (asked : List Inquiry) : Prop :=
  ∃ ts, TokensIn r env op.texts ts ∧ asked = op.inquiries ++ ts.flatMap Token.inquiries

end Operation

/-! ## One inquiry -/

theorem exists_asked_of_firstFound (store : Store σ) (names : List String) (s : σ) :
    ∃ asked, asked <+: names ∧ callsOf (firstFound store names s).events = asked.map .get := by
  induction names generalizing s with
  | nil => exact ⟨[], List.nil_prefix, rfl⟩
  | cons name rest ih =>
    match hget : (store.get name s).1 with
    | .ok value =>
      rw [firstFound_of_value hget]
      exact ⟨[name], List.prefix_append [name] rest, rfl⟩
    | .error (.notFound text) =>
      obtain ⟨asked, hasked, hcalls⟩ := ih (store.get name s).2
      rw [firstFound_of_missing hget]
      refine ⟨name :: asked, (List.prefix_cons_inj name).2 hasked, ?_⟩
      rw [List.map_cons, ← hcalls]
      rfl
    | .error (.unavailable _) | .error (.other _) =>
      rw [firstFound_of_failure hget nofun]
      exact ⟨[name], List.prefix_append [name] rest, rfl⟩

theorem callsOf_fallbackOr (key : String) (inline : Option (List Char)) (missing : Error) (s : σ) :
    callsOf (r.fallbackOr key inline missing s).events = [] := by
  rw [fallbackOr_apply]
  split <;> rfl

/-- What is done with the answer of a search asks for nothing more. -/
theorem callsOf_valueOr (key : String) (inline : Option (List Char)) (names : List String)
    (found : Option String) (s : σ) : callsOf (r.valueOr key inline names found s).events = [] := by
  cases found with
  | some value => rfl
  | none => exact callsOf_fallbackOr key inline _ s

theorem puts_lookupParameter (r : Resolver σ) (key : String) (inline : Option (List Char)) (s : σ) :
    Puts r.options.rootPaths (.parameter key)
      (callsOf (r.lookupParameter key inline s).events) := by
  have hnone : Puts r.options.rootPaths (.parameter key) [] := .parameter List.nil_prefix
  rcases r.lookupParameter_cases key inline with h | h | ⟨-, name, h⟩ | ⟨store, -, h⟩ <;> rw [h]
  · exact hnone
  · exact hnone
  · exact hnone
  · obtain ⟨asked, hasked, hcalls⟩ :=
      exists_asked_of_firstFound store (candidates r.options.rootPaths key) s
    have hputs : Puts r.options.rootPaths (.parameter key) (asked.map .get) := .parameter hasked
    rw [← hcalls] at hputs
    rw [Run.callsOf_bind_left (callsOf_valueOr key inline _)]
    exact hputs

theorem putsAll_lookup (r : Resolver σ) (env : Environment) (t : Token) (s : σ) :
    PutsAll r.options.rootPaths t.inquiries (callsOf (r.lookup env t s).events) := by
  unfold lookup Token.inquiries
  cases t.source with
  | environment =>
    have hcalls :
        callsOf (r.lookupVariable env (String.ofList t.key) t.fallback s).events = [] := by
      unfold lookupVariable
      cases env.lookup (String.ofList t.key) with
      | some value => rfl
      | none => exact callsOf_fallbackOr _ _ _ s
    simp only [hcalls]
    exact .nil
  | parameterStore => exact .singleton (puts_lookupParameter r _ _ s)

/-! ## Texts -/

/-- The store is asked about the tokens that come up, and about nothing else. -/
theorem exists_tokensOf_substituteAll (r : Resolver σ) (env : Environment) (budget : Nat)
    (s : List Char) (st : σ) :
    ∃ ts, TokensOf r env s ts ∧ PutsAll r.options.rootPaths (ts.flatMap Token.inquiries)
      (callsOf (r.substituteAll env budget s st).events) := by
  induction budget generalizing s st with
  | zero =>
    refine ⟨[], .stop s, ?_⟩
    cases hfind : find s with
    | none =>
      rw [substituteAll_of_find_none hfind]
      exact .nil
    | some p =>
      rw [substituteAll_zero_of_find hfind]
      exact .nil
  | succ budget ih =>
    cases hfind : find s with
    | none =>
      rw [substituteAll_of_find_none hfind]
      exact ⟨[], .stop s, .nil⟩
    | some p =>
      have hlookup := putsAll_lookup r env p.token st
      cases hvalue : (r.lookup env p.token st).result with
      | error e =>
        rw [substituteAll_of_error hfind hvalue]
        refine ⟨[p.token], .last hfind, ?_⟩
        simpa using hlookup
      | ok value =>
        obtain ⟨ts, hts, hputs⟩ := ih (p.substitute value) (r.lookup env p.token st).store
        rw [substituteAll_of_value hfind hvalue]
        refine ⟨p.token :: ts, .next hfind hvalue hts, ?_⟩
        rw [callsOf_append]
        exact hlookup.append hputs

theorem exists_tokensOf_resolveString (r : Resolver σ) (env : Environment) (s : String) (st : σ) :
    ∃ ts, TokensOf r env s.toList ts ∧ PutsAll r.options.rootPaths (ts.flatMap Token.inquiries)
      (callsOf (r.resolveString env s st).events) := by
  rw [resolveString_eq]
  exact exists_tokensOf_substituteAll r env _ _ st

theorem asksIn_resolveLeaves (r : Resolver σ) (env : Environment) (ls : List Leaf) (st : σ) :
    AsksIn r env (ls.map Leaf.text) (callsOf (r.resolveLeaves env ls st).events) := by
  induction ls generalizing st with
  | nil => exact ⟨[], .stop _, .nil⟩
  | cons leaf ls ih =>
    obtain ⟨ts, hts, hputs⟩ := exists_tokensOf_resolveString r env leaf.text st
    rw [← List.singleton_append, resolveLeaves_append, resolveLeaves_singleton]
    have hevents : ((r.resolveLeaf env leaf).course st).events =
        (r.resolveString env leaf.text st).events := by
      rw [course_resolveLeaf_apply]
    cases hleaf : ((r.resolveLeaf env leaf).course st).result with
    | error e =>
      rw [Run.bind_of_error hleaf, hevents]
      refine ⟨ts ++ [], .next hts (.stop _), ?_⟩
      rw [List.append_nil]
      exact hputs
    | ok _ =>
      obtain ⟨us, hus, hrest⟩ := ih ((r.resolveLeaf env leaf).course st).store
      rw [Run.bind_of_ok hleaf, hevents, callsOf_append]
      refine ⟨ts ++ us, .next hts hus, ?_⟩
      rw [List.flatMap_append]
      exact hputs.append hrest

/-! ## Documents -/

mutual

/-- A document has the same texts wherever it is put. -/
theorem map_text_leaves (path path' : String) :
    (v : Value) → (leaves path v).map Leaf.text = (leaves path' v).map Leaf.text
  | .string _ => rfl
  | .sequence items => map_text_leavesOfItems path path' 0 0 items
  | .mapping entries => map_text_leavesOfEntries path path' entries
  | .null | .bool _ | .integer _ | .float _ => rfl

theorem map_text_leavesOfItems (path path' : String) (index index' : Nat) :
    (items : List Value) → (leavesOfItems path index items).map Leaf.text =
      (leavesOfItems path' index' items).map Leaf.text
  | [] => rfl
  | item :: rest => by
    rw [leavesOfItems, leavesOfItems, List.map_append, List.map_append,
      map_text_leaves (itemPath path index) (itemPath path' index') item,
      map_text_leavesOfItems path path' (index + 1) (index' + 1) rest]

theorem map_text_leavesOfEntries (path path' : String) :
    (entries : List (String × Value)) → (leavesOfEntries path entries).map Leaf.text =
      (leavesOfEntries path' entries).map Leaf.text
  | [] => rfl
  | (key, value) :: rest => by
    rw [leavesOfEntries, leavesOfEntries, List.map_append, List.map_append,
      map_text_leaves (entryPath path key) (entryPath path' key) value,
      map_text_leavesOfEntries path path' rest]

end

/-- The place of a document does not matter for what is asked for. -/
theorem asksIn_walk (r : Resolver σ) (env : Environment) (path : String) (v : Value) (st : σ) :
    AsksIn r env (textsOf v) (callsOf (r.walk env path v st).events) := by
  have hevents :
      (r.walk env path v st).events = (r.resolveLeaves env (leaves path v) st).events := by
    rw [← course_walk, Run.course_apply]
  rw [hevents, textsOf, map_text_leaves "" path]
  exact asksIn_resolveLeaves r env (leaves path v) st

theorem asksIn_resolveUnder (r : Resolver σ) (env : Environment) (doc : Value) (key : String)
    (st : σ) : AsksIn r env (textsOf (select doc (some key)))
      (callsOf (r.resolveUnder env doc key st).events) := by
  cases doc with
  | mapping entries =>
    cases hkey : entries.lookup key with
    | some node =>
      have hselect : select (.mapping entries) (some key) = node := by
        simp [select, Value.get?, Value.entries?, hkey]
      simp only [resolveUnder, hkey, hselect]
      rw [Run.callsOf_bind_left fun _ _ ↦ rfl]
      exact asksIn_walk r env key node st
    | none =>
      have hselect : select (.mapping entries) (some key) = .mapping entries := by
        simp [select, Value.get?, Value.entries?, hkey]
      simp only [resolveUnder, hkey, hselect]
      exact asksIn_walk r env "" (.mapping entries) st
  | null | bool _ | integer _ | float _ | string _ | sequence _ =>
    exact asksIn_walk r env "" _ st

theorem asksIn_resolveDocument (r : Resolver σ) (env : Environment) (doc : Value)
    (resolveKey returnKey : Option String) (st : σ) :
    AsksIn r env (textsOf (select doc resolveKey))
      (callsOf (r.resolveDocument env doc resolveKey returnKey st).events) := by
  cases resolveKey with
  | none =>
    have hcalls : callsOf (r.resolveDocument env doc none returnKey st).events =
        callsOf (r.walk env "" doc st).events := Run.callsOf_bind_left (fun _ _ ↦ rfl) st
    rw [hcalls]
    exact asksIn_walk r env "" doc st
  | some key =>
    have hcalls : callsOf (r.resolveDocument env doc (some key) returnKey st).events =
        callsOf (r.resolveUnder env doc key st).events := Run.callsOf_bind_left (fun _ _ ↦ rfl) st
    rw [hcalls]
    exact asksIn_resolveUnder r env doc key st

/-! ## Listings -/

/-- A listing that was not cut short at once has asked for a page, and then for those that tokens
ask for. -/
theorem Transcript.exists_tokens {path : String} {found : List Parameter} {seen : List String}
    {token : Option String} {events : List Event}
    {answer : Option (Except StoreError (List Parameter))}
    (h : Transcript path found seen token events answer) :
    events = [] ∧ answer = none ∨ ∃ tokens : List String, callsOf events =
      .list path token :: tokens.map fun token ↦ .list path (some token) := by
  induction h with
  | cut found seen token => exact .inl ⟨rfl, rfl⟩
  | failed found seen token e => exact .inr ⟨[], rfl⟩
  | last found seen token hnext => exact .inr ⟨[], rfl⟩
  | repeated found seen token hnext hseen => exact .inr ⟨[], rfl⟩
  | @more found seen token page next events answer hnext hseen hrest ih =>
    right
    rcases ih with ⟨rfl, -⟩ | ⟨tokens, htokens⟩
    · exact ⟨[], rfl⟩
    · refine ⟨next :: tokens, ?_⟩
      rw [List.map_cons, ← htokens]
      rfl

/-- A listing that comes to something has asked for the first page. -/
theorem Transcript.exists_pageCalls {path : String} {events : List Event}
    {answer : Except StoreError (List Parameter)}
    (h : Transcript path [] [] none events (some answer)) :
    ∃ tokens, callsOf events = pageCalls path tokens := by
  rcases h.exists_tokens with ⟨-, hnone⟩ | htokens
  · cases hnone
  · exact htokens

/-- The first paths are listed, each in its turn. -/
theorem Sweep.exists_asked {paths : List String} {events : List Event}
    {result : Except Error (Option (List Parameter))} (h : Sweep paths events result) :
    ∃ asked : List (String × List String), asked.map Prod.fst <+: paths ∧
      callsOf events = asked.flatMap fun pages ↦ pageCalls pages.1 pages.2 := by
  have hone : ∀ {path rest events} (tokens : List String),
      callsOf events = pageCalls path tokens →
      ∃ asked : List (String × List String), asked.map Prod.fst <+: path :: rest ∧
        callsOf events = asked.flatMap fun pages ↦ pageCalls pages.1 pages.2 :=
    fun {path rest} _ tokens htokens ↦
      ⟨[(path, tokens)], List.prefix_append [path] rest, by simpa using htokens⟩
  induction h with
  | done => exact ⟨[], List.nil_prefix, rfl⟩
  | cut h =>
    rcases h.exists_tokens with ⟨rfl, -⟩ | ⟨tokens, htokens⟩
    · exact ⟨[], List.nil_prefix, rfl⟩
    · exact hone tokens htokens
  | hit h =>
    obtain ⟨tokens, htokens⟩ := h.exists_pageCalls
    exact hone tokens htokens
  | @passed path rest events later answer result h hanswer hrest ih =>
    obtain ⟨tokens, htokens⟩ := h.exists_pageCalls
    obtain ⟨asked, hasked, hcalls⟩ := ih
    refine ⟨(path, tokens) :: asked, (List.prefix_cons_inj path).2 hasked, ?_⟩
    have hlog : callsOf (.log (.nothingUnder path) :: later) = callsOf later := rfl
    rw [callsOf_append, htokens, hlog, hcalls, List.flatMap_cons]
  | failed h he =>
    obtain ⟨tokens, htokens⟩ := h.exists_pageCalls
    exact hone tokens htokens

theorem puts_listParameters (r : Resolver σ) (pages : Nat) (path : Option String) (s : σ) :
    Puts r.options.rootPaths (.listing path) (callsOf (r.listParameters pages path s).events) := by
  have hnil : ([] : List (String × List String)).map Prod.fst <+:
      (listing path).names r.options.rootPaths := List.nil_prefix
  have hnone : Puts r.options.rootPaths (.listing path) [] := .listing hnil
  rcases r.listParameters_cases pages path with
    h | ⟨key, h⟩ | ⟨-, name, h⟩ | ⟨store, paths, -, hpaths, h⟩ <;> rw [h]
  · exact hnone
  · exact hnone
  · exact hnone
  · obtain ⟨asked, hasked, hcalls⟩ := (sweep_firstListing store pages paths s).exists_asked
    rw [listingPaths_eq] at hpaths
    split at hpaths
    · cases hpaths
    · obtain rfl := Except.ok.inj hpaths
      rw [hcalls]
      exact .listing hasked

/-! ## Questions -/

/-- One question: the store is asked about what the question inquires, and about nothing else. -/
theorem inquires_perform (r : Resolver σ) (env : Environment) (op : Operation) (s : σ) :
    ∃ asked, op.Inquires r env asked ∧
      PutsAll r.options.rootPaths asked (callsOf (r.perform env op s).events) := by
  have hmap : ∀ {α : Type} (x : Run σ α) (f : α → Answer),
      callsOf ((f <$> x) s).events = callsOf (x s).events := fun x f ↦ by rw [Run.map_apply]
  cases op with
  | document doc resolveKey returnKey =>
    obtain ⟨ts, hts, hputs⟩ :=
      asksIn_resolveDocument r env doc resolveKey returnKey s
    rw [perform, hmap]
    exact ⟨_, ⟨ts, hts, rfl⟩, hputs⟩
  | file files path resolveKey returnKey =>
    rw [perform, hmap, resolveFile]
    cases hload : files.load path with
    | error e =>
      have htexts : (Operation.file files path resolveKey returnKey).texts = [] := by
        simp only [Operation.texts, hload]
      exact ⟨[], ⟨[], htexts ▸ .stop [], rfl⟩, .nil⟩
    | ok doc =>
      obtain ⟨ts, hts, hputs⟩ :=
        asksIn_resolveDocument r env doc resolveKey returnKey s
      have htexts : (Operation.file files path resolveKey returnKey).texts =
          textsOf (select doc resolveKey) := by
        simp only [Operation.texts, hload]
      exact ⟨_, ⟨ts, htexts ▸ hts, rfl⟩, hputs⟩
  | text text =>
    obtain ⟨ts, hts, hputs⟩ := exists_tokensOf_resolveString r env text s
    rw [perform, hmap]
    refine ⟨_, ⟨ts ++ [], .next hts (.stop []), rfl⟩, ?_⟩
    rw [List.append_nil]
    exact hputs
  | parameter key =>
    rw [perform, hmap, getParameter, Run.map_apply]
    exact ⟨_, ⟨[], .stop _, rfl⟩, .singleton (puts_lookupParameter r key none s)⟩
  | listing pages path =>
    rw [perform, hmap]
    exact ⟨_, ⟨[], .stop _, rfl⟩, .singleton (puts_listParameters r pages path s)⟩

/-- Every name that leaves a resolver is a full name. The roots of a resolver that is made from some
options are those of the options, in order, and start and end with a slash. Whatever it is asked
for, and however often, over any store: the requests of each question put what the question
inquires, which is the absolute key or path itself, or the roots in order with the relative one
behind each, or for a listing without a path the roots; and each of them starts with a slash. -/
theorem performAll_qualified {options : Options} (h : MadeFrom options r) (env : Environment)
    (ops : List Operation) (s : σ) :
    let roots := r.options.rootPaths
    (roots = options.rootPaths.map Options.rooted ∧
      ∀ root ∈ roots, IsAbsolute root ∧ root.toList.getLast? = some '/') ∧
    List.Forall₂ (fun op out ↦
      (∃ asked, op.Inquires r env asked ∧ PutsAll roots asked (callsOf out.events)) ∧
      ∀ call ∈ callsOf out.events, IsAbsolute call.name) ops (r.performAll env ops s) := by
  intro roots
  obtain ⟨habsolute, hroots⟩ := h.roots
  have hnormal : ∀ root ∈ roots, IsAbsolute root ∧ root.toList.getLast? = some '/' := by
    simp only [roots, hroots, List.forall_mem_map]
    exact fun path hpath ↦
      ⟨Options.isAbsolute_rooted (habsolute path hpath), Options.getLast?_rooted path⟩
  refine ⟨⟨hroots, hnormal⟩, ?_⟩
  induction ops generalizing s with
  | nil => exact .nil
  | cons op ops ih =>
    obtain ⟨asked, hasked, hputs⟩ := inquires_perform r env op s
    exact .cons ⟨⟨asked, hasked, hputs⟩,
      hputs.isAbsolute fun root hroot ↦ (hnormal root hroot).1⟩ (ih _)

/-- The value under the second root holds a token with an absolute key. -/
theorem performAll_qualified_rescanned :
    let answer := fun name ↦
      if name = "/b/x" then .ok "\x7b!SSM: /c\x7d" else if name = "/c" then .ok "1"
      else .error (.notFound name)
    let store : Store Unit := .ofAnswers ⟨answer, fun _ _ ↦ .ok ⟨[], none⟩⟩
    let options : Options := { rootPaths := ["/a", "/b/"] }
    let r : Resolver Unit := ⟨{ options with rootPaths := ["/a/", "/b/"] }, some store⟩
    let ops := [.text "\x7b!SSM: x\x7d", .listing 1 none]
    let outs := r.performAll .empty ops ()
    withStore options store = .ok r ∧
      outs.map (fun out ↦ callsOf out.events) =
        [[.get "/a/x", .get "/b/x", .get "/c"], [.list "/a/" none, .list "/b/" none]] ∧
      List.Forall₂ (fun op out ↦ ∃ asked, op.Inquires r .empty asked ∧
        PutsAll ["/a/", "/b/"] asked (callsOf out.events)) ops outs := by
  intro answer store options r ops outs
  have hr : withStore options store = .ok r := rfl
  obtain ⟨-, hqualified⟩ := performAll_qualified (.inr (.inl ⟨store, hr⟩)) .empty ops ()
  exact ⟨hr, by decide +kernel, hqualified.imp fun _ _ h ↦ h.1⟩

end Resolver

end ConfigResolver
