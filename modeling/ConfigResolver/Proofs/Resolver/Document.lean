import ConfigResolver.Proofs.Resolver.Substitution
import ConfigResolver.Proofs.Value.Binding
import ConfigResolver.Resolver.Document

/-!
# Documents are resolved text by text

`leaves` lists the texts of a document in its order, each with its place. What happens when a
document is resolved is what happens when its leaves are resolved one after the other
(`course_walk`), whatever the store does. Where every text has one value, the document has the
value that has these in the places of the texts (`walk_yields`). Main statement:
`resolveDocument_pointwise`.

A mapping is built anew by binding its keys one after the other. As no key occurs twice in it,
each is bound at the end, and so the new mapping has the keys of the old one in their order.
-/

namespace ConfigResolver

namespace Value

mutual

/-- The node with each of its texts changed and all else as it is. -/
def mapTexts (g : String → String) : Value → Value
  | .string s => .string (g s)
  | .sequence items => .sequence (mapTextsOfItems g items)
  | .mapping entries => .mapping (mapTextsOfEntries g entries)
  | other => other

/-- The items with each of their texts changed. -/
def mapTextsOfItems (g : String → String) : List Value → List Value
  | [] => []
  | item :: rest => mapTexts g item :: mapTextsOfItems g rest

/-- The entries with each of their texts changed, under the keys that they have. -/
def mapTextsOfEntries (g : String → String) : List (String × Value) → List (String × Value)
  | [] => []
  | (key, value) :: rest => (key, mapTexts g value) :: mapTextsOfEntries g rest

end

end Value

namespace Resolver

variable {σ : Type} {r : Resolver σ} {env : Environment}

/-! ## Leaves -/

/-- A text of a document. -/
structure Leaf where
  /-- Where in the document it is. -/
  place : String
  /-- The text. -/
  text : String
deriving DecidableEq, Repr

mutual

/-- The texts of the node at a place, in the order of the document. -/
def leaves (path : String) : Value → List Leaf
  | .string s => [⟨path, s⟩]
  | .sequence items => leavesOfItems path 0 items
  | .mapping entries => leavesOfEntries path entries
  | _ => []

/-- The texts of the items of the sequence at a place, from a position on. -/
def leavesOfItems (path : String) (index : Nat) : List Value → List Leaf
  | [] => []
  | item :: rest => leaves (itemPath path index) item ++ leavesOfItems path (index + 1) rest

/-- The texts of the entries of the mapping at a place. -/
def leavesOfEntries (path : String) : List (String × Value) → List Leaf
  | [] => []
  | (key, value) :: rest => leaves (entryPath path key) value ++ leavesOfEntries path rest

end

/-- The text of a leaf, resolved in its place. -/
def resolveLeaf (r : Resolver σ) (env : Environment) (leaf : Leaf) : Run σ String :=
  Run.mapError (·.orPath leaf.place) (r.resolveString env leaf.text)

theorem course_resolveLeaf_apply (leaf : Leaf) (st : σ) :
    (r.resolveLeaf env leaf).course st =
      ⟨((r.resolveString env leaf.text st).result.mapError (·.orPath leaf.place)).map fun _ ↦ (),
        (r.resolveString env leaf.text st).events, (r.resolveString env leaf.text st).store⟩ :=
  Run.course_apply _ _

theorem course_resolveLeaf_eq_ok {leaf : Leaf} {st : σ} :
    ((r.resolveLeaf env leaf).course st).result = .ok () ↔
      ∃ value, (r.resolveString env leaf.text st).result = .ok value := by
  rw [course_resolveLeaf_apply]
  cases (r.resolveString env leaf.text st).result <;> simp [Except.mapError, Except.map]

/-- An error of a leaf is that of its text, with the place of the leaf if it names none. -/
theorem course_resolveLeaf_eq_error {leaf : Leaf} {st : σ} {e : Error} :
    ((r.resolveLeaf env leaf).course st).result = .error e ↔
      ∃ e', (r.resolveString env leaf.text st).result = .error e' ∧ e = e'.orPath leaf.place := by
  rw [course_resolveLeaf_apply]
  cases (r.resolveString env leaf.text st).result <;>
    simp [Except.mapError, Except.map, eq_comm]

/-! ## What happens -/

/-- The leaves, resolved one after the other. -/
def resolveLeaves (r : Resolver σ) (env : Environment) (ls : List Leaf) : Run σ Unit :=
  forM ls fun leaf ↦ (r.resolveLeaf env leaf).course

@[simp] theorem resolveLeaves_nil : r.resolveLeaves env [] = pure () := rfl

theorem resolveLeaves_singleton (leaf : Leaf) :
    r.resolveLeaves env [leaf] = (r.resolveLeaf env leaf).course := by
  simp [resolveLeaves]

@[simp] theorem resolveLeaves_append (ls ls' : List Leaf) :
    r.resolveLeaves env (ls ++ ls') =
      r.resolveLeaves env ls >>= fun _ ↦ r.resolveLeaves env ls' := by
  simp [resolveLeaves]

mutual

/-- Resolving a node takes the course of resolving its leaves one after the other. -/
theorem course_walk (path : String) :
    (v : Value) → (r.walk env path v).course = r.resolveLeaves env (leaves path v)
  | .string s => by
    rw [walk, Run.mapError_map, Run.course_map, leaves, resolveLeaves_singleton]
    rfl
  | .sequence items => by
    rw [walk, Run.course_map, course_walkItems path 0 items, leaves]
  | .mapping entries => by
    rw [walk, Run.course_map, course_walkEntries path [] entries, leaves]
  | .null | .bool _ | .integer _ | .float _ => by
    simp [walk, leaves]

/-- The items are resolved one after the other. -/
theorem course_walkItems (path : String) (index : Nat) :
    (items : List Value) → (r.walkItems env path index items).course =
      r.resolveLeaves env (leavesOfItems path index items)
  | [] => by
    simp [walkItems, leavesOfItems]
  | item :: rest => by
    calc (r.walkItems env path index (item :: rest)).course
      _ = r.walk env (itemPath path index) item >>= fun _ ↦
            (r.walkItems env path (index + 1) rest).course := by
          simp [walkItems, Run.course]
      _ = _ := by
          rw [Run.bind_eq_course_bind, course_walk, course_walkItems path (index + 1) rest,
            leavesOfItems, resolveLeaves_append]

/-- The entries are resolved one after the other, whatever is bound already. -/
theorem course_walkEntries (path : String) (built : List (String × Value)) :
    (entries : List (String × Value)) → (r.walkEntries env path built entries).course =
      r.resolveLeaves env (leavesOfEntries path entries)
  | [] => by
    simp [walkEntries, leavesOfEntries]
  | (key, value) :: rest => by
    calc (r.walkEntries env path built ((key, value) :: rest)).course
      _ = r.walk env (entryPath path key) value >>= fun node ↦
            (r.walkEntries env path (Value.insertEntry key node built) rest).course := by
          rw [walkEntries, Run.course_bind]
      _ = r.walk env (entryPath path key) value >>= fun _ ↦
            r.resolveLeaves env (leavesOfEntries path rest) := by
          simp only [course_walkEntries path _ rest]
      _ = _ := by
          rw [Run.bind_eq_course_bind, course_walk, leavesOfEntries, resolveLeaves_append]

end

/-! ## What comes out -/

section Values

variable {g : String → String}

mutual

/-- Where each text has one value, a node has the value with these in the places of its texts. -/
theorem walk_yields (path : String) : (v : Value) → v.Distinct →
    (∀ leaf ∈ leaves path v, (r.resolveString env leaf.text).Yields (g leaf.text)) →
    (r.walk env path v).Yields (v.mapTexts g)
  | .string s, _, h => by
    rw [walk, Value.mapTexts]
    exact .mapError _ (.map _ (h ⟨path, s⟩ (by simp [leaves])))
  | .sequence items, hd, h => by
    rw [walk, Value.mapTexts]
    exact .map _ (walkItems_yields path 0 items hd h)
  | .mapping entries, hd, h => by
    obtain ⟨hkeys, hd⟩ := hd
    rw [walk, Value.mapTexts]
    exact .map _ (walkEntries_yields path [] entries hkeys hd h)
  | .null, _, _ | .bool _, _, _ | .integer _, _, _ | .float _, _, _ => by
    simp only [walk, Value.mapTexts]
    exact .pure _

theorem walkItems_yields (path : String) (index : Nat) :
    (items : List Value) → Value.DistinctItems items →
    (∀ leaf ∈ leavesOfItems path index items,
      (r.resolveString env leaf.text).Yields (g leaf.text)) →
    (r.walkItems env path index items).Yields (Value.mapTextsOfItems g items)
  | [], _, _ => by
    rw [walkItems, Value.mapTextsOfItems]
    exact .pure _
  | item :: rest, hd, h => by
    rw [leavesOfItems, List.forall_mem_append] at h
    rw [walkItems, Value.mapTextsOfItems]
    exact .bind (walk_yields _ item hd.1 h.1)
      (.bind (walkItems_yields path (index + 1) rest hd.2 h.2) (.pure _))

theorem walkEntries_yields (path : String) (built : List (String × Value)) :
    (entries : List (String × Value)) → ((built ++ entries).map Prod.fst).Nodup →
    Value.DistinctEntries entries →
    (∀ leaf ∈ leavesOfEntries path entries,
      (r.resolveString env leaf.text).Yields (g leaf.text)) →
    (r.walkEntries env path built entries).Yields (built ++ Value.mapTextsOfEntries g entries)
  | [], _, _, _ => by
    rw [walkEntries, Value.mapTextsOfEntries, List.append_nil]
    exact .pure _
  | (key, value) :: rest, hkeys, hd, h => by
    rw [leavesOfEntries, List.forall_mem_append] at h
    have hkey : key ∉ built.map Prod.fst := by
      rw [List.map_append] at hkeys
      exact fun hmem ↦ (List.nodup_append.1 hkeys).2.2 key hmem key (by simp) rfl
    rw [walkEntries, Value.mapTextsOfEntries]
    refine .bind (walk_yields _ value hd.1 h.1) ?_
    rw [Value.insertEntry_of_notMem hkey,
      List.append_cons built (key, value.mapTexts g) (Value.mapTextsOfEntries g rest)]
    refine walkEntries_yields path _ rest ?_ hd.2 h.2
    simpa using hkeys

end

end Values

/-! ## The document -/

section Document

variable {answer : String → Except StoreError String}
  (hstore : ∀ store ∈ r.store, store.AnswersBy answer)

include hstore

theorem steady_resolveLeaf (leaf : Leaf) : (r.resolveLeaf env leaf).Steady :=
  .mapError _ (steady_resolveString hstore env leaf.text)

theorem steady_walk (env : Environment) (path : String) (v : Value) : (r.walk env path v).Steady :=
  (related_steady hstore env).walk path v

/-- Either every leaf has a value, or the first that has none ends the walk. -/
theorem walk_cases (path : String) (v : Value) (st st' : σ) :
    let own := fun leaf : Leaf ↦ r.resolveString env leaf.text st'
    let out := r.walk env path v st
    ((∀ leaf ∈ leaves path v, ∃ value, (own leaf).result = .ok value) ∧
        (∃ w, out.result = .ok w) ∧
        out.events = (leaves path v).flatMap fun leaf ↦ (own leaf).events) ∨
      ∃ before leaf after e, leaves path v = before ++ leaf :: after ∧
        (∀ earlier ∈ before, ∃ value, (own earlier).result = .ok value) ∧
        (own leaf).result = .error e ∧ out.result = .error (e.orPath leaf.place) ∧
        out.events = (before ++ [leaf]).flatMap fun leaf ↦ (own leaf).events := by
  intro own out
  have hcourse : r.resolveLeaves env (leaves path v) st = (r.walk env path v).course st := by
    rw [course_walk]
  have hevents : ∀ ls : List Leaf, (ls.flatMap fun leaf ↦
      ((r.resolveLeaf env leaf).course st').events) = ls.flatMap fun leaf ↦ (own leaf).events :=
    fun ls ↦ by simp only [course_resolveLeaf_apply, own]
  have houtEvents : out.events = ((r.walk env path v).course st).events := by
    rw [Run.course_apply]
  have hsteady : ∀ leaf, (r.resolveLeaf env leaf).course.Steady :=
    fun leaf ↦ (steady_resolveLeaf hstore leaf).course
  rcases Run.forM_cases hsteady st' st (leaves path v) with
    ⟨hall, hout, hleaves⟩ | ⟨before, leaf, after, e, hsplit, hbefore, hleaf, hout, hleaves⟩
  · refine .inl ⟨fun leaf hmem ↦ course_resolveLeaf_eq_ok.1 (hall leaf hmem),
      Run.result_course_eq_ok.1 ?_, ?_⟩
    · rw [← hcourse]
      exact hout
    · rw [houtEvents, ← hcourse, ← hevents]
      exact hleaves
  · obtain ⟨e, he, rfl⟩ := course_resolveLeaf_eq_error.1 hleaf
    refine .inr ⟨before, leaf, after, e, hsplit,
      fun earlier hmem ↦ course_resolveLeaf_eq_ok.1 (hbefore earlier hmem), he,
      Run.result_course_eq_error.1 ?_, ?_⟩
    · rw [← hcourse]
      exact hout
    · rw [houtEvents, ← hcourse, ← hevents]
      exact hleaves

end Document

theorem resolveDocument_whole (r : Resolver σ) (env : Environment) (doc : Value) :
    r.resolveDocument env doc none none = r.walk env "" doc := by
  simp [resolveDocument, select]

/-- Resolving a whole document over a store that answers by name is resolving its texts one after
the other. It ends in a document exactly if every text has a value by itself, and this is the
document with these values in the places of the texts: the same keys in the same order, sequences
of the same length, and all else as it was. Otherwise the first text that has none gives the error
its kind and cause. The store is asked what the texts up to that one ask for by themselves, in their
order, and nothing more. -/
theorem resolveDocument_pointwise (env : Environment) {answer : String → Except StoreError String}
    (hstore : ∀ store ∈ r.store, store.AnswersBy answer) {doc : Value} (hdoc : doc.Distinct)
    (st st' : σ) :
    let texts := (leaves "" doc).map Leaf.text
    let own := fun text ↦ r.resolveString env text st'
    let out := r.resolveDocument env doc none none st
    (∀ v, out.result = .ok v ↔
      ∃ g, (∀ text ∈ texts, (own text).result = .ok (g text)) ∧ v = doc.mapTexts g) ∧
    (∀ v, out.result = .ok v →
      callsOf out.events = texts.flatMap fun text ↦ callsOf (own text).events) ∧
    ∀ e, out.result = .error e → ∃ before text after e', texts = before ++ text :: after ∧
      (∀ earlier ∈ before, ∃ value, (own earlier).result = .ok value) ∧
      (own text).result = .error e' ∧ e.kind = e'.kind ∧ e.cause = e'.cause ∧
      callsOf out.events = (before ++ [text]).flatMap fun t ↦ callsOf (own t).events := by
  intro texts own out
  have hout : out = r.walk env "" doc st := by rw [← resolveDocument_whole]
  have hvalues : ∀ g : String → String, (∀ text ∈ texts, (own text).result = .ok (g text)) →
      out.result = .ok (doc.mapTexts g) := by
    intro g hg
    rw [hout]
    refine walk_yields "" doc hdoc (fun leaf hmem ↦ ?_) st
    exact (steady_resolveString hstore env leaf.text).yields
      (hg leaf.text (List.mem_map_of_mem hmem))
  rcases walk_cases hstore "" doc st st' with
    ⟨hall, -, hevents⟩ | ⟨before, leaf, after, e, hsplit, hbefore, hleaf, herror, hevents⟩
  · have hown : ∀ text ∈ texts, ∃ value, (own text).result = .ok value :=
      List.forall_mem_map.2 hall
    choose! g hg using hown
    have hresult := hvalues g hg
    refine ⟨fun v ↦ ⟨fun hv ↦ ⟨g, hg, ?_⟩, ?_⟩, fun v _ ↦ ?_, fun e he ↦ ?_⟩
    · exact Except.ok.inj (hv.symm.trans hresult)
    · rintro ⟨g', hg', rfl⟩
      exact hvalues g' hg'
    · rw [hout, hevents, callsOf_flatMap, List.flatMap_map]
    · cases hresult.symm.trans he
  · rw [← hout] at herror hevents
    refine ⟨fun v ↦ ⟨fun hv ↦ ?_, ?_⟩, fun v hv ↦ ?_, fun e' he' ↦ ?_⟩
    · cases herror.symm.trans hv
    · rintro ⟨g, hg, -⟩
      cases herror.symm.trans (hvalues g hg)
    · cases herror.symm.trans hv
    · obtain rfl : e.orPath leaf.place = e' := Except.error.inj (herror.symm.trans he')
      refine ⟨before.map Leaf.text, leaf.text, after.map Leaf.text, e, ?_,
        List.forall_mem_map.2 hbefore, hleaf, e.kind_orPath _, e.cause_orPath _, ?_⟩
      · simp [texts, hsplit]
      · rw [hevents, callsOf_flatMap, ← List.map_singleton, ← List.map_append, List.flatMap_map]

/-- Texts under two keys, one in a sequence and one in a mapping. -/
theorem resolveDocument_pointwise_nested :
    let a := "\x7b!SSM: /a\x7d"
    let b := "\x7b!SSM: /b\x7d"
    let answer := fun name ↦ if name = "/a" then .ok "1" else .ok "2"
    let store : Store Unit := .ofAnswers ⟨answer, fun _ _ ↦ .ok ⟨[], none⟩⟩
    let doc := fun first second ↦ Value.mapping
      [("items", .sequence [.string first, .null]), ("more", .mapping [("b", .string second)])]
    let out := resolveDocument ⟨.standard, some store⟩ .empty (doc a b) none none ()
    out.result = .ok (doc "1" "2") ∧ callsOf out.events = [.get "/a", .get "/b"] := by
  intro a b answer store doc out
  have hstore : ∀ other ∈ some store, other.AnswersBy answer :=
    fun other hother ↦ Option.some.inj hother ▸ Store.answersBy_ofAnswers _
  have hdoc : (doc a b).Distinct := by
    simp [doc, Value.Distinct, Value.DistinctEntries, Value.DistinctItems]
  obtain ⟨hresult, hcalls, -⟩ :=
    resolveDocument_pointwise (r := ⟨.standard, some store⟩) .empty hstore hdoc () ()
  have hout : out.result = .ok (doc "1" "2") :=
    (hresult _).2 ⟨fun text ↦ if text = a then "1" else "2", by decide +kernel, by
      simp [doc, a, b, Value.mapTexts, Value.mapTextsOfEntries, Value.mapTextsOfItems]⟩
  refine ⟨hout, (hcalls _ hout).trans ?_⟩
  decide +kernel

end Resolver

end ConfigResolver
