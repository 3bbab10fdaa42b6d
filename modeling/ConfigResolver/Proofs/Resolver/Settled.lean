import ConfigResolver.Proofs.Resolver.Document

/-!
# What is resolved stays as it is

A document is settled if no text in it holds a placeholder. Whatever resolving a document comes to
is settled (`valuesIn_walk`): a text leaves the substitution only where nothing is left to find in
it, be it before the limit is reached or just at it. And a settled document is resolved without
doing anything (`walk_of_settled`), so a resolver that has nothing in common with the first one
makes no difference. Main statement: `resolveDocument_settles`.

That no key occurs twice in a mapping is part of being settled. The mappings that resolving builds
are so whether the old ones were or not, and only for such mappings is binding all entries anew the
same as leaving them alone.
-/

namespace ConfigResolver

namespace Value

mutual

/-- There is nothing to find in the texts of a node, and no key occurs twice in a mapping of it. -/
def Settled : Value → Prop
  | .string s => Placeholder.find s.toList = none
  | .sequence items => SettledItems items
  | .mapping entries => (entries.map Prod.fst).Nodup ∧ SettledEntries entries
  | _ => True

/-- All items are settled. -/
def SettledItems : List Value → Prop
  | [] => True
  | item :: rest => Settled item ∧ SettledItems rest

/-- What the entries bind is settled. -/
def SettledEntries : List (String × Value) → Prop
  | [] => True
  | (_, value) :: rest => Settled value ∧ SettledEntries rest

end

theorem SettledEntries.insertEntry {value : Value} (hvalue : value.Settled) (key : String)
    {entries : List (String × Value)} (h : SettledEntries entries) :
    SettledEntries (Value.insertEntry key value entries) := by
  induction entries with
  | nil => exact ⟨hvalue, h⟩
  | cons entry entries ih =>
    obtain ⟨hentry, hrest⟩ := h
    rw [Value.insertEntry]
    split
    · exact ⟨hvalue, hrest⟩
    · exact ⟨hentry, ih hrest⟩

theorem SettledEntries.of_lookup {entries : List (String × Value)} (h : SettledEntries entries)
    {key : String} {value : Value} (hkey : entries.lookup key = some value) : value.Settled := by
  induction entries with
  | nil => cases hkey
  | cons entry entries ih =>
    obtain ⟨hentry, hrest⟩ := h
    rw [lookup_cons_eq_ite] at hkey
    split at hkey
    · cases hkey
      exact hentry
    · exact ih hrest hkey

/-- What is selected from a settled document is settled. -/
theorem Settled.select {v : Value} (h : v.Settled) (key : Option String) :
    (Resolver.select v key).Settled := by
  unfold Resolver.select
  cases hfound : key.bind v.get? with
  | none => exact h
  | some w =>
    obtain ⟨k, rfl, hk⟩ := Option.bind_eq_some_iff.1 hfound
    cases v with
    | mapping entries => exact SettledEntries.of_lookup h.2 hk
    | null | bool _ | integer _ | float _ | string _ | sequence _ => cases hk

end Value

namespace Resolver

open Placeholder

variable {σ : Type} {r : Resolver σ} {env : Environment}

/-! ## What a leaf of a settled node is -/

mutual

theorem find_of_settled (path : String) : (v : Value) → v.Settled →
    ∀ leaf ∈ leaves path v, find leaf.text.toList = none
  | .string s, h => by
    rw [leaves]
    exact List.forall_mem_singleton.2 h
  | .sequence items, h => by
    rw [leaves]
    exact find_of_settledItems path 0 items h
  | .mapping entries, h => by
    rw [leaves]
    exact find_of_settledEntries path entries h.2
  | .null, _ | .bool _, _ | .integer _, _ | .float _, _ => by
    simp [leaves]

theorem find_of_settledItems (path : String) (index : Nat) : (items : List Value) →
    Value.SettledItems items → ∀ leaf ∈ leavesOfItems path index items, find leaf.text.toList = none
  | [], _ => by
    rw [leavesOfItems]
    exact nofun
  | item :: rest, h => by
    rw [leavesOfItems]
    exact List.forall_mem_append.2
      ⟨find_of_settled _ item h.1, find_of_settledItems path (index + 1) rest h.2⟩

theorem find_of_settledEntries (path : String) : (entries : List (String × Value)) →
    Value.SettledEntries entries →
      ∀ leaf ∈ leavesOfEntries path entries, find leaf.text.toList = none
  | [], _ => by
    rw [leavesOfEntries]
    exact nofun
  | (key, value) :: rest, h => by
    rw [leavesOfEntries]
    exact List.forall_mem_append.2
      ⟨find_of_settled _ value h.1, find_of_settledEntries path rest h.2⟩

end

/-! ## What resolving comes to -/

/-- A text leaves the substitution with nothing to find in it, below the limit and at the limit. -/
theorem valuesIn_resolveString (r : Resolver σ) (env : Environment) (s : String) :
    (r.resolveString env s).ValuesIn fun t ↦ find t.toList = none := by
  intro st t ht
  obtain ⟨k, -, -, hfind⟩ :=
    resolveString_eq_ok_iff.1 (show r.resolveString env s st = ⟨.ok t, _, _⟩ by rw [← ht])
  exact hfind

mutual

theorem valuesIn_walk (path : String) :
    (v : Value) → (r.walk env path v).ValuesIn Value.Settled
  | .string s => by
    rw [walk]
    exact .mapError _ ((valuesIn_resolveString r env s).map fun _ ht ↦ ht)
  | .sequence items => by
    rw [walk]
    exact (valuesIn_walkItems path 0 items).map fun _ h ↦ h
  | .mapping entries => by
    rw [walk]
    exact (valuesIn_walkEntries path [] ⟨List.nodup_nil, trivial⟩ entries).map fun _ h ↦ h
  | .null | .bool _ | .integer _ | .float _ => by
    simp only [walk]
    exact .pure trivial

theorem valuesIn_walkItems (path : String) (index : Nat) :
    (items : List Value) → (r.walkItems env path index items).ValuesIn Value.SettledItems
  | [] => by
    rw [walkItems]
    exact .pure trivial
  | item :: rest => by
    rw [walkItems]
    exact (valuesIn_walk _ item).bind fun _ hitem ↦
      (valuesIn_walkItems path (index + 1) rest).bind fun _ hrest ↦ .pure ⟨hitem, hrest⟩

theorem valuesIn_walkEntries (path : String) (built : List (String × Value))
    (hbuilt : (Value.mapping built).Settled) : (entries : List (String × Value)) →
      (r.walkEntries env path built entries).ValuesIn fun out ↦ (Value.mapping out).Settled
  | [] => by
    rw [walkEntries]
    exact .pure hbuilt
  | (key, value) :: rest => by
    rw [walkEntries]
    exact (valuesIn_walk _ value).bind fun _ hvalue ↦ valuesIn_walkEntries path _
      ⟨Value.nodup_keys_insertEntry hbuilt.1 key _, .insertEntry hvalue key hbuilt.2⟩ rest

end

/-- Where the key to resolve is not in the document, all of it is resolved. At most it is reported
before that the key is absent. -/
theorem resolveDocument_of_absent (r : Resolver σ) (env : Environment) {doc : Value}
    {resolveKey : Option String} (hkey : ∀ key ∈ resolveKey, doc.get? key = none)
    (returnKey : Option String) :
    ∃ events, (events = [] ∨ ∃ key, events = [.log (.keyAbsent key)]) ∧
      ∀ st, r.resolveDocument env doc resolveKey returnKey st =
      ⟨(r.walk env "" doc st).result.map (select · returnKey),
        events ++ (r.walk env "" doc st).events, (r.walk env "" doc st).store⟩ := by
  have hwhole : (r.walk env "" doc >>= fun v ↦ pure (select v returnKey)) =
      (select · returnKey) <$> r.walk env "" doc := (map_eq_pure_bind _ _).symm
  unfold resolveDocument
  cases resolveKey with
  | none =>
    refine ⟨[], .inl rfl, fun st ↦ ?_⟩
    simp only [hwhole, Run.map_apply, List.nil_append]
  | some key =>
    simp only [resolveUnder]
    split
    · next entries =>
      have hnone : entries.lookup key = none := hkey key rfl
      refine ⟨[.log (.keyAbsent key)], .inr ⟨key, rfl⟩, fun st ↦ ?_⟩
      simp only [hnone, bind_assoc, hwhole]
      rw [Run.bind_of_ok rfl, Run.map_apply]
      rfl
    · refine ⟨[], .inl rfl, fun st ↦ ?_⟩
      simp only [hwhole, Run.map_apply, List.nil_append]

theorem result_resolveDocument_of_absent {doc : Value} {resolveKey : Option String}
    (hkey : ∀ key ∈ resolveKey, doc.get? key = none) (returnKey : Option String) (st : σ) :
    (r.resolveDocument env doc resolveKey returnKey st).result =
      (r.walk env "" doc st).result.map (select · returnKey) := by
  obtain ⟨events, -, hdocument⟩ := resolveDocument_of_absent r env hkey returnKey
  rw [hdocument]

theorem valuesIn_resolveDocument {doc : Value} {resolveKey : Option String}
    (hkey : ∀ key ∈ resolveKey, doc.get? key = none) (returnKey : Option String) :
    (r.resolveDocument env doc resolveKey returnKey).ValuesIn Value.Settled := by
  intro st out hout
  rw [result_resolveDocument_of_absent hkey] at hout
  cases hwalk : (r.walk env "" doc st).result with
  | ok v =>
    rw [hwalk] at hout
    obtain rfl : select v returnKey = out := Except.ok.inj hout
    exact (valuesIn_walk "" doc st v hwalk).select returnKey
  | error e =>
    rw [hwalk] at hout
    cases hout

/-! ## What is settled already -/

theorem resolveString_of_find_none {s : String} (h : find s.toList = none) :
    r.resolveString env s = pure s := by
  funext st
  rw [resolveString_eq, substituteAll_of_find_none h, Run.pure_apply]
  simp only [Except.map, String.ofList_toList]

mutual

/-- A settled node is resolved by doing nothing. -/
theorem walk_of_settled (path : String) :
    (v : Value) → v.Settled → r.walk env path v = pure v
  | .string s, h => by
    rw [walk, resolveString_of_find_none h, map_pure]
    rfl
  | .sequence items, h => by
    rw [walk, walkItems_of_settled path 0 items h, map_pure]
  | .mapping entries, h => by
    rw [walk, walkEntries_of_settled path [] entries h.1 h.2, map_pure, List.nil_append]
  | .null, _ | .bool _, _ | .integer _, _ | .float _, _ => by
    simp only [walk]

theorem walkItems_of_settled (path : String) (index : Nat) :
    (items : List Value) → Value.SettledItems items → r.walkItems env path index items = pure items
  | [], _ => by
    rw [walkItems]
  | item :: rest, h => by
    rw [walkItems, walk_of_settled _ item h.1, pure_bind,
      walkItems_of_settled path (index + 1) rest h.2, pure_bind]

/-- Each key is new when it is bound, so the entries are put together as they were. -/
theorem walkEntries_of_settled (path : String) (built : List (String × Value)) :
    (entries : List (String × Value)) → ((built ++ entries).map Prod.fst).Nodup →
      Value.SettledEntries entries → r.walkEntries env path built entries = pure (built ++ entries)
  | [], _, _ => by
    rw [walkEntries, List.append_nil]
  | (key, value) :: rest, hkeys, h => by
    have hkey : key ∉ built.map Prod.fst := by
      rw [List.map_append] at hkeys
      exact fun hmem ↦ (List.nodup_append.1 hkeys).2.2 key hmem key (by simp) rfl
    rw [List.append_cons] at hkeys ⊢
    rw [walkEntries, walk_of_settled _ value h.1, pure_bind, Value.insertEntry_of_notMem hkey,
      walkEntries_of_settled path _ rest hkeys h.2]

end

/-- Whatever is asked to be resolved of a settled document, it is answered as it is. Only that a
key is absent may be reported. -/
theorem resolveDocument_of_settled (r : Resolver σ) (env : Environment) {doc : Value}
    (h : doc.Settled) (resolveKey : Option String) :
    ∃ events, callsOf events = [] ∧
      ∀ st, r.resolveDocument env doc resolveKey none st = ⟨.ok doc, events, st⟩ := by
  have hwhole : r.walk env "" doc = pure doc := walk_of_settled "" doc h
  cases resolveKey with
  | none =>
    refine ⟨[], rfl, fun st ↦ ?_⟩
    rw [resolveDocument_whole, hwhole, Run.pure_apply]
  | some key =>
    simp only [resolveDocument, resolveUnder]
    split
    · next entries =>
      split
      · next node hnode =>
        refine ⟨[], rfl, fun st ↦ ?_⟩
        rw [walk_of_settled key node (h.2.of_lookup hnode), pure_bind, pure_bind,
          Value.insertEntry_of_lookup hnode]
        rfl
      · refine ⟨[.log (.keyAbsent key)], rfl, fun st ↦ ?_⟩
        rw [hwhole]
        rfl
    · refine ⟨[], rfl, fun st ↦ ?_⟩
      rw [hwhole]
      rfl

/-! ## Resolving twice -/

/-- Resolved output is a fixed point. If a document is resolved as a whole, which it is where the
key to resolve is not in it, and ends in a document, then there is nothing to find in any text of
that document. So it is resolved again without change and without a call by every resolver, in
every environment and over every store, and whatever key is to be resolved. -/
theorem resolveDocument_settles {doc out : Value} {resolveKey returnKey : Option String} {st : σ}
    (hkey : ∀ key ∈ resolveKey, doc.get? key = none)
    (hout : (r.resolveDocument env doc resolveKey returnKey st).result = .ok out) :
    (∀ leaf ∈ leaves "" out, find leaf.text.toList = none) ∧
      ∀ {τ : Type} (r' : Resolver τ) (env' : Environment) (resolveKey' : Option String) (st' : τ),
        let again := r'.resolveDocument env' out resolveKey' none st'
        again.result = .ok out ∧ callsOf again.events = [] ∧ again.store = st' := by
  have hsettled : out.Settled := valuesIn_resolveDocument hkey returnKey st out hout
  refine ⟨find_of_settled "" out hsettled, fun r' env' resolveKey' st' ↦ ?_⟩
  obtain ⟨events, hcalls, hagain⟩ := resolveDocument_of_settled r' env' hsettled resolveKey'
  rw [hagain st']
  exact ⟨rfl, hcalls, rfl⟩

/-- A value that is a placeholder itself is looked up too. What is selected then holds no
placeholder, so a resolver without a store that allows no substitution answers it as it is. -/
theorem resolveDocument_settles_selected :
    let get := fun name ↦ if name = "/a" then .ok "\x7b!SSM: /b\x7d" else .ok "2"
    let r : Resolver Unit := ⟨.standard, some (.ofAnswers ⟨get, fun _ _ ↦ .ok ⟨[], none⟩⟩)⟩
    let r' : Resolver Unit := ⟨{ maxSubstitutions := 0 }, none⟩
    let doc := Value.mapping
      [("x", .string "\x7b!SSM: /c\x7d"), ("y", .sequence [.null, .string "at \x7b!SSM: /a\x7d"])]
    let out := Value.sequence [.null, .string "at 2"]
    (r.resolveDocument .empty doc (some "z") (some "y") ()).result = .ok out ∧
      (r'.resolveDocument .empty out none none ()).result = .ok out := by
  intro get r r' doc out
  have hdoc : doc.Distinct := by
    simp [doc, Value.Distinct, Value.DistinctEntries, Value.DistinctItems]
  have htexts : ∀ leaf ∈ leaves "" doc, (r.resolveString .empty leaf.text).Yields
      (if leaf.text = "\x7b!SSM: /c\x7d" then "2" else "at 2") := by
    simp only [doc, leaves, leavesOfEntries, leavesOfItems, List.nil_append, List.append_nil,
      List.cons_append, List.forall_mem_cons, List.not_mem_nil, IsEmpty.forall_iff, implies_true,
      and_true]
    constructor <;> (rintro ⟨⟩; decide +kernel)
  have hkey : ∀ key ∈ some "z", doc.get? key = none := by
    rintro key ⟨⟩
    rfl
  have hout : (r.resolveDocument .empty doc (some "z") (some "y") ()).result = .ok out := by
    rw [result_resolveDocument_of_absent hkey, walk_yields (g := fun text ↦
      if text = "\x7b!SSM: /c\x7d" then "2" else "at 2") "" doc hdoc htexts ()]
    simp [doc, out, Except.map, select, Value.get?, Value.entries?, Value.mapTexts,
      Value.mapTextsOfEntries, Value.mapTextsOfItems, List.lookup_cons]
  obtain ⟨-, hagain⟩ := resolveDocument_settles hkey hout
  exact ⟨hout, (hagain r' .empty none ()).1⟩

end Resolver

end ConfigResolver
