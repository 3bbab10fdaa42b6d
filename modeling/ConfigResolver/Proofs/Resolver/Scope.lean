import ConfigResolver.Proofs.Resolver.Document
import ConfigResolver.Proofs.Resolver.Place

/-!
# Resolving what is under one key

With a key to resolve, only the node under this key is looked at (`resolveDocument_under`): the
other entries of the document are neither resolved nor changed, so that what they hold makes no
difference. Without it, all entries are resolved, and what is bound under the key in the end is what
its node comes to at the time when its turn comes (`lookup_of_walkEntries`). Over a store that
answers by name the time does not count. Main statement: `resolveDocument_scoped`.
-/

namespace ConfigResolver.Resolver

variable {σ : Type} {r : Resolver σ} {env : Environment}

/-! ## With the key to resolve -/

section Under

variable {entries : List (String × Value)} {key : String} {node : Value}

theorem get?_insertEntry (key : String) (value : Value) (entries : List (String × Value)) :
    (Value.mapping (Value.insertEntry key value entries)).get? key = some value := by
  simp [Value.get?, Value.entries?, Value.lookup_insertEntry]

theorem resolveDocument_under (hkey : entries.lookup key = some node) (returnKey : Option String) :
    r.resolveDocument env (.mapping entries) (some key) returnKey =
      (fun value ↦ select (.mapping (Value.insertEntry key value entries)) returnKey) <$>
        r.walk env key node := by
  simp only [resolveDocument, resolveUnder, hkey, bind_assoc, pure_bind]
  exact (map_eq_pure_bind _ _).symm

/-- Where the same key is answered, nothing is left of the rest of the document. -/
theorem resolveDocument_under_same (hkey : entries.lookup key = some node) :
    r.resolveDocument env (.mapping entries) (some key) (some key) = r.walk env key node := by
  have hselect : ∀ value,
      select (.mapping (Value.insertEntry key value entries)) (some key) = value := by
    intro value
    rw [select, Option.bind_some, get?_insertEntry]
    rfl
  rw [resolveDocument_under hkey]
  simp only [hselect, id_map']

/-- What happens is what happens to the node, and what is bound under the key is what the node
comes to, whatever else there is in the document. -/
theorem resolveDocument_under_apply (hkey : entries.lookup key = some node) (st : σ) :
    let out := r.resolveDocument env (.mapping entries) (some key) none st
    let own := r.walk env key node st
    out.result.map (·.get? key) = own.result.map some ∧ out.events = own.events ∧
      out.store = own.store := by
  intro out own
  have hout : out = _ := congrFun (resolveDocument_under hkey none) st
  rw [hout, Run.map_apply]
  refine ⟨?_, rfl, rfl⟩
  cases (r.walk env key node st).result with
  | ok value => exact congrArg Except.ok (get?_insertEntry key value entries)
  | error e => rfl

/-- It succeeds if the node can be resolved, and changes just the entry of the key. -/
theorem resolveDocument_under_eq_ok_iff (hkeys : (entries.map Prod.fst).Nodup)
    (hkey : entries.lookup key = some node) {st : σ} {v : Value} :
    (r.resolveDocument env (.mapping entries) (some key) none st).result = .ok v ↔
      ∃ value, (r.walk env key node st).result = .ok value ∧
        v = .mapping (entries.map fun (k, w) ↦ (k, if k = key then value else w)) := by
  rw [resolveDocument_under hkey, Run.map_apply]
  simp only [← Value.insertEntry_eq_map hkeys (Value.mem_keys_of_lookup hkey)]
  cases (r.walk env key node st).result with
  | ok value =>
    constructor
    · rintro ⟨⟩
      exact ⟨value, rfl, rfl⟩
    · rintro ⟨_, ⟨⟩, rfl⟩
      rfl
  | error e => exact ⟨nofun, nofun⟩

end Under

/-! ## Without it -/

section Entries

variable {path key : String} {node : Value} {built entries out : List (String × Value)} {st : σ}

/-- A key that is in none of the entries stays bound to what it was bound to. -/
theorem lookup_of_walkEntries_of_notMem (hkey : key ∉ entries.map Prod.fst)
    (h : (r.walkEntries env path built entries st).result = .ok out) :
    out.lookup key = built.lookup key := by
  induction entries generalizing built st with
  | nil =>
    rw [walkEntries] at h
    rw [Except.ok.inj h]
  | cons entry entries ih =>
    obtain ⟨hne, hrest⟩ : key ≠ entry.1 ∧ key ∉ entries.map Prod.fst := by simpa using hkey
    rw [walkEntries] at h
    obtain ⟨value, -, hvalue⟩ := Run.result_bind_ok h
    rw [ih hrest hvalue, Value.lookup_insertEntry, if_neg hne]

/-- A key of the entries is bound to what its node comes to when its turn comes. -/
theorem lookup_of_walkEntries (hkeys : (entries.map Prod.fst).Nodup)
    (hkey : entries.lookup key = some node)
    (h : (r.walkEntries env path built entries st).result = .ok out) :
    ∃ value st', (r.walk env (entryPath path key) node st').result = .ok value ∧
      out.lookup key = some value := by
  induction entries generalizing built st with
  | nil => cases hkey
  | cons entry entries ih =>
    obtain ⟨k, v⟩ := entry
    obtain ⟨hhead, htail⟩ := List.nodup_cons.1 hkeys
    rw [walkEntries] at h
    obtain ⟨value, hvalue, hrest⟩ := Run.result_bind_ok h
    rw [Value.lookup_cons_eq_ite] at hkey
    split at hkey
    · next heq =>
      subst heq
      obtain rfl : v = node := Option.some.inj hkey
      refine ⟨value, st, hvalue, ?_⟩
      rw [lookup_of_walkEntries_of_notMem hhead hrest, Value.lookup_insertEntry, if_pos rfl]
    · exact ih htail hkey hrest

theorem entryPath_root (key : String) : entryPath "" key = key := rfl

/-- What is answered under a key of a whole document is what its node comes to at some time. -/
theorem walk_of_resolveDocument (hkeys : (entries.map Prod.fst).Nodup)
    (hkey : entries.lookup key = some node) {v : Value}
    (h : (r.resolveDocument env (.mapping entries) none (some key) st).result = .ok v) :
    ∃ st', (r.walk env key node st').result = .ok v := by
  obtain ⟨w, hw, hselect⟩ := Run.result_bind_ok h
  rw [walk, map_eq_pure_bind] at hw
  obtain ⟨out, hout, hmapping⟩ := Run.result_bind_ok hw
  obtain rfl : Value.mapping out = w := Except.ok.inj hmapping
  obtain ⟨value, st', hvalue, hlookup⟩ := lookup_of_walkEntries hkeys hkey hout
  obtain rfl : value = v := by
    rw [← Except.ok.inj hselect]
    simp [select, Value.get?, Value.entries?, hlookup]
  exact ⟨st', by rwa [entryPath_root] at hvalue⟩

end Entries

/-! ## The document -/

/-- A key to resolve scopes the work. Resolving under a key of a mapping succeeds exactly if the
node under it can be resolved by itself. Then the result has the same keys in the same order, this
key is bound to what the node comes to and every other key to what it was bound to. The outcome,
what happens and the state in which the store is left are the same for any other mapping with the
same node under the key. And over a store that answers by name, whatever is answered under the key
after the whole document was resolved is also answered if only this key is resolved. -/
theorem resolveDocument_scoped (r : Resolver σ) (env : Environment)
    {entries : List (String × Value)} (hdoc : (Value.mapping entries).Distinct) {key : String}
    {node : Value} (hkey : entries.lookup key = some node) (st : σ) :
    let own := r.resolveDocument env node none none st
    let out := r.resolveDocument env (.mapping entries) (some key) none st
    (∀ v, out.result = .ok v ↔ ∃ value, own.result = .ok value ∧
      v = .mapping (entries.map fun (k, w) ↦ (k, if k = key then value else w))) ∧
    (∀ entries', entries'.lookup key = some node →
      let out' := r.resolveDocument env (.mapping entries') (some key) none st
      out'.result.map (·.get? key) = out.result.map (·.get? key) ∧
        out'.events = out.events ∧ out'.store = out.store) ∧
    ∀ answer, (∀ store ∈ r.store, store.AnswersBy answer) → ∀ st' v,
      (r.resolveDocument env (.mapping entries) none (some key) st').result = .ok v →
        (r.resolveDocument env (.mapping entries) (some key) (some key) st).result = .ok v := by
  intro own out
  refine ⟨fun v ↦ ?_, fun entries' hkey' ↦ ?_, fun answer hstore st' v hv ↦ ?_⟩
  · have hown : ∀ value, own.result = .ok value ↔ (r.walk env key node st).result = .ok value := by
      intro value
      simp only [own, resolveDocument_whole]
      exact walk_eq_ok_iff "" key node
    simp only [hown]
    exact resolveDocument_under_eq_ok_iff hdoc.1 hkey
  · obtain ⟨hresult, hevents, hst⟩ := resolveDocument_under_apply hkey st
    obtain ⟨hresult', hevents', hst'⟩ := resolveDocument_under_apply hkey' st
    exact ⟨hresult'.trans hresult.symm, hevents'.trans hevents.symm, hst'.trans hst.symm⟩
  · obtain ⟨st₁, hwalk⟩ := walk_of_resolveDocument hdoc.1 hkey hv
    rw [resolveDocument_under_same hkey]
    exact (steady_walk hstore env key node).yields hwalk st

/-- The first entry names a variable that is not set, and ends the run if all entries are resolved.
If just the second one is, nothing is looked up for the first. -/
theorem resolveDocument_scoped_sibling :
    let get := fun name ↦ if name = "/a" then .ok "1" else .error (.notFound name)
    let r : Resolver Unit := ⟨.standard, some (.ofAnswers ⟨get, fun _ _ ↦ .ok ⟨[], none⟩⟩)⟩
    let entries := [("x", Value.string "\x7b!ENV: X\x7d"), ("y", .string "at \x7b!SSM: /a\x7d")]
    let whole := r.resolveDocument .empty (.mapping entries) none none ()
    (∃ e, whole.result = .error e) ∧
      (r.resolveDocument .empty (.mapping entries) (some "y") none ()).result =
        .ok (.mapping [("x", .string "\x7b!ENV: X\x7d"), ("y", .string "at 1")]) := by
  intro get r entries whole
  have hdoc : (Value.mapping entries).Distinct := by
    simp [entries, Value.Distinct, Value.DistinctEntries]
  have hkey : entries.lookup "y" = some (.string "at \x7b!SSM: /a\x7d") := by
    simp [entries, List.lookup_cons]
  have hown : (r.resolveDocument .empty (.string "at \x7b!SSM: /a\x7d") none none ()).result =
      .ok (.string "at 1") := by
    have htext : (r.resolveString .empty "at \x7b!SSM: /a\x7d" ()).result = .ok "at 1" := by
      decide +kernel
    rw [resolveDocument_whole, walk, Run.mapError_apply, Run.map_apply, htext]
    rfl
  constructor
  · have hfails : whole.result.toBool = false := by decide +kernel
    cases hresult : whole.result with
    | ok v => simp [hresult, Except.toBool] at hfails
    | error e => exact ⟨e, rfl⟩
  · obtain ⟨hscope, -⟩ := resolveDocument_scoped r .empty hdoc hkey ()
    refine (hscope _).2 ⟨_, hown, ?_⟩
    simp [entries]

end ConfigResolver.Resolver
