import ConfigResolver.Value.Basic
import Mathlib.Data.List.Nodup

/-!
# Binding a key

Binding a key in the entries of a mapping changes what is found under this key and nothing else
(`lookup_insertEntry`). A key that is there keeps its place, a new one comes last. Where no key
occurs twice, what is found does not hang on the order of the entries (`lookup_of_perm`), and to
bind a key that is there is to change what it is bound to (`insertEntry_eq_modify`).
-/

namespace ConfigResolver.Value

variable {key : String} {value : Value} {entries : List (String × Value)}

/-- A key that is not there yet is bound at the end. -/
theorem insertEntry_of_notMem (h : key ∉ entries.map Prod.fst) (value : Value) :
    insertEntry key value entries = entries ++ [(key, value)] := by
  induction entries with
  | nil => rfl
  | cons entry entries ih =>
    obtain ⟨hne, hrest⟩ : key ≠ entry.1 ∧ key ∉ entries.map Prod.fst := by simpa using h
    rw [insertEntry, if_neg hne.symm, ih hrest]
    rfl

/-- A key that is there keeps its place, and so do all others. -/
theorem keys_insertEntry_of_mem (h : key ∈ entries.map Prod.fst) (value : Value) :
    (insertEntry key value entries).map Prod.fst = entries.map Prod.fst := by
  induction entries with
  | nil => cases h
  | cons entry entries ih =>
    rw [insertEntry]
    split
    · rfl
    · next hne =>
      have hrest : key ∈ entries.map Prod.fst :=
        (List.mem_cons.1 h).resolve_left fun heq ↦ hne heq.symm
      rw [List.map_cons, ih hrest, List.map_cons]

theorem nodup_keys_insertEntry (h : (entries.map Prod.fst).Nodup) (key : String) (value : Value) :
    ((insertEntry key value entries).map Prod.fst).Nodup := by
  by_cases hmem : key ∈ entries.map Prod.fst
  · rw [keys_insertEntry_of_mem hmem]
    exact h
  · rw [insertEntry_of_notMem hmem, List.map_append, List.nodup_append]
    refine ⟨h, List.nodup_singleton key, ?_⟩
    rintro other hother _ hlast rfl
    obtain rfl : other = key := List.mem_singleton.1 hlast
    exact hmem hother

/-! ## What is found under a key -/

theorem lookup_cons_eq_ite (key : String) (value : Value) (entries : List (String × Value))
    (other : String) : ((key, value) :: entries).lookup other =
      if other = key then some value else entries.lookup other := by
  rw [List.lookup_cons]
  by_cases h : other = key
  · rw [if_pos h, beq_iff_eq.2 h]
  · rw [if_neg h, beq_eq_false_iff_ne.2 h]

theorem mem_keys_of_lookup (h : entries.lookup key = some value) : key ∈ entries.map Prod.fst := by
  obtain ⟨before, after, rfl, -⟩ := List.lookup_eq_some_iff.1 h
  simp

/-- Where no key occurs twice, a key is bound to what its entry says. -/
theorem lookup_eq_some_iff_mem (hkeys : (entries.map Prod.fst).Nodup) :
    entries.lookup key = some value ↔ (key, value) ∈ entries := by
  constructor
  · intro h
    obtain ⟨before, after, rfl, -⟩ := List.lookup_eq_some_iff.1 h
    exact List.mem_append_right before List.mem_cons_self
  · intro h
    obtain ⟨before, after, rfl⟩ := List.append_of_mem h
    rw [List.map_append, List.nodup_append] at hkeys
    rw [List.lookup_eq_some_iff]
    refine ⟨before, after, rfl, fun entry hentry ↦ bne_iff_ne.2 fun hkey ↦ ?_⟩
    exact hkeys.2.2 entry.1 (List.mem_map_of_mem hentry) key (by simp) hkey.symm

/-- Where no key occurs twice, the order of the entries does not count for what a key is bound to.
-/
theorem lookup_of_perm {entries' : List (String × Value)} (hkeys : (entries.map Prod.fst).Nodup)
    (h : entries.Perm entries') (key : String) : entries'.lookup key = entries.lookup key := by
  have hkeys' : (entries'.map Prod.fst).Nodup := (h.map Prod.fst).nodup_iff.1 hkeys
  ext value
  rw [lookup_eq_some_iff_mem hkeys', lookup_eq_some_iff_mem hkeys, h.mem_iff]

/-- Only a mapping has a node under a key. -/
theorem exists_entries_of_get? {doc node : Value} (h : doc.get? key = some node) :
    ∃ entries, doc = .mapping entries ∧ entries.lookup key = some node := by
  cases doc with
  | mapping entries => exact ⟨entries, rfl, h⟩
  | null | bool _ | integer _ | float _ | string _ | sequence _ => cases h

theorem DistinctEntries.of_lookup (h : DistinctEntries entries)
    (hkey : entries.lookup key = some value) : value.Distinct := by
  induction entries with
  | nil => cases hkey
  | cons entry entries ih =>
    rw [lookup_cons_eq_ite] at hkey
    split at hkey
    · cases hkey
      exact h.1
    · exact ih h.2 hkey

theorem Distinct.of_get? {doc node : Value} (h : doc.Distinct) (hkey : doc.get? key = some node) :
    node.Distinct := by
  obtain ⟨entries, rfl, hlookup⟩ := exists_entries_of_get? hkey
  exact DistinctEntries.of_lookup h.2 hlookup

/-- Another key is bound to what it was bound to before. -/
theorem lookup_insertEntry (key : String) (value : Value) (entries : List (String × Value))
    (other : String) : (insertEntry key value entries).lookup other =
      if other = key then some value else entries.lookup other := by
  induction entries with
  | nil => rw [insertEntry, lookup_cons_eq_ite]
  | cons entry entries ih =>
    obtain ⟨k, v⟩ := entry
    rw [insertEntry]
    split
    · next hk =>
      subst hk
      rw [lookup_cons_eq_ite, lookup_cons_eq_ite]
      split <;> rfl
    · next hk =>
      rw [lookup_cons_eq_ite, lookup_cons_eq_ite, ih]
      split
      · next h => rw [if_neg (h ▸ hk)]
      · rfl

/-- Binding a key to what it is bound to changes nothing. -/
theorem insertEntry_of_lookup (h : entries.lookup key = some value) :
    insertEntry key value entries = entries := by
  induction entries with
  | nil => cases h
  | cons entry entries ih =>
    obtain ⟨k, v⟩ := entry
    rw [lookup_cons_eq_ite] at h
    rw [insertEntry]
    split
    · next hk =>
      rw [if_pos hk.symm] at h
      rw [Option.some.inj h]
    · next hk =>
      rw [if_neg (Ne.symm hk)] at h
      rw [ih h]

/-- Where no key occurs twice, binding one that is there changes just its entry. -/
theorem insertEntry_eq_map (hkeys : (entries.map Prod.fst).Nodup)
    (hmem : key ∈ entries.map Prod.fst) (value : Value) : insertEntry key value entries =
      entries.map fun (k, v) ↦ (k, if k = key then value else v) := by
  induction entries with
  | nil => cases hmem
  | cons entry entries ih =>
    obtain ⟨k, v⟩ := entry
    obtain ⟨hhead, htail⟩ := List.nodup_cons.1 hkeys
    simp only [insertEntry, List.map_cons]
    split
    · next hk =>
      subst hk
      have hrest : ∀ entry ∈ entries,
          (entry.1, if entry.1 = k then value else entry.2) = entry := by
        intro entry hentry
        have hkey : entry.1 ∈ entries.map Prod.fst := List.mem_map_of_mem hentry
        rw [if_neg (ne_of_mem_of_not_mem hkey hhead)]
      rw [List.map_congr_left hrest, List.map_id']
    · next hk =>
      rw [ih htail ((List.mem_cons.1 hmem).resolve_left (Ne.symm hk))]

/-! ## Changing what a key is bound to -/

/-- What a mapping binds to a key is changed, and the rest stays as it is. -/
def modify (key : String) (f : Value → Value) : Value → Value
  | .mapping entries => .mapping (entries.map fun (k, v) ↦ (k, if k = key then f v else v))
  | other => other

theorem insertEntry_eq_modify (hkeys : (entries.map Prod.fst).Nodup)
    (hkey : entries.lookup key = some value) (f : Value → Value) :
    .mapping (insertEntry key (f value) entries) = (Value.mapping entries).modify key f := by
  rw [insertEntry_eq_map hkeys (mem_keys_of_lookup hkey), modify]
  congr 1
  refine List.map_congr_left ?_
  rintro ⟨k, v⟩ hentry
  by_cases hk : k = key
  · subst hk
    have hentry' : entries.lookup k = some v := (lookup_eq_some_iff_mem hkeys).2 hentry
    rw [Option.some.inj (hkey.symm.trans hentry')]
  · simp only [if_neg hk]

theorem distinctEntries_iff : DistinctEntries entries ↔ ∀ entry ∈ entries, entry.2.Distinct := by
  induction entries with
  | nil => exact ⟨fun _ ↦ nofun, fun _ ↦ trivial⟩
  | cons entry entries ih => rw [DistinctEntries, ih, List.forall_mem_cons]

theorem Distinct.modify {doc : Value} (h : doc.Distinct) (key : String) {f : Value → Value}
    (hf : ∀ v : Value, v.Distinct → (f v).Distinct) : (doc.modify key f).Distinct := by
  cases doc with
  | mapping entries =>
    obtain ⟨hkeys, hentries⟩ := h
    rw [Value.modify, Distinct, List.map_map, distinctEntries_iff, List.forall_mem_map]
    refine ⟨hkeys, ?_⟩
    rintro ⟨k, v⟩ hentry
    have hv : v.Distinct := distinctEntries_iff.1 hentries _ hentry
    by_cases hk : k = key
    · simpa only [if_pos hk] using hf v hv
    · simpa only [if_neg hk] using hv
  | null | bool _ | integer _ | float _ | string _ | sequence _ => exact h

end ConfigResolver.Value
