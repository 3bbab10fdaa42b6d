import ConfigResolver.Proofs.Value.Position

/-!
# Documents up to the order of mapping entries

The order in which a mapping has its entries carries no meaning, while that of the items of a
sequence does. `Reordered` relates two documents that differ only in the order of entries, in any
number of mappings at any depth. Entries are compared in two steps: first the nodes they bind, with
the keys in the same order (`ReorderedEntries`), and then up to a permutation.

As no key occurs twice in a mapping, reordered documents have reordered nodes under each key
(`Reordered.get?`). They have the same texts at the same positions (`Reordered.spots_perm`), in
another order.
-/

namespace ConfigResolver.Value

mutual

/-- Another node is this one with the entries of mappings in it permuted. -/
inductive Reordered : Value → Value → Prop where
  /-- Nothing is permuted. -/
  | refl (v : Value) : Reordered v v
  /-- The items keep their order. -/
  | sequence {items items' : List Value} (h : ReorderedItems items items') :
      Reordered (.sequence items) (.sequence items')
  /-- The entries need not keep theirs. -/
  | mapping {entries aligned entries' : List (String × Value)}
      (h : ReorderedEntries entries aligned) (hperm : aligned.Perm entries') :
      Reordered (.mapping entries) (.mapping entries')

/-- Items are reordered one by one. -/
inductive ReorderedItems : List Value → List Value → Prop where
  /-- There are none. -/
  | nil : ReorderedItems [] []
  /-- The first one and the others are. -/
  | cons {item item' : Value} {rest rest' : List Value} (hitem : Reordered item item')
      (hrest : ReorderedItems rest rest') : ReorderedItems (item :: rest) (item' :: rest')

/-- What entries bind is reordered one by one. -/
inductive ReorderedEntries : List (String × Value) → List (String × Value) → Prop where
  /-- There are none. -/
  | nil : ReorderedEntries [] []
  /-- What the first one binds is, under the same key, and what the others bind. -/
  | cons (key : String) {value value' : Value} {rest rest' : List (String × Value)}
      (hvalue : Reordered value value') (hrest : ReorderedEntries rest rest') :
      ReorderedEntries ((key, value) :: rest) ((key, value') :: rest')

end

variable {v w : Value}

theorem ReorderedEntries.refl : (entries : List (String × Value)) → ReorderedEntries entries entries
  | [] => .nil
  | (key, value) :: rest => .cons key (.refl value) (.refl rest)

/-- To permute the entries of one mapping is a special case. -/
theorem Reordered.of_perm {entries entries' : List (String × Value)} (h : entries.Perm entries') :
    (Value.mapping entries).Reordered (.mapping entries') :=
  .mapping (.refl entries) h

theorem ReorderedEntries.keys {entries aligned : List (String × Value)} :
    ReorderedEntries entries aligned → aligned.map Prod.fst = entries.map Prod.fst
  | .nil => rfl
  | .cons key _ hrest => congrArg (key :: ·) hrest.keys

/-! ## Distinct keys -/

mutual

/-- Reordering makes no key occur twice. -/
theorem Reordered.distinct {v w : Value} : v.Reordered w → v.Distinct → w.Distinct
  | .refl _, hv => hv
  | .sequence h, hv => h.distinct hv
  | .mapping h hperm, ⟨hkeys, hentries⟩ => by
    constructor
    · rw [← (hperm.map Prod.fst).nodup_iff, h.keys]
      exact hkeys
    · have haligned := distinctEntries_iff.1 (h.distinct hentries)
      exact distinctEntries_iff.2 fun entry hentry ↦ haligned entry (hperm.mem_iff.2 hentry)

theorem ReorderedItems.distinct {items items' : List Value} :
    ReorderedItems items items' → DistinctItems items → DistinctItems items'
  | .nil, h => h
  | .cons hitem hrest, h => ⟨hitem.distinct h.1, hrest.distinct h.2⟩

theorem ReorderedEntries.distinct {entries aligned : List (String × Value)} :
    ReorderedEntries entries aligned → DistinctEntries entries → DistinctEntries aligned
  | .nil, h => h
  | .cons _ hvalue hrest, h => ⟨hvalue.distinct h.1, hrest.distinct h.2⟩

end

/-! ## What is bound under a key -/

theorem ReorderedEntries.lookup (key : String) {entries aligned : List (String × Value)} :
    ReorderedEntries entries aligned →
      Option.Rel Reordered (entries.lookup key) (aligned.lookup key)
  | .nil => .none
  | .cons k hvalue hrest => by
    rw [lookup_cons_eq_ite, lookup_cons_eq_ite]
    split
    · exact .some hvalue
    · exact hrest.lookup key

/-- The same keys are bound, to nodes that are reordered. -/
theorem Reordered.get? (h : v.Reordered w) (hv : v.Distinct) (key : String) :
    Option.Rel Reordered (v.get? key) (w.get? key) := by
  cases h with
  | refl =>
    cases v.get? key with
    | none => exact .none
    | some node => exact .some (.refl node)
  | sequence => exact .none
  | @mapping entries aligned entries' h hperm =>
    have hkeys : (aligned.map Prod.fst).Nodup := h.keys ▸ hv.1
    have hlookup : entries'.lookup key = aligned.lookup key := lookup_of_perm hkeys hperm key
    change Option.Rel Reordered (entries.lookup key) (entries'.lookup key)
    rw [hlookup]
    exact h.lookup key

theorem ReorderedEntries.map {f : String → Value → Value}
    (hf : ∀ key v w, Reordered v w → Reordered (f key v) (f key w))
    {entries aligned : List (String × Value)} : ReorderedEntries entries aligned →
      ReorderedEntries (entries.map fun (k, v) ↦ (k, f k v)) (aligned.map fun (k, v) ↦ (k, f k v))
  | .nil => .nil
  | .cons key hvalue hrest => .cons key (hf key _ _ hvalue) (hrest.map hf)

/-- What is bound to a key may be changed by anything that does not look at the order. -/
theorem Reordered.modify {f : Value → Value}
    (hf : ∀ v w, Reordered v w → Reordered (f v) (f w)) (key : String) (h : v.Reordered w) :
    (v.modify key f).Reordered (w.modify key f) := by
  cases h with
  | refl => exact .refl _
  | sequence h => exact .sequence h
  | mapping h hperm =>
    have hentry : ∀ k v w, Reordered v w →
        Reordered (if k = key then f v else v) (if k = key then f w else w) := by
      intro k v w hnode
      split
      · exact hf v w hnode
      · exact hnode
    exact .mapping (h.map hentry) (hperm.map _)

/-! ## Texts -/

theorem spotsOfEntries_eq_flatMap (entries : List (String × Value)) : spotsOfEntries entries =
    entries.flatMap fun (key, value) ↦ value.spots.map (.under (.key key)) := by
  induction entries with
  | nil =>
    rw [spotsOfEntries]
    rfl
  | cons entry rest ih =>
    rw [spotsOfEntries, ih]
    rfl

mutual

/-- The texts are the same at the same positions, in another order. -/
theorem Reordered.spots_perm {v w : Value} : v.Reordered w → v.spots.Perm w.spots
  | .refl _ => .refl _
  | .sequence h => by
    rw [spots, spots]
    exact h.spots_perm 0
  | .mapping h hperm => by
    rw [spots, spots]
    refine h.spots_perm.trans ?_
    rw [spotsOfEntries_eq_flatMap, spotsOfEntries_eq_flatMap]
    exact hperm.flatMap_right _

theorem ReorderedItems.spots_perm {items items' : List Value} :
    ReorderedItems items items' →
      ∀ index, (spotsOfItems index items).Perm (spotsOfItems index items')
  | .nil, _ => .refl _
  | .cons hitem hrest, index => by
    rw [spotsOfItems, spotsOfItems]
    exact (hitem.spots_perm.map _).append (hrest.spots_perm (index + 1))

theorem ReorderedEntries.spots_perm {entries aligned : List (String × Value)} :
    ReorderedEntries entries aligned → (spotsOfEntries entries).Perm (spotsOfEntries aligned)
  | .nil => .refl _
  | .cons _ hvalue hrest => by
    rw [spotsOfEntries, spotsOfEntries]
    exact (hvalue.spots_perm.map _).append hrest.spots_perm

end

theorem Reordered.spotsUnder_perm (h : v.Reordered w) (hv : v.Distinct) :
    (key : Option String) → (v.spotsUnder key).Perm (w.spotsUnder key)
  | none => h.spots_perm
  | some key => by
    have hnodes := h.get? hv key
    rw [spotsUnder, spotsUnder]
    generalize v.get? key = node?, w.get? key = node?' at hnodes ⊢
    cases hnodes with
    | none => exact h.spots_perm
    | some hnode => exact hnode.spots_perm.map _

end ConfigResolver.Value
