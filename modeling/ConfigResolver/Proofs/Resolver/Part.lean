import ConfigResolver.Proofs.Resolver.Scope
import ConfigResolver.Proofs.Resolver.Settled
import ConfigResolver.Proofs.Value.Position

/-!
# The part of a document that is resolved

With a key to resolve, what is resolved is the node under this key, and without one, or where there
is no such key, the whole document. Either way one node is walked at one place, and what it comes to
is put where it was (`resolveDocument_walks`). The leaves of the walk are the texts of the document
that `Value.spotsUnder` lists (`leaves_eq_map_spots`).

So a document with a key to resolve is resolved text by text as well: over a store that answers by
name all of these texts have values, and take them, or the first that has none gives the error
(`resolveDocument_cases`).
-/

namespace ConfigResolver

open Value (Step Spot spots spotsOfItems spotsOfEntries spotsUnder)

namespace Value

variable {g : String → String}

/-- The document with the texts of one part changed, be it what one top-level key stands for or the
whole document where there is no such key. -/
def mapTextsUnder (g : String → String) (doc : Value) : Option String → Value
  | none => doc.mapTexts g
  | some key =>
    match doc.get? key with
    | some _ => doc.modify key (mapTexts g)
    | none => doc.mapTexts g

theorem mapTextsUnder_of_absent {doc : Value} {key : Option String}
    (h : ∀ k ∈ key, doc.get? k = none) : doc.mapTextsUnder g key = doc.mapTexts g := by
  cases key with
  | none => rfl
  | some k => rw [mapTextsUnder, h k rfl]

theorem mapTextsOfEntries_eq_map (g : String → String) (entries : List (String × Value)) :
    mapTextsOfEntries g entries = entries.map fun (k, v) ↦ (k, v.mapTexts g) := by
  induction entries with
  | nil => rfl
  | cons entry entries ih =>
    rw [mapTextsOfEntries, ih]
    rfl

mutual

theorem Distinct.mapTexts (g : String → String) :
    (v : Value) → v.Distinct → (v.mapTexts g).Distinct
  | .sequence items, h => by
    rw [Value.mapTexts]
    exact DistinctItems.mapTexts g items h
  | .mapping entries, h => by
    rw [Value.mapTexts]
    refine ⟨?_, DistinctEntries.mapTexts g entries h.2⟩
    rw [mapTextsOfEntries_eq_map, List.map_map]
    exact h.1
  | .null, h | .bool _, h | .integer _, h | .float _, h | .string _, h => h

theorem DistinctItems.mapTexts (g : String → String) :
    (items : List Value) → DistinctItems items → DistinctItems (mapTextsOfItems g items)
  | [], h => h
  | item :: rest, h => ⟨Distinct.mapTexts g item h.1, DistinctItems.mapTexts g rest h.2⟩

theorem DistinctEntries.mapTexts (g : String → String) :
    (entries : List (String × Value)) → DistinctEntries entries →
      DistinctEntries (mapTextsOfEntries g entries)
  | [], h => h
  | (_, value) :: rest, h => ⟨Distinct.mapTexts g value h.1, DistinctEntries.mapTexts g rest h.2⟩

end

/-- Changing texts makes no key occur twice. -/
theorem Distinct.mapTextsUnder {doc : Value} (h : doc.Distinct) (g : String → String)
    (key : Option String) : (doc.mapTextsUnder g key).Distinct := by
  unfold Value.mapTextsUnder
  split
  · exact Distinct.mapTexts g doc h
  · split
    · exact h.modify _ (Distinct.mapTexts g)
    · exact Distinct.mapTexts g doc h

end Value

namespace Resolver

variable {σ : Type} {r : Resolver σ} {env : Environment}

/-! ## How the walk names places -/

/-- The place of a node that is one step below the node at a place. -/
def stepPath (path : String) : Step → String
  | .key key => entryPath path key
  | .index i => itemPath path i

/-- The leaf that a text is, seen from the node at a place. -/
def leafAt (path : String) (spot : Spot) : Leaf := ⟨spot.position.foldl stepPath path, spot.text⟩

theorem map_leafAt_under (path : String) (step : Step) (ls : List Spot) :
    (ls.map (.under step)).map (leafAt path) = ls.map (leafAt (stepPath path step)) :=
  List.map_map

mutual

theorem leaves_eq_map_spots (path : String) :
    (v : Value) → leaves path v = v.spots.map (leafAt path)
  | .string s => by
    rw [leaves, spots]
    rfl
  | .sequence items => by
    rw [leaves, spots, leavesOfItems_eq_map_spots path 0 items]
  | .mapping entries => by
    rw [leaves, spots, leavesOfEntries_eq_map_spots path entries]
  | .null | .bool _ | .integer _ | .float _ => by
    simp [leaves, spots]

theorem leavesOfItems_eq_map_spots (path : String) (index : Nat) : (items : List Value) →
    leavesOfItems path index items = (spotsOfItems index items).map (leafAt path)
  | [] => by
    rw [leavesOfItems, spotsOfItems, List.map_nil]
  | item :: rest => by
    rw [leavesOfItems, spotsOfItems, List.map_append, map_leafAt_under,
      leaves_eq_map_spots (itemPath path index) item,
      leavesOfItems_eq_map_spots path (index + 1) rest]
    rfl

theorem leavesOfEntries_eq_map_spots (path : String) : (entries : List (String × Value)) →
    leavesOfEntries path entries = (spotsOfEntries entries).map (leafAt path)
  | [] => by
    rw [leavesOfEntries, spotsOfEntries, List.map_nil]
  | (key, value) :: rest => by
    rw [leavesOfEntries, spotsOfEntries, List.map_append, map_leafAt_under,
      leaves_eq_map_spots (entryPath path key) value, leavesOfEntries_eq_map_spots path rest]
    rfl

end

/-! ## What is walked -/

/-- To resolve a document, the node that is selected is walked. At most it is reported before that
there is no such node. -/
theorem resolveDocument_walks_selected (r : Resolver σ) (env : Environment) (doc : Value)
    (resolveKey returnKey : Option String) :
    ∃ (path : String) (before : List Event) (put : Value → Value),
      (before = [] ∨ ∃ key, before = [.log (.keyAbsent key)]) ∧
      ∀ st, r.resolveDocument env doc resolveKey returnKey st =
        let own := r.walk env path (select doc resolveKey) st
        ⟨own.result.map put, before ++ own.events, own.store⟩ := by
  by_cases hkey : ∃ key ∈ resolveKey, ∃ node, doc.get? key = some node
  · obtain ⟨key, rfl, node, hnode⟩ := hkey
    obtain ⟨entries, rfl, hlookup⟩ := Value.exists_entries_of_get? hnode
    have hselect : select (.mapping entries) (some key) = node := by
      rw [select, Option.bind_some, hnode, Option.getD_some]
    refine ⟨key, [], fun v ↦ select (.mapping (Value.insertEntry key v entries)) returnKey,
      .inl rfl, fun st ↦ ?_⟩
    rw [resolveDocument_under hlookup, hselect, Run.map_apply]
    rfl
  · have habsent : ∀ key ∈ resolveKey, doc.get? key = none :=
      fun key hmem ↦ Option.eq_none_iff_forall_ne_some.2 fun node hnode ↦
        hkey ⟨key, hmem, node, hnode⟩
    have hselect : select doc resolveKey = doc := by
      cases resolveKey with
      | none => rfl
      | some key => rw [select, Option.bind_some, habsent key rfl, Option.getD_none]
    obtain ⟨before, hbefore, hdocument⟩ := resolveDocument_of_absent r env habsent returnKey
    rw [hselect]
    exact ⟨"", before, _, hbefore, hdocument⟩

/-- To resolve a document, one node of it is walked. This node has the texts that are to be
resolved, and nothing else is asked for. -/
theorem resolveDocument_walks (r : Resolver σ) (env : Environment) {doc : Value}
    (hdoc : doc.Distinct) (resolveKey : Option String) :
    ∃ (path : String) (node : Value) (put : Value → Value), node.Distinct ∧
      leaves path node = (doc.spotsUnder resolveKey).map (leafAt "") ∧
      (∀ g, put (node.mapTexts g) = doc.mapTextsUnder g resolveKey) ∧
      ∀ returnKey st,
        let out := r.resolveDocument env doc resolveKey returnKey st
        let own := r.walk env path node st
        out.result = own.result.map (fun v ↦ select (put v) returnKey) ∧
          callsOf out.events = callsOf own.events := by
  by_cases hkey : ∃ key ∈ resolveKey, ∃ node, doc.get? key = some node
  · obtain ⟨key, rfl, node, hnode⟩ := hkey
    obtain ⟨entries, rfl, hlookup⟩ := Value.exists_entries_of_get? hnode
    refine ⟨key, node, fun v ↦ .mapping (Value.insertEntry key v entries), hdoc.of_get? hnode, ?_,
      fun g ↦ ?_, fun returnKey st ↦ ?_⟩
    · simp only [spotsUnder, hnode]
      rw [map_leafAt_under, ← leaves_eq_map_spots, stepPath, entryPath_root]
    · simp only [Value.mapTextsUnder, hnode]
      exact Value.insertEntry_eq_modify hdoc.1 hlookup (Value.mapTexts g)
    · intro out own
      have hout : out = _ := congrFun (resolveDocument_under hlookup returnKey) st
      rw [hout, Run.map_apply]
      exact ⟨rfl, rfl⟩
  · have habsent : ∀ key ∈ resolveKey, doc.get? key = none :=
      fun key hmem ↦ Option.eq_none_iff_forall_ne_some.2 fun node hnode ↦
        hkey ⟨key, hmem, node, hnode⟩
    refine ⟨"", doc, id, hdoc, ?_, fun g ↦ ?_, fun returnKey st ↦ ?_⟩
    · rw [leaves_eq_map_spots, Value.spotsUnder_of_absent habsent]
    · rw [Value.mapTextsUnder_of_absent habsent, id]
    · intro out own
      obtain ⟨events, hevents, hdocument⟩ := resolveDocument_of_absent r env habsent returnKey
      have hcalls : callsOf events = [] := by rcases hevents with rfl | ⟨key, rfl⟩ <;> rfl
      have hout : out = _ := hdocument st
      rw [hout, callsOf_append, hcalls, List.nil_append]
      exact ⟨rfl, rfl⟩

/-! ## Text by text -/

/-- What some texts ask the store for, each by itself. -/
def callsFor (r : Resolver σ) (env : Environment) (st : σ) (spots : List Spot) : List Call :=
  spots.flatMap fun spot ↦ callsOf (r.resolveString env spot.text st).events

theorem callsOf_map_leafAt (r : Resolver σ) (env : Environment) (st : σ) (spots : List Spot) :
    callsOf ((spots.map (leafAt "")).flatMap fun leaf ↦
      (r.resolveString env leaf.text st).events) = r.callsFor env st spots := by
  rw [callsOf_flatMap, List.flatMap_map]
  rfl

theorem callsFor_append (st : σ) (before after : List Spot) :
    r.callsFor env st (before ++ after) = r.callsFor env st before ++ r.callsFor env st after :=
  List.flatMap_append

section Document

variable {answer : String → Except StoreError String}
  (hstore : ∀ store ∈ r.store, store.AnswersBy answer) {doc : Value} (hdoc : doc.Distinct)

include hstore hdoc

theorem result_resolveDocument {g : String → String} {resolveKey : Option String} {st' : σ}
    (hg : ∀ spot ∈ doc.spotsUnder resolveKey,
      (r.resolveString env spot.text st').result = .ok (g spot.text))
    (returnKey : Option String) (st : σ) :
    (r.resolveDocument env doc resolveKey returnKey st).result =
      .ok (select (doc.mapTextsUnder g resolveKey) returnKey) := by
  obtain ⟨path, node, put, hnode, hleaves, hput, hdocument⟩ :=
    resolveDocument_walks r env hdoc resolveKey
  have hwalk : (r.walk env path node).Yields (node.mapTexts g) := by
    refine walk_yields path node hnode ?_
    rw [hleaves, List.forall_mem_map]
    exact fun spot hspot ↦ (steady_resolveString hstore env spot.text).yields (hg spot hspot)
  rw [(hdocument returnKey st).1, hwalk st, ← hput]
  rfl

/-- Either every text that is to be resolved has a value, and the document takes these, or the first
that has none gives the error. The texts up to that one, or all of them, ask the store for what they
ask by themselves. -/
theorem resolveDocument_cases (resolveKey returnKey : Option String) (st st' : σ) :
    let own := fun spot : Spot ↦ r.resolveString env spot.text st'
    let out := r.resolveDocument env doc resolveKey returnKey st
    (∃ g, (∀ spot ∈ doc.spotsUnder resolveKey, (own spot).result = .ok (g spot.text)) ∧
        out.result = .ok (select (doc.mapTextsUnder g resolveKey) returnKey) ∧
        callsOf out.events = r.callsFor env st' (doc.spotsUnder resolveKey)) ∨
      ∃ before spot after e, doc.spotsUnder resolveKey = before ++ spot :: after ∧
        (∀ earlier ∈ before, ∃ value, (own earlier).result = .ok value) ∧
        (own spot).result = .error e ∧
        out.result = .error (e.orPath (leafAt "" spot).place) ∧
        callsOf out.events = r.callsFor env st' (before ++ [spot]) := by
  intro own out
  obtain ⟨path, node, put, -, hleaves, -, hdocument⟩ := resolveDocument_walks r env hdoc resolveKey
  obtain ⟨hresult, hcalls⟩ := hdocument returnKey st
  rcases walk_cases hstore path node st st' with
    ⟨hall, -, hevents⟩ | ⟨before, leaf, after, e, hsplit, hbefore, hleaf, herror, hevents⟩
  · rw [hleaves, List.forall_mem_map] at hall
    have htexts : ∀ text ∈ (doc.spotsUnder resolveKey).map Spot.text,
        ∃ value, (r.resolveString env text st').result = .ok value := List.forall_mem_map.2 hall
    choose! g hg using htexts
    rw [List.forall_mem_map] at hg
    refine .inl ⟨g, hg, result_resolveDocument hstore hdoc hg returnKey st, ?_⟩
    rw [hcalls, hevents, hleaves]
    exact callsOf_map_leafAt r env st' _
  · rw [hleaves] at hsplit
    obtain ⟨before, rest, hspots, rfl, hrest⟩ := List.map_eq_append_iff.1 hsplit
    obtain ⟨spot, after, rfl, rfl, -⟩ := List.map_eq_cons_iff.1 hrest
    rw [List.forall_mem_map] at hbefore
    refine .inr ⟨before, spot, after, e, hspots, hbefore, hleaf, ?_, ?_⟩
    · rw [hresult, herror]
      rfl
    · rw [hcalls, hevents, ← List.map_singleton, ← List.map_append]
      exact callsOf_map_leafAt r env st' _

/-- A document comes to one in which its texts have the values that they have by themselves. -/
theorem resolveDocument_eq_ok_iff {resolveKey returnKey : Option String} {st : σ} (st' : σ)
    {v : Value} : (r.resolveDocument env doc resolveKey returnKey st).result = .ok v ↔
      ∃ g, (∀ spot ∈ doc.spotsUnder resolveKey,
          (r.resolveString env spot.text st').result = .ok (g spot.text)) ∧
        v = select (doc.mapTextsUnder g resolveKey) returnKey := by
  constructor
  · intro hv
    rcases resolveDocument_cases hstore hdoc resolveKey returnKey st st' with
      ⟨g, hg, hresult, -⟩ | ⟨before, spot, after, e, -, -, -, herror, -⟩
    · exact ⟨g, hg, Except.ok.inj (hv.symm.trans hresult)⟩
    · cases herror.symm.trans hv
  · rintro ⟨g, hg, rfl⟩
    exact result_resolveDocument hstore hdoc hg returnKey st

/-- All texts are asked for if the document is resolved, and some of the first ones anyway. -/
theorem callsOf_resolveDocument (resolveKey returnKey : Option String) (st st' : σ) :
    let out := r.resolveDocument env doc resolveKey returnKey st
    callsOf out.events <+: r.callsFor env st' (doc.spotsUnder resolveKey) ∧
      ∀ v, out.result = .ok v →
        callsOf out.events = r.callsFor env st' (doc.spotsUnder resolveKey) := by
  intro out
  rcases resolveDocument_cases hstore hdoc resolveKey returnKey st st' with
    ⟨g, -, -, hcalls⟩ | ⟨before, spot, after, e, hspots, -, -, herror, hcalls⟩
  · exact ⟨hcalls ▸ List.prefix_refl _, fun v _ ↦ hcalls⟩
  · refine ⟨?_, fun v hv ↦ ?_⟩
    · have hsplit : doc.spotsUnder resolveKey = (before ++ [spot]) ++ after :=
        hspots.trans (List.append_cons before spot after)
      rw [hcalls, hsplit, callsFor_append st' (before ++ [spot]) after]
      exact List.prefix_append _ _
    · cases herror.symm.trans hv

end Document

end Resolver

end ConfigResolver
