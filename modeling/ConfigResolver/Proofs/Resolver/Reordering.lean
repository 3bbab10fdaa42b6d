import ConfigResolver.Proofs.Resolver.Failure
import ConfigResolver.Proofs.Value.Reordering

/-!
# The order of mapping entries carries no meaning

A resolver goes through the entries of a mapping in their order and stops at the first text that has
no value. Over a store that answers by name it makes no difference to a text when its turn comes, so
of two documents that are reordered (`Value.Reordered`) either both are resolved or none is, and
what they come to is reordered again. What the order does decide is which of the texts without a
value is reported, and what has been asked for by then. Main statement: `resolveDocument_reordered`.
-/

namespace ConfigResolver

open Value (Spot writePosition named)

namespace Value

mutual

/-- To change texts keeps the order of the entries. -/
theorem Reordered.mapTexts (g : String → String) {v w : Value} :
    v.Reordered w → (v.mapTexts g).Reordered (w.mapTexts g)
  | .refl _ => .refl _
  | .sequence h => by
    rw [Value.mapTexts, Value.mapTexts]
    exact .sequence (h.mapTexts g)
  | .mapping h hperm => by
    rw [Value.mapTexts, Value.mapTexts]
    refine .mapping (h.mapTexts g) ?_
    rw [mapTextsOfEntries_eq_map, mapTextsOfEntries_eq_map]
    exact hperm.map _

theorem ReorderedItems.mapTexts (g : String → String) {items items' : List Value} :
    ReorderedItems items items' →
      ReorderedItems (mapTextsOfItems g items) (mapTextsOfItems g items')
  | .nil => .nil
  | .cons hitem hrest => .cons (hitem.mapTexts g) (hrest.mapTexts g)

theorem ReorderedEntries.mapTexts (g : String → String) {entries aligned : List (String × Value)} :
    ReorderedEntries entries aligned →
      ReorderedEntries (mapTextsOfEntries g entries) (mapTextsOfEntries g aligned)
  | .nil => .nil
  | .cons key hvalue hrest => .cons key (hvalue.mapTexts g) (hrest.mapTexts g)

end

variable {v w : Value}

theorem Reordered.mapTextsUnder (h : v.Reordered w) (hv : v.Distinct) (g : String → String) :
    (key : Option String) → (v.mapTextsUnder g key).Reordered (w.mapTextsUnder g key)
  | none => h.mapTexts g
  | some key => by
    have hnodes := h.get? hv key
    rw [Value.mapTextsUnder, Value.mapTextsUnder]
    generalize v.get? key = node?, w.get? key = node?' at hnodes ⊢
    cases hnodes with
    | none => exact h.mapTexts g
    | some _ => exact h.modify (fun _ _ hnode ↦ hnode.mapTexts g) key

theorem Reordered.select (h : v.Reordered w) (hv : v.Distinct) :
    (key : Option String) → (Resolver.select v key).Reordered (Resolver.select w key)
  | none => h
  | some key => by
    have hnodes := h.get? hv key
    rw [Resolver.select, Resolver.select, Option.bind_some, Option.bind_some]
    generalize v.get? key = node?, w.get? key = node?' at hnodes ⊢
    cases hnodes with
    | none => exact h
    | some hnode => exact hnode

end Value

namespace Resolver

variable {σ : Type} {r : Resolver σ} {env : Environment}

/-- An error is that of one of some texts, and tells where this text is. -/
def Blames (r : Resolver σ) (env : Environment) (st : σ) (spots : List Spot) (e : Error) : Prop :=
  ∃ spot ∈ spots, ∃ e', (r.resolveString env spot.text st).result = .error e' ∧
    e = { e' with path := writePosition (named spot.position) }

theorem Blames.of_perm {st : σ} {spots spots' : List Spot} {e : Error}
    (h : r.Blames env st spots e) (hperm : spots.Perm spots') : r.Blames env st spots' e := by
  obtain ⟨spot, hspot, hfails⟩ := h
  exact ⟨spot, hperm.mem_iff.1 hspot, hfails⟩

theorem blames_of_resolveDocument {answer : String → Except StoreError String}
    (hstore : ∀ store ∈ r.store, store.AnswersBy answer) {doc : Value} (hdoc : doc.Distinct)
    {resolveKey returnKey : Option String} {st : σ} (st' : σ) {e : Error}
    (h : (r.resolveDocument env doc resolveKey returnKey st).result = .error e) :
    r.Blames env st' (doc.spotsUnder resolveKey) e := by
  rcases resolveDocument_cases hstore hdoc resolveKey returnKey st st' with
    ⟨g, -, hresult, -⟩ | ⟨before, spot, after, e', hspots, -, he', hresult, -⟩
  · cases hresult.symm.trans h
  · obtain rfl := Except.error.inj (hresult.symm.trans h)
    refine ⟨spot, ?_, e', he', orPath_leafAt he'⟩
    rw [hspots]
    exact List.mem_append_right before List.mem_cons_self

/-- The order of mapping entries carries no meaning. Of two documents that differ only in it, and
over a store that answers by name, one is resolved exactly if the other is. What they come to then
differs only in the order of mapping entries, and the store has been asked the same, in another
order. If they are not resolved, each of the two errors is that of a text that the other document
has at the same position, where it cannot be resolved either, and the store has been asked for a
first part of what all the texts ask it for in the order of the document. -/
theorem resolveDocument_reordered (r : Resolver σ) (env : Environment)
    {answer : String → Except StoreError String}
    (hstore : ∀ store ∈ r.store, store.AnswersBy answer) {doc doc' : Value} (hdoc : doc.Distinct)
    (h : doc.Reordered doc') (resolveKey returnKey : Option String) (st st' : σ) :
    let spots := doc.spotsUnder resolveKey
    let spots' := doc'.spotsUnder resolveKey
    let out := r.resolveDocument env doc resolveKey returnKey st
    let out' := r.resolveDocument env doc' resolveKey returnKey st'
    ((∃ v, out.result = .ok v) ↔ ∃ v', out'.result = .ok v') ∧
    (∀ v v', out.result = .ok v → out'.result = .ok v' →
      v.Reordered v' ∧ (callsOf out.events).Perm (callsOf out'.events)) ∧
    (∀ e, out.result = .error e → r.Blames env st spots' e) ∧
    (∀ e, out'.result = .error e → r.Blames env st spots e) ∧
    (r.callsFor env st spots).Perm (r.callsFor env st spots') ∧
    callsOf out.events <+: r.callsFor env st spots ∧
    callsOf out'.events <+: r.callsFor env st spots' := by
  intro spots spots' out out'
  have hdoc' : doc'.Distinct := h.distinct hdoc
  have hspots : spots.Perm spots' := h.spotsUnder_perm hdoc resolveKey
  have hasked : (r.callsFor env st spots).Perm (r.callsFor env st spots') := hspots.flatMap_right _
  obtain ⟨hfirst, hcalls⟩ := callsOf_resolveDocument hstore hdoc resolveKey returnKey st st
  obtain ⟨hfirst', hcalls'⟩ := callsOf_resolveDocument hstore hdoc' resolveKey returnKey st' st
  have hok : ∀ v, out.result = .ok v ↔ _ := fun v ↦ resolveDocument_eq_ok_iff hstore hdoc st
  have hok' : ∀ v, out'.result = .ok v ↔ _ := fun v ↦ resolveDocument_eq_ok_iff hstore hdoc' st
  refine ⟨⟨?_, ?_⟩, fun v v' hv hv' ↦ ?_, fun e he ↦ ?_, fun e he ↦ ?_, hasked, hfirst, hfirst'⟩
  · rintro ⟨v, hv⟩
    obtain ⟨g, hg, -⟩ := (hok v).1 hv
    exact ⟨_, (hok' _).2 ⟨g, fun spot hspot ↦ hg spot (hspots.mem_iff.2 hspot), rfl⟩⟩
  · rintro ⟨v', hv'⟩
    obtain ⟨g, hg, -⟩ := (hok' v').1 hv'
    exact ⟨_, (hok _).2 ⟨g, fun spot hspot ↦ hg spot (hspots.mem_iff.1 hspot), rfl⟩⟩
  · obtain ⟨g, hg, rfl⟩ := (hok v).1 hv
    -- the same values go into the other document
    have hother := (hok' _).2 ⟨g, fun spot hspot ↦ hg spot (hspots.mem_iff.2 hspot), rfl⟩
    obtain rfl := Except.ok.inj (hother.symm.trans hv')
    refine ⟨?_, ?_⟩
    · exact (h.mapTextsUnder hdoc g resolveKey).select (hdoc.mapTextsUnder g resolveKey) returnKey
    · rw [hcalls _ hv, hcalls' _ hv']
      exact hasked
  · exact (blames_of_resolveDocument hstore hdoc st he).of_perm hspots
  · exact (blames_of_resolveDocument hstore hdoc' st he).of_perm hspots.symm

/-- Both mappings are permuted. The texts are looked up in the other order, and both are found. -/
theorem resolveDocument_reordered_nested :
    let get := fun name ↦ if name = "/a" then .ok "1" else .ok "2"
    let r : Resolver Unit := ⟨.standard, some (.ofAnswers ⟨get, fun _ _ ↦ .ok ⟨[], none⟩⟩)⟩
    let a := ("a", Value.string "\x7b!SSM: /a\x7d")
    let b := ("b", Value.string "\x7b!SSM: /b\x7d")
    let doc := Value.mapping [("x", .mapping [a, b]), ("y", .null)]
    let doc' := Value.mapping [("y", .null), ("x", .mapping [b, a])]
    let out := r.resolveDocument .empty doc none none ()
    let out' := r.resolveDocument .empty doc' none none ()
    (∃ v v', out.result = .ok v ∧ out'.result = .ok v' ∧ v.Reordered v') ∧
      callsOf out.events = [.get "/a", .get "/b"] ∧
      callsOf out'.events = [.get "/b", .get "/a"] := by
  intro get r a b doc doc' out out'
  have hstore : ∀ store ∈ r.store, store.AnswersBy get :=
    fun store hmem ↦ Option.some.inj hmem ▸ Store.answersBy_ofAnswers _
  have hdoc : doc.Distinct := by
    simp [doc, a, b, Value.Distinct, Value.DistinctEntries]
  have hnode : (Value.mapping [a, b]).Reordered (.mapping [b, a]) := .of_perm (.swap b a [])
  have hreordered : doc.Reordered doc' := .mapping (.cons "x" hnode (.refl _)) (.swap _ _ [])
  have hsucceeds : out.result.toBool = true := by decide +kernel
  obtain ⟨hiff, hvalues, -⟩ :=
    resolveDocument_reordered r .empty hstore hdoc hreordered none none () ()
  cases hresult : out.result with
  | error e => simp [hresult, Except.toBool] at hsucceeds
  | ok v =>
    obtain ⟨v', hresult'⟩ := hiff.1 ⟨v, hresult⟩
    have hvalue : v.Reordered v' := (hvalues v v' hresult hresult').1
    refine ⟨⟨v, v', rfl, hresult', hvalue⟩, ?_, ?_⟩
    · decide +kernel
    · decide +kernel

end Resolver

end ConfigResolver
