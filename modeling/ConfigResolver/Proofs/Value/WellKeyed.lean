import ConfigResolver.Document
import ConfigResolver.Proofs.Loading

/-!
# Trees with good keys

A tree that was read from a text need not be a document, because its keys are nodes of any kind.
`Node.Loads` says which document a tree stands for: it has the shape of the tree, entry by entry and
in the same order, with the text of each key (`Node.KeyText`) in its place. A tree stands for one
document at most, and for one at all exactly if it is well keyed (`exists_loads_iff`): at every
depth the keys of a mapping are scalars, and no two of them have the same text. Making a document of
a tree finds the document that it stands for (`toValue_eq_ok_iff`), and says what is wrong with the
keys where there is none. So no entry is ever lost to another one.

Main statement: `load_wellKeyed`.
-/

namespace ConfigResolver

/-- What is wrong is a key: it is no scalar, or it occurs twice. -/
def Reason.IsOfKey (reason : Reason) : Prop :=
  reason = .keyNotScalar ∨ ∃ text, reason = .duplicateKey text

namespace Node

/-! ## Keys -/

/-- `KeyText key text`: as the key of a mapping the scalar is this text. -/
inductive KeyText : Node → String → Prop where
  | null : KeyText .null "null"
  | bool (b : Bool) : KeyText (.bool b) (toString b)
  /-- A whole number has its decimal digits. -/
  | int (i : Int64) : KeyText (.int i) (toString i.toInt)
  | uint (u : UInt64) : KeyText (.uint u) (toString u.toNat)
  /-- A floating point number is set without an exponent. -/
  | float (x : Binary64) : KeyText (.float x) (String.ofList (Binary64.keyLayout.text x))
  /-- A text stays as it is. -/
  | string (s : String) : KeyText (.string s) s

/-- The node is neither a sequence nor a mapping. -/
def IsScalar : Node → Prop
  | null | bool _ | int _ | uint _ | float _ | string _ => True
  | sequence .. | mapping .. | broken _ => False

/-- As keys both nodes are the same text. -/
def Collides (key other : Node) : Prop := ∃ text, KeyText key text ∧ KeyText other text

variable {key other : Node} {text : String}

theorem keyText_eq_ok_iff : keyText key = .ok text ↔ KeyText key text := by
  constructor
  · intro h
    cases key with
    | bool b =>
      cases h
      cases b
      · exact .bool false
      · exact .bool true
    | sequence | mapping | broken => cases h
    | null | int | uint | float | string =>
      cases h
      constructor
  · intro h
    cases h with
    | bool b => cases b <;> rfl
    | null | int | uint | float | string => rfl

theorem KeyText.unique {text' : String} (h : KeyText key text) (h' : KeyText key text') :
    text = text' :=
  Except.ok.inj ((keyText_eq_ok_iff.2 h).symm.trans (keyText_eq_ok_iff.2 h'))

theorem KeyText.collides_iff (h : KeyText key text) : key.Collides other ↔ KeyText other text := by
  constructor
  · rintro ⟨text', hkey, hother⟩
    rwa [h.unique hkey]
  · exact fun hother ↦ ⟨text, h, hother⟩

theorem exists_keyText_iff : (∃ text, KeyText key text) ↔ key.IsScalar := by
  constructor
  · rintro ⟨text, h⟩
    cases h <;> trivial
  · intro h
    cases key with
    | sequence | mapping | broken => exact h.elim
    | null | bool | int | uint | float | string => exact ⟨_, by constructor⟩

/-- The only fault that a key has of its own is that it is no scalar. -/
theorem isOfKey_of_keyText {fault : Fault} (h : key.fault? = none)
    (herror : keyText key = .error fault) : fault.reason.IsOfKey := by
  cases key with
  | broken => cases h
  | sequence | mapping =>
    cases herror
    exact .inl rfl
  | null | bool | int | uint | float | string => cases herror

theorem IsScalar.fault?_eq_none (h : key.IsScalar) : key.fault? = none := by
  cases key with
  | sequence | mapping | broken => exact h.elim
  | null | bool | int | uint | float | string => rfl

/-! ## Documents -/

mutual

/-- `Loads node v`: the tree stands for the document. -/
inductive Loads : Node → Value → Prop where
  | null : Loads .null .null
  | bool (b : Bool) : Loads (.bool b) (.bool b)
  | int (i : Int64) : Loads (.int i) (.integer i)
  /-- An unsigned word that is a signed word too is that number. -/
  | word {u : UInt64} {i : Int64} (h : i.toInt = u.toNat) : Loads (.uint u) (.integer i)
  /-- One that is larger is the floating point number nearest to it. -/
  | large {u : UInt64} (h : Nat.pow 2 63 ≤ u.toNat) :
      Loads (.uint u) (.float (Binary64.ofNat u.toNat))
  | float (x : Binary64) : Loads (.float x) (.float x)
  | string (s : String) : Loads (.string s) (.string s)
  | sequence (mark : Option Mark) {nodes : List Node} {items : List Value}
      (h : LoadsItems nodes items) : Loads (.sequence mark nodes) (.sequence items)
  /-- No key may occur twice. -/
  | mapping (mark : Option Mark) {nodes : List (Node × Node)} {entries : List (String × Value)}
      (h : LoadsEntries nodes entries) (hkeys : (entries.map Prod.fst).Nodup) :
      Loads (.mapping mark nodes) (.mapping entries)

/-- Nodes stand for items one by one. -/
inductive LoadsItems : List Node → List Value → Prop where
  | nil : LoadsItems [] []
  | cons {node : Node} {item : Value} {nodes : List Node} {items : List Value}
      (hitem : Loads node item) (hrest : LoadsItems nodes items) :
      LoadsItems (node :: nodes) (item :: items)

/-- Pairs of nodes stand for entries one by one. -/
inductive LoadsEntries : List (Node × Node) → List (String × Value) → Prop where
  | nil : LoadsEntries [] []
  | cons {key node : Node} {text : String} {value : Value} {nodes : List (Node × Node)}
      {entries : List (String × Value)} (hkey : KeyText key text) (hvalue : Loads node value)
      (hrest : LoadsEntries nodes entries) :
      LoadsEntries ((key, node) :: nodes) ((text, value) :: entries)

end

theorem loads_uint_iff {u : UInt64} {v : Value} : Loads (.uint u) v ↔ ofUnsigned u = v := by
  have hsmall : u.toNat < Nat.pow 2 63 → (Int64.ofNat u.toNat).toInt = u.toNat :=
    Int64.toInt_ofNat_of_lt
  constructor
  · intro h
    cases h with
    | @word _ i h =>
      have hlt : u.toNat < Nat.pow 2 63 := by
        have := i.toInt_lt
        simp only [Nat.pow_eq]
        omega
      rw [ofUnsigned, if_pos hlt]
      exact congrArg Value.integer (Int64.toInt_inj.1 ((hsmall hlt).trans h.symm))
    | large h => exact if_neg (Nat.not_lt.2 h)
  · rintro rfl
    unfold ofUnsigned
    split
    · next hlt => exact .word (hsmall hlt)
    · next hge => exact .large (Nat.not_lt.1 hge)

theorem LoadsEntries.mem_keys_iff {text : String} {nodes : List (Node × Node)}
    {entries : List (String × Value)} : LoadsEntries nodes entries →
      (text ∈ entries.map Prod.fst ↔ ∃ entry ∈ nodes, KeyText entry.1 text)
  | .nil => by simp
  | .cons hkey hvalue hrest => by
    simp only [List.map_cons, List.mem_cons, hrest.mem_keys_iff, exists_eq_or_imp]
    exact or_congr_left ⟨fun h ↦ h ▸ hkey, fun h ↦ h.unique hkey⟩

/-- The keys of a document are distinct where no two keys of its tree have the same text. -/
theorem LoadsEntries.nodup_keys_iff {nodes : List (Node × Node)}
    {entries : List (String × Value)} : LoadsEntries nodes entries →
      ((entries.map Prod.fst).Nodup ↔
        nodes.Pairwise fun entry other ↦ ¬ entry.1.Collides other.1)
  | .nil => by simp
  | .cons hkey hvalue hrest => by
    rw [List.map_cons, List.nodup_cons, hrest.mem_keys_iff, hrest.nodup_keys_iff,
      List.pairwise_cons]
    simp only [hkey.collides_iff, not_exists, not_and]

mutual

/-- No key of such a document occurs twice. -/
theorem Loads.distinct {node : Node} {v : Value} : Loads node v → v.Distinct
  | .null | .bool _ | .int _ | .word _ | .large _ | .float _ | .string _ => trivial
  | .sequence _ h => h.distinct
  | .mapping _ h hkeys => ⟨hkeys, h.distinct⟩

theorem LoadsItems.distinct {nodes : List Node} {items : List Value} :
    LoadsItems nodes items → Value.DistinctItems items
  | .nil => trivial
  | .cons hitem hrest => ⟨hitem.distinct, hrest.distinct⟩

theorem LoadsEntries.distinct {nodes : List (Node × Node)} {entries : List (String × Value)} :
    LoadsEntries nodes entries → Value.DistinctEntries entries
  | .nil => trivial
  | .cons _ hvalue hrest => ⟨hvalue.distinct, hrest.distinct⟩

end

/-! ## Making a document of a tree -/

mutual

/-- What a tree is made into is the document that it stands for. -/
theorem toValue_eq_ok_iff : (node : Node) → {v : Value} → (node.toValue = .ok v ↔ Loads node v)
  | .null, v => ⟨by rintro ⟨⟩; exact .null, by rintro ⟨⟩; rfl⟩
  | .bool b, v => ⟨by rintro ⟨⟩; exact .bool b, by rintro ⟨⟩; rfl⟩
  | .int i, v => ⟨by rintro ⟨⟩; exact .int i, by rintro ⟨⟩; rfl⟩
  | .uint u, v => by
    rw [loads_uint_iff, toValue, Except.ok.injEq]
  | .float x, v => ⟨by rintro ⟨⟩; exact .float x, by rintro ⟨⟩; rfl⟩
  | .string s, v => ⟨by rintro ⟨⟩; exact .string s, by rintro ⟨⟩; rfl⟩
  | .broken fault, v => ⟨nofun, nofun⟩
  | .sequence mark nodes, v => by
    rw [toValue, bind_eq_ok_iff]
    constructor
    · rintro ⟨items, hitems, ⟨⟩⟩
      exact .sequence mark ((toItems_eq_ok_iff nodes).1 hitems)
    · rintro ⟨⟩
      next hitems => exact ⟨_, (toItems_eq_ok_iff nodes).2 hitems, rfl⟩
  | .mapping mark nodes, v => by
    rw [toValue, bind_eq_ok_iff]
    constructor
    · rintro ⟨entries, hentries, ⟨⟩⟩
      obtain ⟨h, hkeys, -⟩ := (toEntries_eq_ok_iff nodes).1 hentries
      exact .mapping mark h hkeys
    · rintro ⟨⟩
      next hkeys h => exact ⟨_, (toEntries_eq_ok_iff nodes).2 ⟨h, hkeys, by simp⟩, rfl⟩

theorem toItems_eq_ok_iff : (nodes : List Node) → {items : List Value} →
    (toItems nodes = .ok items ↔ LoadsItems nodes items)
  | [], items => ⟨by rintro ⟨⟩; exact .nil, by rintro ⟨⟩; rfl⟩
  | node :: rest, items => by
    rw [toItems, bind_eq_ok_iff]
    constructor
    · rintro ⟨item, hitem, hrest⟩
      obtain ⟨others, hothers, ⟨⟩⟩ := bind_eq_ok_iff.1 hrest
      exact .cons ((toValue_eq_ok_iff node).1 hitem) ((toItems_eq_ok_iff rest).1 hothers)
    · rintro ⟨⟩
      next item others hitem hrest =>
      exact ⟨item, (toValue_eq_ok_iff node).2 hitem,
        bind_eq_ok_iff.2 ⟨others, (toItems_eq_ok_iff rest).2 hrest, rfl⟩⟩

/-- Entries behind others have keys that these do not have. -/
theorem toEntries_eq_ok_iff {mark : Option Mark} : (nodes : List (Node × Node)) →
    {seen : List String} → {entries : List (String × Value)} →
      (toEntries mark seen nodes = .ok entries ↔ LoadsEntries nodes entries ∧
        (entries.map Prod.fst).Nodup ∧ ∀ key ∈ entries.map Prod.fst, key ∉ seen)
  | [], seen, entries =>
    ⟨by rintro ⟨⟩; exact ⟨.nil, List.nodup_nil, nofun⟩, by rintro ⟨⟨⟩, -⟩; rfl⟩
  | (key, node) :: rest, seen, entries => by
    rw [toEntries, bind_eq_ok_iff]
    constructor
    · rintro ⟨text, hkey, h⟩
      split at h
      · cases h
      · next hseen =>
        obtain ⟨value, hvalue, h⟩ := bind_eq_ok_iff.1 h
        obtain ⟨others, hothers, ⟨⟩⟩ := bind_eq_ok_iff.1 h
        obtain ⟨hloads, hkeys, hfresh⟩ := (toEntries_eq_ok_iff rest).1 hothers
        refine ⟨.cons (keyText_eq_ok_iff.1 hkey) ((toValue_eq_ok_iff node).1 hvalue) hloads,
          List.nodup_cons.2 ⟨fun hmem ↦ hfresh text hmem List.mem_cons_self, hkeys⟩,
          List.forall_mem_cons.2 ⟨hseen, fun other hother hmem ↦ ?_⟩⟩
        exact hfresh other hother (List.mem_cons_of_mem text hmem)
    · rintro ⟨⟨⟩, hkeys, hfresh⟩
      next text value others hkey hvalue hrest =>
      obtain ⟨hhead, htail⟩ := List.nodup_cons.1 hkeys
      obtain ⟨hseen, hfresh⟩ := List.forall_mem_cons.1 hfresh
      refine ⟨text, keyText_eq_ok_iff.2 hkey, ?_⟩
      rw [if_neg hseen, bind_eq_ok_iff]
      refine ⟨value, (toValue_eq_ok_iff node).2 hvalue, bind_eq_ok_iff.2 ⟨others, ?_, rfl⟩⟩
      refine (toEntries_eq_ok_iff rest).2 ⟨hrest, htail, fun other hother hmem ↦ ?_⟩
      rcases List.mem_cons.1 hmem with rfl | hmem
      · exact hhead hother
      · exact hfresh other hother hmem

end

/-! ## Well keyed trees -/

mutual

/-- At every depth the keys of a mapping are scalars, and no two of them have the same text. -/
def WellKeyed : Node → Prop
  | sequence _ items => WellKeyedItems items
  | mapping _ entries => (∀ entry ∈ entries, entry.1.IsScalar) ∧
      (entries.Pairwise fun entry other ↦ ¬ entry.1.Collides other.1) ∧ WellKeyedEntries entries
  | _ => True

/-- Every item is well keyed. -/
def WellKeyedItems : List Node → Prop
  | [] => True
  | item :: rest => WellKeyed item ∧ WellKeyedItems rest

/-- What every key is paired with is well keyed. -/
def WellKeyedEntries : List (Node × Node) → Prop
  | [] => True
  | (_, node) :: rest => WellKeyed node ∧ WellKeyedEntries rest

end

mutual

/-- A tree that stands for a document was read to its end, and is well keyed. -/
theorem Loads.wellKeyed {node : Node} {v : Value} :
    Loads node v → node.fault? = none ∧ node.WellKeyed
  | .null | .bool _ | .int _ | .word _ | .large _ | .float _ | .string _ => ⟨rfl, trivial⟩
  | .sequence mark h => h.wellKeyed
  | .mapping mark h hkeys => by
    obtain ⟨hfault, hscalar, hentries⟩ := h.wellKeyed
    exact ⟨hfault, hscalar, h.nodup_keys_iff.1 hkeys, hentries⟩

theorem LoadsItems.wellKeyed {nodes : List Node} {items : List Value} :
    LoadsItems nodes items → itemFault? nodes = none ∧ WellKeyedItems nodes
  | .nil => ⟨rfl, trivial⟩
  | .cons hitem hrest => by
    obtain ⟨hfault, hitem⟩ := hitem.wellKeyed
    obtain ⟨hfaults, hrest⟩ := hrest.wellKeyed
    exact ⟨by rw [itemFault?, hfault, hfaults]; rfl, hitem, hrest⟩

theorem LoadsEntries.wellKeyed {nodes : List (Node × Node)} {entries : List (String × Value)} :
    LoadsEntries nodes entries → entryFault? nodes = none ∧
      (∀ entry ∈ nodes, entry.1.IsScalar) ∧ WellKeyedEntries nodes
  | .nil => ⟨rfl, nofun, trivial⟩
  | .cons hkey hvalue hrest => by
    have hscalar := exists_keyText_iff.1 ⟨_, hkey⟩
    obtain ⟨hfault, hvalue⟩ := hvalue.wellKeyed
    obtain ⟨hfaults, hscalars, hrest⟩ := hrest.wellKeyed
    refine ⟨?_, List.forall_mem_cons.2 ⟨hscalar, hscalars⟩, hvalue, hrest⟩
    rw [entryFault?, hscalar.fault?_eq_none, hfault, hfaults]
    rfl

end

mutual

/-- A well keyed tree that was read to its end stands for a document. -/
theorem exists_loads : (node : Node) → node.fault? = none → node.WellKeyed → ∃ v, Loads node v
  | .null, _, _ => ⟨_, .null⟩
  | .bool b, _, _ => ⟨_, .bool b⟩
  | .int i, _, _ => ⟨_, .int i⟩
  | .uint u, _, _ => ⟨_, loads_uint_iff.2 rfl⟩
  | .float x, _, _ => ⟨_, .float x⟩
  | .string s, _, _ => ⟨_, .string s⟩
  | .broken fault, h, _ => nomatch h
  | .sequence mark nodes, hfault, h => by
    obtain ⟨items, hitems⟩ := exists_loadsItems nodes hfault h
    exact ⟨_, .sequence mark hitems⟩
  | .mapping mark nodes, hfault, ⟨hscalar, hdistinct, h⟩ => by
    obtain ⟨entries, hentries⟩ := exists_loadsEntries nodes hfault hscalar h
    exact ⟨_, .mapping mark hentries (hentries.nodup_keys_iff.2 hdistinct)⟩

theorem exists_loadsItems : (nodes : List Node) → itemFault? nodes = none →
    WellKeyedItems nodes → ∃ items, LoadsItems nodes items
  | [], _, _ => ⟨_, .nil⟩
  | node :: rest, hfault, ⟨h, hrest⟩ => by
    obtain ⟨hnode, hfaults⟩ := Option.or_eq_none_iff.1 hfault
    obtain ⟨item, hitem⟩ := exists_loads node hnode h
    obtain ⟨items, hitems⟩ := exists_loadsItems rest hfaults hrest
    exact ⟨_, .cons hitem hitems⟩

theorem exists_loadsEntries : (nodes : List (Node × Node)) → entryFault? nodes = none →
    (∀ entry ∈ nodes, entry.1.IsScalar) → WellKeyedEntries nodes →
      ∃ entries, LoadsEntries nodes entries
  | [], _, _, _ => ⟨_, .nil⟩
  | (key, node) :: rest, hfault, hscalar, ⟨h, hrest⟩ => by
    obtain ⟨hpair, hfaults⟩ := Option.or_eq_none_iff.1 hfault
    obtain ⟨-, hnode⟩ := Option.or_eq_none_iff.1 hpair
    obtain ⟨hkey, hscalars⟩ := List.forall_mem_cons.1 hscalar
    obtain ⟨text, htext⟩ := exists_keyText_iff.2 hkey
    obtain ⟨value, hvalue⟩ := exists_loads node hnode h
    obtain ⟨entries, hentries⟩ := exists_loadsEntries rest hfaults hscalars hrest
    exact ⟨_, .cons htext hvalue hentries⟩

end

theorem exists_loads_iff (node : Node) :
    (∃ v, Loads node v) ↔ node.fault? = none ∧ node.WellKeyed :=
  ⟨fun ⟨_, h⟩ ↦ h.wellKeyed, fun ⟨hfault, h⟩ ↦ exists_loads node hfault h⟩

/-! ## Faults of keys -/

mutual

/-- A tree that was read to its end and stands for no document has a fault of a key. -/
theorem isOfKey_of_toValue : (node : Node) → node.fault? = none → {fault : Fault} →
    node.toValue = .error fault → fault.reason.IsOfKey
  | .sequence _ nodes, h, _, herror => by
    rw [toValue] at herror
    rcases error_of_bind herror with herror | ⟨items, -, ⟨⟩⟩
    exact isOfKey_of_toItems nodes h herror
  | .mapping _ nodes, h, _, herror => by
    rw [toValue] at herror
    rcases error_of_bind herror with herror | ⟨entries, -, ⟨⟩⟩
    exact isOfKey_of_toEntries nodes h herror
  | .broken _, h, _, _ => nomatch h

theorem isOfKey_of_toItems : (nodes : List Node) → itemFault? nodes = none → {fault : Fault} →
    toItems nodes = .error fault → fault.reason.IsOfKey
  | node :: rest, h, _, herror => by
    obtain ⟨hnode, hrest⟩ := Option.or_eq_none_iff.1 h
    rw [toItems] at herror
    rcases error_of_bind herror with herror | ⟨item, -, herror⟩
    · exact isOfKey_of_toValue node hnode herror
    · rcases error_of_bind herror with herror | ⟨items, -, ⟨⟩⟩
      exact isOfKey_of_toItems rest hrest herror

theorem isOfKey_of_toEntries {mark : Option Mark} {seen : List String} :
    (nodes : List (Node × Node)) → entryFault? nodes = none → {fault : Fault} →
      toEntries mark seen nodes = .error fault → fault.reason.IsOfKey
  | (key, node) :: rest, h, _, herror => by
    obtain ⟨hpair, hrest⟩ := Option.or_eq_none_iff.1 h
    obtain ⟨hkey, hnode⟩ := Option.or_eq_none_iff.1 hpair
    rw [toEntries] at herror
    rcases error_of_bind herror with herror | ⟨text, -, herror⟩
    · exact isOfKey_of_keyText hkey herror
    · split at herror
      · cases herror
        exact .inr ⟨text, rfl⟩
      · rcases error_of_bind herror with herror | ⟨value, -, herror⟩
        · exact isOfKey_of_toValue node hnode herror
        · rcases error_of_bind herror with herror | ⟨entries, -, ⟨⟩⟩
          exact isOfKey_of_toEntries rest hrest herror

end

end Node

/-! ## Loading -/

namespace Fault

@[simp] theorem kind_toError (fault : Fault) : fault.toError.kind = .parse := by
  unfold toError
  split <;> rfl

@[simp] theorem cause_toError (fault : Fault) :
    fault.toError.cause = some fault.reason.message := by
  unfold toError
  split <;> rfl

end Fault

namespace Reading

/-- The document of a text that was read, or its first fault as an error. -/
def load (r : Reading) : Except Error Value := r.toValue.mapError Fault.toError

variable {r : Reading} {node : Node} {v : Value} {e : Error}

theorem load_eq_ok_iff : r.load = .ok v ↔ r.toValue = .ok v := by
  unfold load
  cases r.toValue with
  | ok w => constructor <;> rintro ⟨⟩ <;> rfl
  | error fault => exact iff_of_false nofun nofun

theorem load_eq_error_iff : r.load = .error e ↔ ∃ fault, r.toValue = .error fault ∧
    fault.toError = e := by
  unfold load
  cases r.toValue with
  | ok w => exact iff_of_false nofun nofun
  | error fault =>
    constructor
    · exact fun h ↦ ⟨fault, rfl, Except.error.inj h⟩
    · rintro ⟨_, ⟨⟩, rfl⟩
      rfl

/-- A text that was read to its end is the tree that was made of it. -/
theorem eq_of_tree? (h : r.tree? = some node) : r = ⟨node, none⟩ ∧ node.fault? = none := by
  obtain ⟨own, trailing⟩ := r
  unfold tree? at h
  split at h
  · cases h
  · next hnone =>
    obtain ⟨hfault, rfl⟩ : own.fault? = none ∧ trailing = none := by simpa using hnone
    obtain rfl := Option.some.inj h
    exact ⟨rfl, hfault⟩

theorem toValue_of_tree? (h : r.tree? = some node) : r.toValue = node.toValue := by
  obtain ⟨rfl, -⟩ := eq_of_tree? h
  unfold toValue
  cases node.toValue <;> rfl

/-- A text with a fault of any kind is no document, whatever stands in front of the fault. -/
theorem tree?_isSome_of_toValue (h : r.toValue = .ok v) : r.tree?.isSome := by
  obtain ⟨node, trailing⟩ := r
  obtain ⟨own, hown, h⟩ := bind_eq_ok_iff.1 h
  obtain ⟨hfault, -⟩ := ((Node.toValue_eq_ok_iff node).1 hown).wellKeyed
  cases trailing with
  | some fault => cases h
  | none => simp [tree?, hfault]

end Reading

/-- What a reader of the format makes of a text. -/
def Format.read (format : Format) (text : List Char) : Reading :=
  match format with
  | .yaml => Yaml.read text
  | .json => Json.read text

namespace Node

/-- To load a text is to load what its reader makes of it, and this accepts exactly the well keyed
trees. A tree that was read to its end is loaded as the document that it stands for: with the same
shape, all entries in their order, and whole numbers as they are unless they are too large for a
signed word. There is such a document exactly if the tree is well keyed; else a key is at fault. A
text with a fault of its own is not loaded at all. -/
theorem load_wellKeyed :
    (∀ (format : Format) (text : String), format.load text = (format.read text.toList).load) ∧
    ∀ r : Reading, match r.tree? with
      | some node =>
        (∀ v, r.load = .ok v ↔ Loads node v) ∧ ((∃ v, r.load = .ok v) ↔ node.WellKeyed) ∧
          ∀ e, r.load = .error e →
            e.kind = .parse ∧ ∃ reason : Reason, reason.IsOfKey ∧ e.cause = some reason.message
      | none => ∃ e, r.load = .error e ∧ e.kind = .parse := by
  refine ⟨fun format text ↦ by cases format <;> rfl, fun r ↦ ?_⟩
  split
  · next node htree =>
    obtain ⟨-, hfault⟩ := Reading.eq_of_tree? htree
    have hloads : ∀ v, r.load = .ok v ↔ Loads node v := fun v ↦ by
      rw [Reading.load_eq_ok_iff, Reading.toValue_of_tree? htree, toValue_eq_ok_iff]
    refine ⟨hloads, ?_, fun e herror ↦ ?_⟩
    · rw [exists_congr hloads, exists_loads_iff, and_iff_right hfault]
    · obtain ⟨fault, hvalue, rfl⟩ := Reading.load_eq_error_iff.1 herror
      rw [Reading.toValue_of_tree? htree] at hvalue
      exact ⟨fault.kind_toError, fault.reason, isOfKey_of_toValue node hfault hvalue,
        fault.cause_toError⟩
  · next htree =>
    cases hvalue : r.toValue with
    | ok v =>
      have hsome := Reading.tree?_isSome_of_toValue hvalue
      rw [htree] at hsome
      cases hsome
    | error fault =>
      exact ⟨fault.toError, Reading.load_eq_error_iff.2 ⟨fault, hvalue, rfl⟩, fault.kind_toError⟩

example : (mapping none [(.uint 7, .null), (.bool true, .null), (.int 7, .null)]).toValue =
    .error ⟨.duplicateKey "7", none⟩ := by
  rfl

end Node

/-- No key occurs twice in a mapping of a document that was loaded. -/
theorem Format.distinct_of_load {format : Format} {text : String} {v : Value}
    (h : format.load text = .ok v) : v.Distinct := by
  have hread : (format.read text.toList).toValue = .ok v := by
    cases format <;> exact Reading.load_eq_ok_iff.1 h
  obtain ⟨own, hown, h⟩ := bind_eq_ok_iff.1 hread
  split at h
  · cases h
  · obtain rfl := Except.ok.inj h
    exact ((Node.toValue_eq_ok_iff _).1 hown).distinct

end ConfigResolver
