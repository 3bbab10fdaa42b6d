import ConfigResolver.CommandLine.Run
import ConfigResolver.Proofs.Json.Spelling
import ConfigResolver.Proofs.Value.WellKeyed

/-!
# What is written as JSON is loaded again

Writing and loading do not know of each other; they meet in what it is for a text to be JSON for a
document (`Holds`): it spells a tree that stands for the document. Both layouts write such a text
for every document without floating point numbers, nested no deeper than a reader goes and with
distinct keys, and every such text is loaded as its document. Floating point numbers are left out
because a reader may miss their last bit.

Main statement: `load_written`.
-/

namespace ConfigResolver

namespace Value

mutual

/-- How deeply collections are nested. -/
def depth : Value → Nat
  | sequence items => depthOfItems items + 1
  | mapping entries => depthOfEntries entries + 1
  | _ => 0

/-- How deeply the deepest item is nested. -/
def depthOfItems : List Value → Nat
  | [] => 0
  | item :: rest => max item.depth (depthOfItems rest)

/-- How deeply the deepest node under the entries is nested. -/
def depthOfEntries : List (String × Value) → Nat
  | [] => 0
  | (_, value) :: rest => max value.depth (depthOfEntries rest)

end

mutual

/-- There is no floating point number, at any depth. -/
def Floatless : Value → Prop
  | float _ => False
  | sequence items => FloatlessItems items
  | mapping entries => FloatlessEntries entries
  | _ => True

/-- No item has a floating point number in it. -/
def FloatlessItems : List Value → Prop
  | [] => True
  | item :: rest => item.Floatless ∧ FloatlessItems rest

/-- No node under the entries has a floating point number in it. -/
def FloatlessEntries : List (String × Value) → Prop
  | [] => True
  | (_, value) :: rest => value.Floatless ∧ FloatlessEntries rest

end

/-- The document has no floating point number and distinct keys, and is nested at most `d` deep. -/
structure Fits (d : Nat) (v : Value) : Prop where
  floatless : v.Floatless
  distinct : v.Distinct
  depth_le : v.depth ≤ d

/-- The items are such documents. -/
structure FitsItems (d : Nat) (items : List Value) : Prop where
  floatless : FloatlessItems items
  distinct : DistinctItems items
  depth_le : depthOfItems items ≤ d

/-- The nodes under the entries are such documents. -/
structure FitsEntries (d : Nat) (entries : List (String × Value)) : Prop where
  floatless : FloatlessEntries entries
  distinct : DistinctEntries entries
  depth_le : depthOfEntries entries ≤ d

section Fits

variable {d : Nat} {v : Value} {key : String} {items : List Value} {entries : List (String × Value)}

theorem Fits.ofSequence (h : Fits d (sequence items)) : ∃ e, d = e + 1 ∧ FitsItems e items := by
  obtain ⟨hfloat, hkeys, hdepth⟩ := h
  obtain ⟨e, rfl⟩ := Nat.exists_eq_add_of_le' (Nat.le_trans (Nat.le_add_left 1 _) hdepth)
  exact ⟨e, rfl, hfloat, hkeys, Nat.le_of_succ_le_succ hdepth⟩

theorem Fits.ofMapping (h : Fits d (mapping entries)) :
    (entries.map Prod.fst).Nodup ∧ ∃ e, d = e + 1 ∧ FitsEntries e entries := by
  obtain ⟨hfloat, ⟨hnodup, hkeys⟩, hdepth⟩ := h
  obtain ⟨e, rfl⟩ := Nat.exists_eq_add_of_le' (Nat.le_trans (Nat.le_add_left 1 _) hdepth)
  exact ⟨hnodup, e, rfl, hfloat, hkeys, Nat.le_of_succ_le_succ hdepth⟩

theorem FitsItems.head (h : FitsItems d (v :: items)) : Fits d v :=
  ⟨h.floatless.1, h.distinct.1, (Nat.max_le.1 h.depth_le).1⟩

theorem FitsItems.tail (h : FitsItems d (v :: items)) : FitsItems d items :=
  ⟨h.floatless.2, h.distinct.2, (Nat.max_le.1 h.depth_le).2⟩

theorem FitsEntries.head (h : FitsEntries d ((key, v) :: entries)) : Fits d v :=
  ⟨h.floatless.1, h.distinct.1, (Nat.max_le.1 h.depth_le).1⟩

theorem FitsEntries.tail (h : FitsEntries d ((key, v) :: entries)) : FitsEntries d entries :=
  ⟨h.floatless.2, h.distinct.2, (Nat.max_le.1 h.depth_le).2⟩

end Fits

end Value

namespace Json

/-! ## Texts for documents -/

/-- `Holds d s v`: the text is JSON for the document, nested at most `d` deep. -/
def Holds (d : Nat) (s : List Char) (v : Value) : Prop :=
  ∃ node, Spells d s node ∧ Node.Loads node v

/-- The text is that of some items, without the brackets. -/
def HoldsItems (d : Nat) (s : List Char) (items : List Value) : Prop :=
  ∃ nodes, SpellsItems d s nodes ∧ Node.LoadsItems nodes items

/-- The text is that of some entries, without the braces. -/
def HoldsEntries (d : Nat) (s : List Char) (entries : List (String × Value)) : Prop :=
  ∃ nodes, SpellsEntries d s nodes ∧ Node.LoadsEntries nodes entries

variable {d : Nat} {s front gap tail : List Char} {v : Value} {items : List Value}
  {entries : List (String × Value)}

theorem Holds.null (d : Nat) : Holds d nullText .null := ⟨_, .null d, .null⟩

theorem Holds.bool (d : Nat) (b : Bool) : Holds d (boolText b) (.bool b) :=
  ⟨_, .bool d b, .bool b⟩

theorem Holds.string (d : Nat) (s : String) : Holds d (quote s.toList) (.string s) :=
  ⟨_, .string d s.toList, String.ofList_toList ▸ .string s⟩

/-- Only a number below zero has a sign, and it is read as a signed word. -/
theorem Holds.integer (d : Nat) (i : Int64) : Holds d (intText i.toInt) (.integer i) := by
  rcases Int.lt_or_le i.toInt 0 with hneg | hnonneg
  · refine ⟨_, ?_, .int i⟩
    rw [intText_of_neg hneg]
    exact .negative d hneg
  · obtain ⟨n, hn⟩ := Int.eq_ofNat_of_zero_le hnonneg
    have hlt := i.toInt_lt
    have hsize : UInt64.size = 18446744073709551616 := rfl
    have hword : (UInt64.ofNat n).toNat = n := UInt64.toNat_ofNat_of_lt (by omega)
    refine ⟨.uint (UInt64.ofNat n), ?_, .word (by rw [hword, hn])⟩
    have hspells := Spells.unsigned d (UInt64.ofNat n)
    rwa [hword, ← intText_natCast, ← hn] at hspells

theorem Holds.blank_append (hgap : Blank gap) (h : Holds d s v) : Holds d (gap ++ s) v := by
  obtain ⟨node, hs, hv⟩ := h
  exact ⟨node, hs.blank_append hgap, hv⟩

theorem Holds.append_blank (h : Holds d s v) (hgap : Blank gap) : Holds d (s ++ gap) v := by
  obtain ⟨node, hs, hv⟩ := h
  exact ⟨node, hs.append_blank hgap, hv⟩

theorem Holds.noItems (d : Nat) : Holds (d + 1) ['[', ']'] (.sequence []) :=
  ⟨_, .noItems d blank_nil, .sequence none .nil⟩

theorem Holds.noEntries (d : Nat) : Holds (d + 1) ['{', '}'] (.mapping []) :=
  ⟨_, .noEntries d blank_nil, .mapping none .nil List.nodup_nil⟩

theorem HoldsItems.sequence (h : HoldsItems d s items) (hgap : Blank gap) :
    Holds (d + 1) ('[' :: s ++ gap ++ [']']) (.sequence items) := by
  obtain ⟨nodes, hs, hitems⟩ := h
  exact ⟨_, .items (hs.append_blank hgap), .sequence none hitems⟩

theorem HoldsEntries.mapping (h : HoldsEntries d s entries) (hgap : Blank gap)
    (hkeys : (entries.map Prod.fst).Nodup) :
    Holds (d + 1) ('{' :: s ++ gap ++ ['}']) (.mapping entries) := by
  obtain ⟨nodes, hs, hentries⟩ := h
  exact ⟨_, .entries (hs.append_blank hgap), .mapping none hentries hkeys⟩

theorem HoldsItems.last (h : Holds d s v) : HoldsItems d s [v] := by
  obtain ⟨node, hs, hv⟩ := h
  exact ⟨_, .last hs, .cons hv .nil⟩

theorem HoldsItems.more (h : Holds d s v) (htail : HoldsItems d tail items) :
    HoldsItems d (s ++ ',' :: tail) (v :: items) := by
  obtain ⟨node, hs, hv⟩ := h
  obtain ⟨nodes, ht, hitems⟩ := htail
  exact ⟨_, .more hs tail ht, .cons hv hitems⟩

theorem keyText_quoted (key : String) :
    Node.KeyText (.string (String.ofList key.toList)) key := by
  rw [String.ofList_toList]
  exact .string key

theorem HoldsEntries.last (hfront : Blank front) (key : String) (h : Holds d s v) :
    HoldsEntries d (front ++ quote key.toList ++ ':' :: s) [(key, v)] := by
  obtain ⟨node, hs, hv⟩ := h
  refine ⟨_, ?_, .cons (keyText_quoted key) hv .nil⟩
  simpa only [List.append_nil] using SpellsEntries.last hfront key.toList blank_nil hs

theorem HoldsEntries.more (hfront : Blank front) (key : String) (h : Holds d s v)
    (htail : HoldsEntries d tail entries) :
    HoldsEntries d (front ++ quote key.toList ++ ':' :: (s ++ ',' :: tail))
      ((key, v) :: entries) := by
  obtain ⟨node, hs, hv⟩ := h
  obtain ⟨nodes, ht, hentries⟩ := htail
  refine ⟨_, ?_, .cons (keyText_quoted key) hv hentries⟩
  simpa only [List.append_nil] using SpellsEntries.more hfront key.toList blank_nil hs tail ht

/-- A text for a document is loaded as that document. -/
theorem Holds.load {s : String} (h : Holds maxDepth s.toList v) : Format.json.load s = .ok v := by
  obtain ⟨node, hs, hv⟩ := h
  have hread : (Format.json.read s.toList).toValue = .ok v := by
    have hvalue := (Node.toValue_eq_ok_iff node).2 hv
    rw [Format.read, hs.read]
    unfold Reading.toValue
    rw [hvalue]
    rfl
  exact Reading.load_eq_ok_iff.2 hread

/-! ## One line -/

mutual

theorem holds_compact : (v : Value) → {d : Nat} → v.Fits d → Holds d (compact v) v
  | .null, d, _ => .null d
  | .bool b, d, _ => .bool d b
  | .integer i, d, _ => .integer d i
  | .string s, d, _ => .string d s
  | .sequence [], _, h => by
    obtain ⟨d, rfl, -⟩ := h.ofSequence
    exact .noItems d
  | .sequence (item :: rest), _, h => by
    obtain ⟨d, rfl, hfits⟩ := h.ofSequence
    have hitems := holdsItems_compact (item :: rest) nofun hfits
    simpa only [compact, List.append_nil] using hitems.sequence blank_nil
  | .mapping [], _, h => by
    obtain ⟨-, d, rfl, -⟩ := h.ofMapping
    exact .noEntries d
  | .mapping (entry :: rest), _, h => by
    obtain ⟨hkeys, d, rfl, hfits⟩ := h.ofMapping
    have hentries := holdsEntries_compact (entry :: rest) nofun hfits
    simpa only [compact, List.append_nil] using hentries.mapping blank_nil hkeys

theorem holdsItems_compact : (items : List Value) → items ≠ [] → {d : Nat} →
    Value.FitsItems d items →
      HoldsItems d (compactItems items) items
  | [item], _, _, h => .last (holds_compact item h.head)
  | item :: next :: rest, _, _, h =>
    .more (holds_compact item h.head) (holdsItems_compact (next :: rest) nofun h.tail)

theorem holdsEntries_compact : (entries : List (String × Value)) → entries ≠ [] → {d : Nat} →
    Value.FitsEntries d entries →
      HoldsEntries d (compactEntries entries) entries
  | [(key, value)], _, _, h => .last blank_nil key (holds_compact value h.head)
  | (key, value) :: next :: rest, _, _, h => by
    have hentries := HoldsEntries.more blank_nil key (holds_compact value h.head)
      (holdsEntries_compact (next :: rest) nofun h.tail)
    simpa [compactEntries] using hentries

end

/-! ## One item to a line -/

theorem blank_newLine (level : Nat) : Blank (newLine level) :=
  List.forall_mem_cons.2 ⟨by decide, fun c hc ↦ by rw [List.eq_of_mem_replicate hc]; decide⟩

theorem blank_space : Blank [' '] := blank_singleton rfl

mutual

theorem holds_pretty : (v : Value) → {d : Nat} → v.Fits d → (level : Nat) →
    Holds d (pretty level v) v
  | .null, d, _, _ => .null d
  | .bool b, d, _, _ => .bool d b
  | .integer i, d, _, _ => .integer d i
  | .string s, d, _, _ => .string d s
  | .sequence [], _, h, _ => by
    obtain ⟨d, rfl, -⟩ := h.ofSequence
    exact .noItems d
  | .sequence (item :: rest), _, h, level => by
    obtain ⟨d, rfl, hfits⟩ := h.ofSequence
    have hitems := holdsItems_pretty (item :: rest) nofun hfits (level + 1)
    exact hitems.sequence (blank_newLine level)
  | .mapping [], _, h, _ => by
    obtain ⟨-, d, rfl, -⟩ := h.ofMapping
    exact .noEntries d
  | .mapping (entry :: rest), _, h, level => by
    obtain ⟨hkeys, d, rfl, hfits⟩ := h.ofMapping
    have hentries := holdsEntries_pretty (entry :: rest) nofun hfits (level + 1)
    exact hentries.mapping (blank_newLine level) hkeys

theorem holdsItems_pretty : (items : List Value) → items ≠ [] → {d : Nat} →
    Value.FitsItems d items → (level : Nat) →
      HoldsItems d (prettyItems level items) items
  | [item], _, _, h, level =>
    .last ((holds_pretty item h.head level).blank_append (blank_newLine level))
  | item :: next :: rest, _, _, h, level =>
    .more ((holds_pretty item h.head level).blank_append (blank_newLine level))
      (holdsItems_pretty (next :: rest) nofun h.tail level)

theorem holdsEntries_pretty : (entries : List (String × Value)) → entries ≠ [] → {d : Nat} →
    Value.FitsEntries d entries → (level : Nat) →
      HoldsEntries d (prettyEntries level entries) entries
  | [(key, value)], _, _, h, level =>
    .last (blank_newLine level) key ((holds_pretty value h.head level).blank_append blank_space)
  | (key, value) :: next :: rest, _, _, h, level => by
    have hentries := HoldsEntries.more (blank_newLine level) key
      ((holds_pretty value h.head level).blank_append blank_space)
      (holdsEntries_pretty (next :: rest) nofun h.tail level)
    simpa [prettyEntries] using hentries

end

end Json

/-- A document without floating point numbers, with distinct keys in each mapping and nested less
than 128 deep, is loaded from both of its layouts, and from the second one as it is printed with a
line break behind it. -/
theorem load_written (v : Value) (hfloat : v.Floatless) (hkeys : v.Distinct)
    (hdepth : v.depth < 128) :
    Format.json.load (Json.writeCompact v) = .ok v ∧
      Format.json.load (CommandLine.render .json v) = .ok v := by
  have hfits : v.Fits Json.maxDepth := ⟨hfloat, hkeys, Nat.le_of_lt_succ hdepth⟩
  constructor
  · apply Json.Holds.load
    rw [Json.writeCompact, String.toList_ofList]
    exact Json.holds_compact v hfits
  · apply Json.Holds.load
    rw [CommandLine.render, Json.writePretty, String.toList_append, String.toList_ofList]
    exact (Json.holds_pretty v hfits 0).append_blank (Json.blank_singleton rfl)

/-- Among others for a document with the least and the largest number, with empty collections, with
escapes in a text and in a key, and with keys that look like numbers. -/
theorem load_written_nested :
    let v : Value := .mapping
      [("10", .integer Int64.minValue), ("1", .integer Int64.maxValue),
        ("\\\"\n", .sequence [.null, .bool true, .string "\x01\"é", .sequence [], .mapping []])]
    v.Floatless ∧ v.Distinct ∧ v.depth < 128 ∧ Format.json.load (Json.writeCompact v) = .ok v ∧
      Format.json.load (CommandLine.render .json v) = .ok v := by
  intro v
  have hfloat : v.Floatless := by
    simp [v, Value.Floatless, Value.FloatlessEntries, Value.FloatlessItems]
  have hkeys : v.Distinct := by
    simp [v, Value.Distinct, Value.DistinctEntries, Value.DistinctItems]
  have hdepth : v.depth < 128 := by
    simp [v, Value.depth, Value.depthOfEntries, Value.depthOfItems]
  exact ⟨hfloat, hkeys, hdepth, load_written v hfloat hkeys hdepth⟩

end ConfigResolver
