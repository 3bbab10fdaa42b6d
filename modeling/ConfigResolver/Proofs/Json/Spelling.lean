import ConfigResolver.Json.Read
import ConfigResolver.Proofs.Json.Whole

/-!
# JSON texts

`Spells d s node` says that a text is JSON for a tree whose collections are nested at most `d` deep.
White space may stand between all parts, numbers are whole, and the strings have the escapes of
`quote`. Nothing is said of how the white space is chosen, nor of how a text is read; reading is
shown to follow the relation (`Spells.read`).

A reader does not look at the white space behind a value, so what it leaves of a text is told up to
white space.
-/

namespace ConfigResolver.Json

/-! ## White space -/

/-- The text is white space. -/
def Blank (s : List Char) : Prop := ∀ c ∈ s, isSpace c = true

theorem blank_nil : Blank [] := List.forall_mem_nil _

theorem blank_singleton {c : Char} (h : isSpace c = true) : Blank [c] :=
  List.forall_mem_singleton.2 h

theorem skip_append {s : List Char} (h : Blank s) (rest : List Char) :
    skip (s ++ rest) = skip rest :=
  List.dropWhile_append_of_pos h

theorem skip_cons_of_isSpace {c : Char} (h : isSpace c = true) (rest : List Char) :
    skip (c :: rest) = skip rest :=
  List.dropWhile_cons_of_pos h

theorem skip_cons_of_not_isSpace {c : Char} (h : isSpace c = false) (rest : List Char) :
    skip (c :: rest) = c :: rest :=
  List.dropWhile_cons_of_neg (by simp [h])

@[simp] theorem skip_skip (s : List Char) : skip (skip s) = skip s := by
  induction s with
  | nil => rfl
  | cons c s ih =>
    cases h : isSpace c with
    | true => rw [skip_cons_of_isSpace h, ih]
    | false => rw [skip_cons_of_not_isSpace h, skip_cons_of_not_isSpace h]

theorem endsNumber_of_isSpace {c : Char} (h : isSpace c = true) (rest : List Char) :
    EndsNumber (c :: rest) := by
  simp only [isSpace, Bool.or_eq_true, beq_iff_eq] at h
  rcases h with ((rfl | rfl) | rfl) | rfl <;> exact endsNumber_cons (by decide) rest

/-! ## Texts -/

mutual

/-- `Spells d s node`: the text is JSON for the tree, nested at most `d` deep. -/
inductive Spells : Nat → List Char → Node → Prop where
  | null (d : Nat) : Spells d nullText .null
  | bool (d : Nat) (b : Bool) : Spells d (boolText b) (.bool b)
  | unsigned (d : Nat) (u : UInt64) : Spells d (digits u.toNat) (.uint u)
  | negative (d : Nat) {i : Int64} (h : i.toInt < 0) :
      Spells d ('-' :: digits i.toInt.natAbs) (.int i)
  | string (d : Nat) (s : List Char) : Spells d (quote s) (.string (String.ofList s))
  | noItems (d : Nat) {gap : List Char} (h : Blank gap) :
      Spells (d + 1) ('[' :: (gap ++ [']'])) (.sequence none [])
  | items {d : Nat} {s : List Char} {nodes : List Node} (h : SpellsItems d s nodes) :
      Spells (d + 1) ('[' :: (s ++ [']'])) (.sequence none nodes)
  | noEntries (d : Nat) {gap : List Char} (h : Blank gap) :
      Spells (d + 1) ('{' :: (gap ++ ['}'])) (.mapping none [])
  | entries {d : Nat} {s : List Char} {nodes : List (Node × Node)} (h : SpellsEntries d s nodes) :
      Spells (d + 1) ('{' :: (s ++ ['}'])) (.mapping none nodes)
  /-- White space may stand in front of a value. -/
  | before {d : Nat} {c : Char} {s : List Char} {node : Node} (hc : isSpace c = true)
      (h : Spells d s node) : Spells d (c :: s) node
  /-- White space may stand behind a value. -/
  | behind {d : Nat} {c : Char} {s : List Char} {node : Node} (h : Spells d s node)
      (hc : isSpace c = true) : Spells d (s ++ [c]) node

/-- Items stand between commas. -/
inductive SpellsItems : Nat → List Char → List Node → Prop where
  | last {d : Nat} {s : List Char} {node : Node} (h : Spells d s node) : SpellsItems d s [node]
  | more {d : Nat} {s : List Char} {node : Node} {nodes : List Node} (h : Spells d s node)
      (tail : List Char) (htail : SpellsItems d tail nodes) :
      SpellsItems d (s ++ ',' :: tail) (node :: nodes)

/-- So do entries, with a colon behind each key. -/
inductive SpellsEntries : Nat → List Char → List (Node × Node) → Prop where
  | last {d : Nat} {front gap s : List Char} {node : Node} (hfront : Blank front)
      (key : List Char) (hgap : Blank gap) (h : Spells d s node) :
      SpellsEntries d (front ++ quote key ++ gap ++ ':' :: s) [(.string (String.ofList key), node)]
  | more {d : Nat} {front gap s : List Char} {node : Node} {nodes : List (Node × Node)}
      (hfront : Blank front) (key : List Char) (hgap : Blank gap) (h : Spells d s node)
      (tail : List Char) (htail : SpellsEntries d tail nodes) :
      SpellsEntries d (front ++ quote key ++ gap ++ ':' :: (s ++ ',' :: tail))
        ((.string (String.ofList key), node) :: nodes)

end

section Blank

variable {d : Nat} {s gap : List Char}

theorem Spells.blank_append {node : Node} (hgap : Blank gap) (h : Spells d s node) :
    Spells d (gap ++ s) node := by
  induction gap with
  | nil => exact h
  | cons c gap ih =>
    obtain ⟨hc, hgap⟩ := List.forall_mem_cons.1 hgap
    exact .before hc (ih hgap)

theorem Spells.append_blank {node : Node} (h : Spells d s node) (hgap : Blank gap) :
    Spells d (s ++ gap) node := by
  induction gap generalizing s with
  | nil => rwa [List.append_nil]
  | cons c gap ih =>
    obtain ⟨hc, hgap⟩ := List.forall_mem_cons.1 hgap
    rw [List.append_cons]
    exact ih (.behind h hc) hgap

/-- White space behind the last item belongs to that item. -/
theorem SpellsItems.append_blank {s : List Char} {nodes : List Node} :
    SpellsItems d s nodes → Blank gap → SpellsItems d (s ++ gap) nodes
  | .last h, hgap => .last (h.append_blank hgap)
  | .more h tail htail, hgap => by
    rw [List.append_assoc, List.cons_append]
    exact .more h (tail ++ gap) (htail.append_blank hgap)

theorem SpellsEntries.append_blank {s : List Char} {nodes : List (Node × Node)} :
    SpellsEntries d s nodes → Blank gap → SpellsEntries d (s ++ gap) nodes
  | .last hfront key hkey h, hgap => by
    rw [List.append_assoc _ (':' :: _), List.cons_append]
    exact .last hfront key hkey (h.append_blank hgap)
  | .more hfront key hkey h tail htail, hgap => by
    rw [List.append_assoc _ (':' :: _), List.cons_append, List.append_assoc _ (',' :: _),
      List.cons_append]
    exact .more hfront key hkey h (tail ++ gap) (htail.append_blank hgap)

end Blank

/-! ## Heads

What stands first in a text, behind its white space, tells its reader what to read. -/

/-- Behind its white space a text starts with this character, whatever stands behind the text. -/
def StartsWith (c : Char) (s : List Char) : Prop :=
  ∃ t, ∀ rest, skip (s ++ rest) = c :: (t ++ rest)

theorem StartsWith.of_cons {c : Char} (h : isSpace c = false) (s : List Char) :
    StartsWith c (c :: s) :=
  ⟨s, fun _ ↦ skip_cons_of_not_isSpace h _⟩

theorem StartsWith.append {c : Char} {s : List Char} (h : StartsWith c s) (more : List Char) :
    StartsWith c (s ++ more) := by
  obtain ⟨t, h⟩ := h
  refine ⟨t ++ more, fun rest ↦ ?_⟩
  rw [List.append_assoc, h, List.append_assoc]

theorem StartsWith.of_blank {c : Char} {gap s : List Char} (hgap : Blank gap)
    (h : StartsWith c s) : StartsWith c (gap ++ s) := by
  obtain ⟨t, h⟩ := h
  refine ⟨t, fun rest ↦ ?_⟩
  rw [List.append_assoc, skip_append hgap, h]

theorem isSpace_of_isDigit {c : Char} (h : c.isDigit = true) : isSpace c = false := by
  cases hc : isSpace c with
  | false => rfl
  | true => exact absurd (endsNumber_of_isSpace hc [] c rfl).1 (by simp [h])

theorem exists_digits_eq_cons (n : Nat) : ∃ c t, digits n = c :: t ∧ c.isDigit = true := by
  obtain ⟨c, t, h⟩ := List.exists_cons_of_ne_nil (digits_ne_nil n)
  exact ⟨c, t, h, isDigit_of_mem_digits (h ▸ List.mem_cons_self)⟩

/-- No value starts with the bracket that closes a sequence. -/
theorem Spells.startsWith :
    ∀ {d : Nat} {s : List Char} {node : Node}, Spells d s node → ∃ c, StartsWith c s ∧ c ≠ ']'
  | _, _, _, .null _ => ⟨_, .of_cons (by decide) _, by decide⟩
  | _, _, _, .bool _ true => ⟨_, .of_cons (by decide) _, by decide⟩
  | _, _, _, .bool _ false => ⟨_, .of_cons (by decide) _, by decide⟩
  | _, _, _, .unsigned _ u => by
    obtain ⟨c, t, hdigits, hc⟩ := exists_digits_eq_cons u.toNat
    rw [hdigits]
    refine ⟨c, .of_cons (isSpace_of_isDigit hc) t, ?_⟩
    rintro rfl
    exact absurd hc (by decide)
  | _, _, _, .negative _ _ => ⟨_, .of_cons (by decide) _, by decide⟩
  | _, _, _, .string _ _ => ⟨_, .of_cons (by decide) _, by decide⟩
  | _, _, _, .noItems _ _ => ⟨_, .of_cons (by decide) _, by decide⟩
  | _, _, _, .items _ => ⟨_, .of_cons (by decide) _, by decide⟩
  | _, _, _, .noEntries _ _ => ⟨_, .of_cons (by decide) _, by decide⟩
  | _, _, _, .entries _ => ⟨_, .of_cons (by decide) _, by decide⟩
  | _, _, _, .before hc h =>
    let ⟨c, hs, hne⟩ := h.startsWith
    ⟨c, hs.of_blank (blank_singleton hc), hne⟩
  | _, _, _, .behind h _ =>
    let ⟨c, hs, hne⟩ := h.startsWith
    ⟨c, hs.append _, hne⟩

theorem SpellsItems.startsWith {d : Nat} {s : List Char} {nodes : List Node}
    (h : SpellsItems d s nodes) : ∃ c, StartsWith c s ∧ c ≠ ']' := by
  cases h with
  | last h => exact h.startsWith
  | more h =>
    obtain ⟨c, hs, hne⟩ := h.startsWith
    exact ⟨c, hs.append _, hne⟩

theorem startsWith_quote {front : List Char} (hfront : Blank front) (key more : List Char) :
    StartsWith '"' (front ++ quote key ++ more) :=
  .append (.of_blank hfront (.of_cons (by decide) _)) more

theorem SpellsEntries.startsWith {d : Nat} {s : List Char} {nodes : List (Node × Node)}
    (h : SpellsEntries d s nodes) : StartsWith '"' s := by
  cases h with
  | last hfront => exact (startsWith_quote hfront _ _).append _
  | more hfront => exact (startsWith_quote hfront _ _).append _

/-! ## Reading -/

/-- A reader passes over the white space in front of a value. -/
@[simp] theorem readValue_skip (d : Nat) (s : List Char) (fuel : Nat) :
    readValue d (skip s) fuel = readValue d s fuel := by
  cases fuel with
  | zero => rfl
  | succ fuel => simp only [readValue, skip_skip]

@[simp] theorem readItems_skip (d : Nat) (s : List Char) (fuel : Nat) :
    readItems d (skip s) fuel = readItems d s fuel := by
  cases fuel with
  | zero => rfl
  | succ fuel => simp only [readItems, readValue_skip]

@[simp] theorem readEntries_skip (d : Nat) (s : List Char) (fuel : Nat) :
    readEntries d (skip s) fuel = readEntries d s fuel := by
  cases fuel with
  | zero => rfl
  | succ fuel => simp only [readEntries, skip_skip]

variable {d fuel : Nat}

theorem readValue_string (s rest : List Char) :
    readValue d (quote s ++ rest) (fuel + 1) = (.string (String.ofList s), some rest) := by
  have hquote : quote s ++ rest = '"' :: (s.flatMap escape ++ '"' :: rest) := by simp [quote]
  rw [hquote, readValue, skip_cons_of_not_isSpace (by decide)]
  simp only [readString_escape]

theorem readValue_digit {c : Char} (hc : c.isDigit = true) (s : List Char) :
    readValue d (c :: s) (fuel + 1) = readNumber false (c :: s) := by
  rw [readValue, skip_cons_of_not_isSpace (isSpace_of_isDigit hc)]
  split
  case h_8 c' rest _ _ _ _ _ _ _ heq =>
    cases heq
    rw [if_pos hc]
  case h_9 heq => cases heq
  all_goals
    next heq =>
      cases heq
      exact absurd hc (by decide)

theorem readValue_unsigned (u : UInt64) {rest : List Char} (hrest : EndsNumber rest) :
    readValue d (digits u.toNat ++ rest) (fuel + 1) = (.uint u, some rest) := by
  have hread := readNumber_unsigned u hrest
  obtain ⟨c, t, hdigits, hc⟩ := exists_digits_eq_cons u.toNat
  rw [hdigits, List.cons_append] at hread ⊢
  rw [readValue_digit hc, hread]

theorem readValue_negative {i : Int64} (h : i.toInt < 0) {rest : List Char}
    (hrest : EndsNumber rest) :
    readValue d ('-' :: (digits i.toInt.natAbs ++ rest)) (fuel + 1) = (.int i, some rest) := by
  rw [readValue, skip_cons_of_not_isSpace (by decide)]
  exact readNumber_negative h hrest

theorem readValue_noItems {gap : List Char} (h : Blank gap) (rest : List Char) :
    readValue (d + 1) ('[' :: (gap ++ ']' :: rest)) (fuel + 1) =
      (.sequence none [], some rest) := by
  rw [readValue, skip_cons_of_not_isSpace (by decide)]
  simp only [skip_append h, skip_cons_of_not_isSpace (show isSpace ']' = false by decide),
    Nat.succ_ne_zero, if_false]

theorem readValue_noEntries {gap : List Char} (h : Blank gap) (rest : List Char) :
    readValue (d + 1) ('{' :: (gap ++ '}' :: rest)) (fuel + 1) =
      (.mapping none [], some rest) := by
  rw [readValue, skip_cons_of_not_isSpace (by decide)]
  simp only [skip_append h, skip_cons_of_not_isSpace (show isSpace '}' = false by decide),
    Nat.succ_ne_zero, if_false]

theorem readValue_items {c : Char} {s : List Char} (hs : StartsWith c s) (hc : c ≠ ']')
    (rest : List Char) :
    readValue (d + 1) ('[' :: (s ++ rest)) (fuel + 1) =
      (.sequence none (readItems d (s ++ rest) fuel).1, (readItems d (s ++ rest) fuel).2) := by
  obtain ⟨t, hs⟩ := hs
  rw [readValue, skip_cons_of_not_isSpace (by decide), ← readItems_skip d (s ++ rest)]
  simp only [hs, Nat.succ_ne_zero, if_false, Nat.add_sub_cancel]
  split
  · next heq => exact absurd (List.cons.inj heq).1 hc
  · rfl

theorem readValue_entries {c : Char} {s : List Char} (hs : StartsWith c s) (hc : c ≠ '}')
    (rest : List Char) :
    readValue (d + 1) ('{' :: (s ++ rest)) (fuel + 1) =
      (.mapping none (readEntries d (s ++ rest) fuel).1, (readEntries d (s ++ rest) fuel).2) := by
  obtain ⟨t, hs⟩ := hs
  rw [readValue, skip_cons_of_not_isSpace (by decide), ← readEntries_skip d (s ++ rest)]
  simp only [hs, Nat.succ_ne_zero, if_false, Nat.add_sub_cancel]
  split
  · next heq => exact absurd (List.cons.inj heq).1 hc
  · rfl

theorem readItems_last {s left rest : List Char} {item : Node}
    (h : readValue d s fuel = (item, some left)) (hleft : skip left = ']' :: rest) :
    readItems d s (fuel + 1) = ([item], some rest) := by
  rw [readItems]
  simp only [h, hleft]

theorem readItems_more {s left rest : List Char} {item : Node}
    (h : readValue d s fuel = (item, some left)) (hleft : skip left = ',' :: rest) :
    readItems d s (fuel + 1) = (item :: (readItems d rest fuel).1, (readItems d rest fuel).2) := by
  rw [readItems]
  simp only [h, hleft]

section Entry

variable {front gap s left rest : List Char} {value : Node}

theorem entry_eq (key : List Char) : front ++ quote key ++ gap ++ ':' :: s =
    front ++ '"' :: (key.flatMap escape ++ '"' :: (gap ++ ':' :: s)) := by
  simp [quote]

theorem readEntries_last (hfront : Blank front) (hgap : Blank gap) (key : List Char)
    (h : readValue d s fuel = (value, some left)) (hleft : skip left = '}' :: rest) :
    readEntries d (front ++ quote key ++ gap ++ ':' :: s) (fuel + 1) =
      ([(.string (String.ofList key), value)], some rest) := by
  rw [entry_eq, readEntries, skip_append hfront, skip_cons_of_not_isSpace (by decide)]
  simp only [readString_escape, skip_append hgap,
    skip_cons_of_not_isSpace (show isSpace ':' = false by decide), h, hleft]

theorem readEntries_more (hfront : Blank front) (hgap : Blank gap) (key : List Char)
    (h : readValue d s fuel = (value, some left)) (hleft : skip left = ',' :: rest) :
    readEntries d (front ++ quote key ++ gap ++ ':' :: s) (fuel + 1) =
      ((.string (String.ofList key), value) :: (readEntries d rest fuel).1,
        (readEntries d rest fuel).2) := by
  rw [entry_eq, readEntries, skip_append hfront, skip_cons_of_not_isSpace (by decide)]
  simp only [readString_escape, skip_append hgap,
    skip_cons_of_not_isSpace (show isSpace ':' = false by decide), h, hleft]

end Entry

theorem readValue_before {c : Char} (hc : isSpace c = true) (s : List Char) :
    readValue d (c :: s) fuel = readValue d s fuel := by
  rw [← readValue_skip, skip_cons_of_isSpace hc, readValue_skip]

mutual

/-- The tree that a text spells is read from it, whatever stands behind it. -/
theorem Spells.readValue : ∀ {d : Nat} {s : List Char} {node : Node}, Spells d s node →
    ∀ (fuel : Nat), 2 * s.length ≤ fuel + 1 → ∀ {rest : List Char}, EndsNumber rest →
    ∃ left, Json.readValue d (s ++ rest) (fuel + 1) = (node, some left) ∧ skip left = skip rest
  | _, _, _, .null _, _, _, rest, _ => ⟨rest, rfl, rfl⟩
  | _, _, _, .bool _ true, _, _, rest, _ => ⟨rest, rfl, rfl⟩
  | _, _, _, .bool _ false, _, _, rest, _ => ⟨rest, rfl, rfl⟩
  | _, _, _, .unsigned _ u, _, _, rest, hrest => ⟨rest, readValue_unsigned u hrest, rfl⟩
  | _, _, _, .negative _ h, _, _, rest, hrest => ⟨rest, readValue_negative h hrest, rfl⟩
  | _, _, _, .string _ s, _, _, rest, _ => ⟨rest, readValue_string s rest, rfl⟩
  | _, _, _, .noItems _ h, _, _, rest, _ => ⟨rest, by simp [readValue_noItems h], rfl⟩
  | _, _, _, .noEntries _ h, _, _, rest, _ => ⟨rest, by simp [readValue_noEntries h], rfl⟩
  | _, _, _, .items h, fuel, hfuel, rest, _ => by
    simp only [List.length_cons, List.length_append, List.length_nil] at hfuel
    obtain ⟨fuel, rfl⟩ := Nat.exists_eq_add_of_le' (show 2 ≤ fuel by omega)
    obtain ⟨c, hs, hc⟩ := h.startsWith
    have hread := h.readItems fuel (by omega) rest
    refine ⟨rest, ?_, rfl⟩
    rw [List.cons_append, List.append_assoc, readValue_items hs hc, List.singleton_append, hread]
  | _, _, _, .entries h, fuel, hfuel, rest, _ => by
    simp only [List.length_cons, List.length_append, List.length_nil] at hfuel
    obtain ⟨fuel, rfl⟩ := Nat.exists_eq_add_of_le' (show 2 ≤ fuel by omega)
    have hread := h.readEntries fuel (by omega) rest
    refine ⟨rest, ?_, rfl⟩
    rw [List.cons_append, List.append_assoc, readValue_entries h.startsWith (by decide),
      List.singleton_append, hread]
  | _, _, _, .before hc h, fuel, hfuel, _, hrest => by
    rw [List.length_cons] at hfuel
    rw [List.cons_append, readValue_before hc]
    exact h.readValue fuel (by omega) hrest
  | _, _, _, .behind h hc, fuel, hfuel, rest, _ => by
    rw [List.length_append] at hfuel
    obtain ⟨left, hread, hleft⟩ :=
      h.readValue fuel (by omega) (endsNumber_of_isSpace hc rest)
    rw [skip_cons_of_isSpace hc] at hleft
    exact ⟨left, by rw [List.append_assoc, List.singleton_append, hread], hleft⟩

theorem SpellsItems.readItems : ∀ {d : Nat} {s : List Char} {nodes : List Node},
    SpellsItems d s nodes → ∀ (fuel : Nat), 2 * s.length ≤ fuel + 1 → ∀ (rest : List Char),
    Json.readItems d (s ++ ']' :: rest) (fuel + 2) = (nodes, some rest)
  | _, _, _, .last h, fuel, hfuel, rest => by
    have hend : EndsNumber (']' :: rest) := endsNumber_cons (by decide) rest
    obtain ⟨left, hread, hleft⟩ := h.readValue fuel hfuel hend
    rw [skip_cons_of_not_isSpace (by decide)] at hleft
    exact readItems_last hread hleft
  | _, _, _, .more h tail htail, fuel, hfuel, rest => by
    simp only [List.length_cons, List.length_append] at hfuel
    obtain ⟨fuel, rfl⟩ := Nat.exists_eq_add_of_le' (show 1 ≤ fuel by omega)
    have hend : EndsNumber (',' :: (tail ++ ']' :: rest)) := endsNumber_cons (by decide) _
    obtain ⟨left, hread, hleft⟩ := h.readValue (fuel + 1) (by omega) hend
    rw [skip_cons_of_not_isSpace (by decide)] at hleft
    rw [List.append_assoc, List.cons_append, readItems_more hread hleft,
      htail.readItems fuel (by omega) rest]

theorem SpellsEntries.readEntries : ∀ {d : Nat} {s : List Char} {nodes : List (Node × Node)},
    SpellsEntries d s nodes → ∀ (fuel : Nat), 2 * s.length ≤ fuel + 1 → ∀ (rest : List Char),
    Json.readEntries d (s ++ '}' :: rest) (fuel + 2) = (nodes, some rest)
  | _, _, _, .last hfront key hgap h, fuel, hfuel, rest => by
    simp only [List.length_cons, List.length_append] at hfuel
    have hend : EndsNumber ('}' :: rest) := endsNumber_cons (by decide) rest
    obtain ⟨left, hread, hleft⟩ := h.readValue fuel (by omega) hend
    rw [skip_cons_of_not_isSpace (by decide)] at hleft
    rw [List.append_assoc, List.cons_append, readEntries_last hfront hgap key hread hleft]
  | _, _, _, .more hfront key hgap h tail htail, fuel, hfuel, rest => by
    simp only [List.length_cons, List.length_append] at hfuel
    obtain ⟨fuel, rfl⟩ := Nat.exists_eq_add_of_le' (show 1 ≤ fuel by omega)
    have hend : EndsNumber (',' :: (tail ++ '}' :: rest)) := endsNumber_cons (by decide) _
    obtain ⟨left, hread, hleft⟩ := h.readValue (fuel + 1) (by omega) hend
    rw [skip_cons_of_not_isSpace (by decide)] at hleft
    rw [List.append_assoc _ (':' :: _), List.cons_append, List.append_assoc _ (',' :: _),
      List.cons_append, readEntries_more hfront hgap key hread hleft,
      htail.readEntries fuel (by omega) rest]

end

/-- The tree that a text spells is all that is read from it. -/
theorem Spells.read {s : List Char} {node : Node} (h : Spells maxDepth s node) :
    Json.read s = ⟨node, none⟩ := by
  have hnil : EndsNumber [] := fun _ hc ↦ by cases hc
  obtain ⟨left, hread, hleft⟩ := h.readValue (2 * s.length + 1) (Nat.le_add_right _ 2) hnil
  rw [List.append_nil] at hread
  unfold Json.read
  rw [hread]
  simp only [hleft]
  rfl

end ConfigResolver.Json
