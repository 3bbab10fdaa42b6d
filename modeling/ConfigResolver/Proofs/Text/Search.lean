import ConfigResolver.Text.Bytes
import Mathlib.Data.List.Infix
import Mathlib.Data.List.TakeWhile

/-!
# Searching a text

A text is searched in two ways: by taking and dropping characters while a test holds, and by the
byte offset of the first hit. Both are stated here at a text that is already split at the hit, and
`exists_split` and `exists_split_part` provide the split.
-/

namespace ConfigResolver.Text

variable {p : Char → Bool} {c : Char} {left right part s : List Char}

/-! ## The first character that passes a test -/

/-- A text without a character that passes the test, or the split at the first one. -/
theorem exists_split (p : Char → Bool) (s : List Char) :
    (∀ c ∈ s, p c = false) ∨
      ∃ left c right, s = left ++ c :: right ∧ (∀ x ∈ left, p x = false) ∧ p c = true := by
  induction s with
  | nil => exact .inl (by simp)
  | cons d s ih =>
    cases hd : p d with
    | true => exact .inr ⟨[], d, s, rfl, by simp, hd⟩
    | false =>
      rcases ih with hs | ⟨left, c, right, rfl, hleft, hc⟩
      · exact .inl (List.forall_mem_cons.2 ⟨hd, hs⟩)
      · exact .inr ⟨d :: left, c, right, rfl, List.forall_mem_cons.2 ⟨hd, hleft⟩, hc⟩

theorem takeWhile_of_split (hleft : ∀ x ∈ left, p x = true) (hc : p c = false) :
    (left ++ c :: right).takeWhile p = left := by
  rw [List.takeWhile_append_of_pos hleft, List.takeWhile_cons_of_neg (by simp [hc]),
    List.append_nil]

theorem dropWhile_of_split (hleft : ∀ x ∈ left, p x = true) (hc : p c = false) :
    (left ++ c :: right).dropWhile p = c :: right := by
  rw [List.dropWhile_append_of_pos hleft, List.dropWhile_cons_of_neg (by simp [hc])]

theorem findByte?_of_split (hleft : ∀ x ∈ left, p x = false) (hc : p c = true) :
    findByte? p (left ++ c :: right) = some (byteLength left) := by
  induction left with
  | nil => simp [findByte?, hc]
  | cons d left ih =>
    obtain ⟨hd, hleft⟩ := List.forall_mem_cons.1 hleft
    simp [findByte?, hd, ih hleft]

theorem findByte?_eq_none (hs : ∀ x ∈ s, p x = false) : findByte? p s = none := by
  induction s with
  | nil => rfl
  | cons d s ih =>
    obtain ⟨hd, hs⟩ := List.forall_mem_cons.1 hs
    simp [findByte?, hd, ih hs]

/-! ## The first place of a part -/

/-- A text in which a part stands nowhere, or the split before its first place. -/
theorem exists_split_part (part s : List Char) (hpart : part ≠ []) :
    (findPart? part s = none ∧ ∀ left right, s = left ++ right → ¬ part <+: right) ∨
      ∃ left right, s = left ++ part ++ right ∧ findPart? part s = some (byteLength left) ∧
        ∀ l r, s = l ++ r → part <+: r → left.length ≤ l.length := by
  induction s with
  | nil =>
    refine .inl ⟨by simp [findPart?, hpart], fun left right h hp ↦ hpart ?_⟩
    obtain ⟨-, rfl⟩ := List.append_eq_nil_iff.1 h.symm
    exact List.prefix_nil.1 hp
  | cons d s ih =>
    by_cases hd : part <+: d :: s
    · obtain ⟨right, hright⟩ := hd
      refine .inr ⟨[], right, hright.symm, ?_, fun l r _ _ ↦ Nat.zero_le _⟩
      rw [findPart?, if_pos (List.isPrefixOf_iff_prefix.2 ⟨right, hright⟩), byteLength_nil]
    · have hfind : findPart? part (d :: s) = (findPart? part s).map (d.utf8Size + ·) := by
        rw [findPart?, if_neg (by rwa [List.isPrefixOf_iff_prefix])]
      rcases ih with ⟨hs, hnone⟩ | ⟨left, right, rfl, hs, hfirst⟩
      · refine .inl ⟨by rw [hfind, hs]; rfl, fun l r h hp ↦ ?_⟩
        cases l with
        | nil => exact hd (h ▸ hp)
        | cons e l => exact hnone l r (List.cons.inj h).2 hp
      · refine .inr ⟨d :: left, right, rfl, by rw [hfind, hs]; rfl, fun l r h hp ↦ ?_⟩
        cases l with
        | nil => exact absurd (h ▸ hp) hd
        | cons e l => exact Nat.succ_le_succ (hfirst l r (List.cons.inj h).2 hp)

/-- A part that stands somewhere is found. -/
theorem hasPart_of_split (hpart : part ≠ []) (left right : List Char) :
    hasPart part (left ++ part ++ right) = true := by
  rcases exists_split_part part (left ++ part ++ right) hpart with ⟨-, hnone⟩ | ⟨l, r, -, hs, -⟩
  · exact absurd ⟨right, rfl⟩ (hnone left (part ++ right) (List.append_assoc ..))
  · rw [hasPart, hs]; rfl

end ConfigResolver.Text
