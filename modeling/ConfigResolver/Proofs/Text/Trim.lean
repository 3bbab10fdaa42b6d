import ConfigResolver.Text.Blank
import Mathlib.Data.List.DropRight

/-!
# Trimming

Trimming takes blanks from the two ends of a text and nothing else: what is left is a part of the
text (`trim_isInfix`), it is trimmed already (`trim_trim`), and blanks that are put at an end come
off again (`trim_cons`, `trim_append_singleton`).
-/

namespace ConfigResolver.Text

variable {s : List Char} {c : Char}

theorem trimEnd_eq_rdropWhile (s : List Char) : trimEnd s = s.rdropWhile isBlank := rfl

/-- A blank in front of a text comes off. -/
theorem trim_cons (hc : isBlank c = true) (s : List Char) : trim (c :: s) = trim s := by
  rw [trim, trim, trimStart, List.dropWhile_cons_of_pos hc]
  rfl

/-- A blank behind a text comes off. -/
theorem trim_append_singleton (hc : isBlank c = true) (s : List Char) :
    trim (s ++ [c]) = trim s := by
  have hlast : trimStart [c] = [] := List.dropWhile_cons_of_pos hc
  rw [trim, trim, trimStart, List.dropWhile_append]
  split
  · next hblank =>
    -- the text is blank, and nothing is left of it before the end is looked at
    rw [← trimStart, hlast, trimStart, List.isEmpty_iff.1 hblank]
  · rw [trimEnd_eq_rdropWhile, List.rdropWhile_concat_pos _ _ _ hc]
    rfl

theorem trim_isInfix (s : List Char) : trim s <:+: s :=
  (List.rdropWhile_prefix isBlank _).isInfix.trans (List.dropWhile_suffix isBlank).isInfix

/-- What is left starts with no blank. -/
theorem trimStart_trim (s : List Char) : trimStart (trim s) = trim s := by
  rw [trimStart, List.dropWhile_eq_self_iff]
  intro hlength
  have htrimmed : trim s <+: trimStart s := List.rdropWhile_prefix isBlank _
  have hstart : trimStart (trimStart s) = trimStart s := List.dropWhile_idempotent isBlank s
  rw [htrimmed.getElem hlength]
  exact List.dropWhile_eq_self_iff.1 hstart (Nat.lt_of_lt_of_le hlength htrimmed.length_le)

/-- A text with no blank at its two ends is trimmed already. -/
theorem trim_eq_self (hfirst : ∀ c ∈ s.head?, isBlank c = false)
    (hlast : ∀ c ∈ s.getLast?, isBlank c = false) : trim s = s := by
  have hstart : trimStart s = s := by
    rw [trimStart, List.dropWhile_eq_self_iff]
    intro hlength
    simp [hfirst s[0] (by simp [List.head?_eq_getElem?, hlength])]
  rw [trim, hstart, trimEnd_eq_rdropWhile, List.rdropWhile_eq_self_iff]
  intro hne
  simp [hlast (s.getLast hne) (List.getLast?_eq_getLast_of_ne_nil hne)]

@[simp] theorem trim_trim (s : List Char) : trim (trim s) = trim s := by
  calc trim (trim s)
    _ = trimEnd (trim s) := by rw [trim, trimStart_trim]
    _ = trim s := List.rdropWhile_idempotent isBlank _

end ConfigResolver.Text
