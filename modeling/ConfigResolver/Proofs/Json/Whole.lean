import ConfigResolver.Json.Number
import ConfigResolver.Json.Write
import ConfigResolver.Proofs.Text.Search
import Mathlib.Data.String.Basic

/-!
# Whole numbers in JSON

The decimal digits of a number are read up to the first character that does not go on with the
number (`EndsNumber`). Behind no sign they are an unsigned word, and behind a hyphen a signed one:
reading is the inverse of writing over the whole range of both (`readNumber_unsigned`,
`readNumber_negative`).
-/

namespace ConfigResolver.Json

/-- With this rest of the text a whole number is at its end. -/
def EndsNumber (rest : List Char) : Prop :=
  ∀ c ∈ rest.head?, c.isDigit = false ∧ c ≠ '.' ∧ c ≠ 'e' ∧ c ≠ 'E'

theorem endsNumber_cons {c : Char} (h : c.isDigit = false ∧ c ≠ '.' ∧ c ≠ 'e' ∧ c ≠ 'E')
    (rest : List Char) : EndsNumber (c :: rest) := by
  rintro _ ⟨⟩
  exact h

/-- The decimal digits of a number. -/
def digits (n : Nat) : List Char := Nat.toDigits 10 n

variable {n : Nat} {rest : List Char}

theorem isDigit_of_mem_digits {c : Char} (h : c ∈ digits n) : c.isDigit = true :=
  Nat.isDigit_of_mem_toDigits (by decide) (by decide) h

theorem digits_ne_nil (n : Nat) : digits n ≠ [] := Nat.toDigits_ne_nil

theorem digitChar_ne_zero : ∀ d < 10, d ≠ 0 → Nat.digitChar d ≠ '0' := by decide

/-- Only the number zero has a zero in front. -/
theorem head?_digits_ne_zero (h : n ≠ 0) : (digits n).head? ≠ some '0' := by
  induction n using Nat.strongRecOn with
  | ind n ih =>
    unfold digits
    rcases Nat.lt_or_ge n 10 with hlt | hge
    · rw [Nat.toDigits_of_lt_base hlt, List.head?_cons, ne_eq, Option.some.injEq]
      exact digitChar_ne_zero n hlt h
    · rw [Nat.toDigits_of_base_le (by decide) hge,
        List.head?_append_of_ne_nil _ Nat.toDigits_ne_nil]
      exact ih (n / 10) (by omega) (by omega)

theorem intText_natCast (n : Nat) : intText n = digits n := Nat.toList_repr

theorem intText_of_neg {i : Int} (h : i < 0) : intText i = '-' :: digits i.natAbs := by
  cases i with
  | ofNat n => exact absurd h (Int.not_lt.2 (Int.natCast_nonneg n))
  | negSucc n =>
    change ("-" ++ Nat.repr (n + 1)).toList = '-' :: digits (n + 1)
    rw [String.toList_append, Nat.toList_repr]
    rfl

/-! ## Reading the digits -/

/-- Digits that come to no more than a word are all taken into it. -/
theorem whole_of_lt {n : Nat} {s : List Char} (h : Nat.ofDigitChars 10 s n < UInt64.size) :
    Scaled.whole n s = ⟨Nat.ofDigitChars 10 s n, 0⟩ := by
  induction s generalizing n with
  | nil => rfl
  | cons c s ih =>
    rw [Nat.ofDigitChars_cons] at h ⊢
    have hle : 10 * n + digitValue c ≤ Nat.ofDigitChars 10 s (10 * n + digitValue c) := by
      rw [Nat.ofDigitChars_eq_ofDigitChars_zero]
      exact Nat.le_add_right_of_le (Nat.le_mul_of_pos_left _ (Nat.pow_pos (by decide)))
    rw [Scaled.whole, if_pos (Nat.lt_of_le_of_lt hle h)]
    exact ih h

theorem whole_digits (h : n < UInt64.size) : Scaled.whole 0 (digits n) = ⟨n, 0⟩ := by
  have hvalue : Nat.ofDigitChars 10 (digits n) 0 = n := Nat.ofDigitChars_ten_toDigits
  rw [whole_of_lt (by rwa [hvalue]), hvalue]

theorem takeWhile_digits (hrest : EndsNumber rest) :
    (digits n ++ rest).takeWhile Char.isDigit = digits n := by
  have hdigits : ∀ c ∈ digits n, c.isDigit = true := fun c ↦ isDigit_of_mem_digits
  cases rest with
  | nil => rw [List.append_nil, List.takeWhile_eq_self_iff.2 hdigits]
  | cons c rest => exact Text.takeWhile_of_split hdigits (hrest c rfl).1

theorem dropWhile_digits (hrest : EndsNumber rest) :
    (digits n ++ rest).dropWhile Char.isDigit = rest := by
  have hdigits : ∀ c ∈ digits n, c.isDigit = true := fun c ↦ isDigit_of_mem_digits
  cases rest with
  | nil => rw [List.append_nil, List.dropWhile_eq_nil_iff.2 hdigits]
  | cons c rest => exact Text.dropWhile_of_split hdigits (hrest c rfl).1

theorem readNumber_digits (negative : Bool) (hrest : EndsNumber rest) :
    readNumber negative (digits n ++ rest) = numberOr (wholeNode negative (digits n)) rest := by
  have hplain : ¬ ((digits n).isEmpty ||
      ((digits n).head? == some '0' && (digits n).length ≠ 1)) = true := by
    by_cases h : n = 0
    · subst h
      decide
    · simp [digits_ne_nil, head?_digits_ne_zero h]
  unfold readNumber
  rw [takeWhile_digits hrest, dropWhile_digits hrest]
  simp only [if_neg hplain]
  split
  · exact absurd rfl (hrest _ rfl).2.1
  · exact absurd rfl (hrest _ rfl).2.2.1
  · exact absurd rfl (hrest _ rfl).2.2.2
  · rfl

theorem readNumber_unsigned (u : UInt64) (hrest : EndsNumber rest) :
    readNumber false (digits u.toNat ++ rest) = (.uint u, some rest) := by
  rw [readNumber_digits false hrest, wholeNode, whole_digits u.toNat_lt]
  simp [numberOr]

theorem readNumber_negative {i : Int64} (h : i.toInt < 0) (hrest : EndsNumber rest) :
    readNumber true (digits i.toInt.natAbs ++ rest) = (.int i, some rest) := by
  have hle : i.toInt.natAbs ≤ Nat.pow 2 63 := by
    have := i.le_toInt
    simp only [Nat.pow_eq]
    omega
  have hlt : i.toInt.natAbs < UInt64.size := Nat.lt_of_le_of_lt hle (by decide)
  rw [readNumber_digits true hrest, wholeNode, whole_digits hlt]
  have hpos : 0 < i.toInt.natAbs := by omega
  have hneg : -(i.toInt.natAbs : Int) = i.toInt := by omega
  simp only [hneg, ne_eq, not_true_eq_false, if_false, Bool.not_true, Bool.false_eq_true, hpos, hle,
    and_self, if_true, numberOr, Int64.ofInt_toInt]

end ConfigResolver.Json
