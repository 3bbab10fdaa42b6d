import ConfigResolver.Text.Hex

/-!
# JSON strings

A string is written between quotation marks: quotation marks, backslashes and control characters
are escaped, all other characters stand for themselves. Reading accepts every escape of the
grammar. Main statement: `readString_escape`, reading undoes writing.
-/

namespace ConfigResolver.Json

/-- A character inside a written string. -/
def escape (c : Char) : List Char :=
  if c = '"' then ['\\', '"']
  else if c = '\\' then ['\\', '\\']
  else if c = '\x08' then ['\\', 'b']
  else if c = '\t' then ['\\', 't']
  else if c = '\n' then ['\\', 'n']
  else if c = '\x0c' then ['\\', 'f']
  else if c = '\r' then ['\\', 'r']
  else if c.toNat < 0x20 then
    ['\\', 'u', '0', '0', Nat.digitChar (c.toNat / 16), Nat.digitChar (c.toNat % 16)]
  else [c]

/-- A string as it is written. -/
def quote (s : List Char) : List Char := '"' :: s.flatMap escape ++ ['"']

/-- The number that four hexadecimal digits spell; answers what is left of the text. -/
def readQuad : List Char → Option (Nat × List Char)
  | a :: b :: c :: d :: rest => do
    let n := (((← Text.hexValue? a) * 16 + (← Text.hexValue? b)) * 16 + (← Text.hexValue? c)) * 16 +
      (← Text.hexValue? d)
    return (n, rest)
  | _ => none

/-- Whether a number is the first half of a pair. -/
def isHigh (n : Nat) : Bool := 0xD800 ≤ n && n ≤ 0xDBFF

/-- Whether a number is the second half of a pair. -/
def isLow (n : Nat) : Bool := 0xDC00 ≤ n && n ≤ 0xDFFF

/-- The character that the two halves of a pair make up. -/
def joinPair (high low : Nat) : Char :=
  Char.ofNat (0x10000 + (high - 0xD800) * 0x400 + (low - 0xDC00))

/-- The second half of a pair, with the escape that it is written with. -/
def readLow (high : Nat) : List Char → Option (Char × List Char)
  | '\\' :: 'u' :: rest => (readQuad rest).bind fun (low, after) ↦
      if isLow low then some (joinPair high low, after) else none
  | _ => none

/-- The character of an escape by number; answers what is left of the text. Half a pair is no
character. -/
def readUnicode (s : List Char) : Option (Char × List Char) :=
  (readQuad s).bind fun (n, rest) ↦
    if isLow n then none
    else if isHigh n then readLow n rest
    else some (Char.ofNat n, rest)

/-- The character of a short escape. -/
def shortEscape? (c : Char) : Option Char :=
  if c = '"' ∨ c = '\\' ∨ c = '/' then some c
  else if c = 'b' then some '\x08'
  else if c = 'f' then some '\x0c'
  else if c = 'n' then some '\n'
  else if c = 'r' then some '\r'
  else if c = 't' then some '\t'
  else none

/-- The character of an escape, behind its backslash; answers what is left of the text. -/
def readEscape : List Char → Option (Char × List Char)
  | [] => none
  | c :: rest => if c = 'u' then readUnicode rest else (shortEscape? c).map (·, rest)

theorem length_readQuad_lt {s rest : List Char} {n : Nat} (h : readQuad s = some (n, rest)) :
    rest.length < s.length := by
  unfold readQuad at h
  split at h
  · simp only [Option.pure_def, Option.bind_eq_bind, Option.bind_eq_some_iff, Option.some.injEq,
      Prod.mk.injEq] at h
    obtain ⟨_, _, _, _, _, _, _, _, _, rfl⟩ := h
    simp only [List.length_cons]
    omega
  · cases h

theorem length_readLow_lt {s rest : List Char} {high : Nat} {c : Char}
    (h : readLow high s = some (c, rest)) : rest.length < s.length := by
  unfold readLow at h
  split at h
  · obtain ⟨⟨low, left⟩, hq, h⟩ := Option.bind_eq_some_iff.1 h
    by_cases hl : isLow low = true
    · simp only [hl, if_true, Option.some.injEq, Prod.mk.injEq] at h
      have := length_readQuad_lt hq
      rw [← h.2]
      simp only [List.length_cons]
      omega
    · simp [hl] at h
  · cases h

theorem length_readUnicode_lt {s rest : List Char} {c : Char}
    (h : readUnicode s = some (c, rest)) : rest.length < s.length := by
  unfold readUnicode at h
  obtain ⟨⟨n, left⟩, hq, h⟩ := Option.bind_eq_some_iff.1 h
  have hl := length_readQuad_lt hq
  by_cases hn : isLow n = true
  · simp [hn] at h
  · by_cases hh : isHigh n = true
    · simp only [hn, hh, if_true] at h
      exact Nat.lt_trans (length_readLow_lt h) hl
    · simp only [hn, hh, Bool.false_eq_true, if_false, Option.some.injEq, Prod.mk.injEq] at h
      rw [← h.2]
      exact hl

/-- An escape takes up at least one character. -/
theorem length_readEscape_lt {s rest : List Char} {c : Char}
    (h : readEscape s = some (c, rest)) : rest.length < s.length := by
  cases s with
  | nil => cases h
  | cons d s =>
    simp only [readEscape] at h
    split at h
    · exact Nat.lt_succ_of_lt (length_readUnicode_lt h)
    · obtain ⟨_, _, h⟩ := Option.map_eq_some_iff.1 h
      rw [Prod.mk.injEq] at h
      simp [← h.2]

/-- Reads a string, behind its first quotation mark; answers what is left of the text. -/
def readString : List Char → Option (List Char × List Char)
  | [] => none
  | '"' :: rest => some ([], rest)
  | '\\' :: rest =>
    match _h : readEscape rest with
    | none => none
    | some (c, after) => (readString after).map fun (s, left) ↦ (c :: s, left)
  | c :: rest =>
    if c.toNat < 0x20 then none
    else (readString rest).map fun (s, left) ↦ (c :: s, left)
termination_by s => s.length
decreasing_by
  · exact Nat.lt_succ_of_lt (length_readEscape_lt _h)
  · simp

theorem readString_quotation (rest : List Char) : readString ('"' :: rest) = some ([], rest) := by
  simp [readString]

theorem readString_escaped {s after : List Char} {c : Char} (h : readEscape s = some (c, after)) :
    readString ('\\' :: s) = (readString after).map fun (t, left) ↦ (c :: t, left) := by
  rw [readString]
  split
  · simp_all
  · simp_all

theorem readString_plain {c : Char} {s : List Char} (hq : c ≠ '"') (hb : c ≠ '\\')
    (hc : ¬c.toNat < 0x20) :
    readString (c :: s) = (readString s).map fun (t, left) ↦ (c :: t, left) := by
  rw [readString]
  · simp [hc]
  · exact hq
  · exact hb

theorem readEscape_control {c : Char} (h : c.toNat < 0x20) (s : List Char) :
    readEscape ('u' :: '0' :: '0' :: Nat.digitChar (c.toNat / 16) :: Nat.digitChar (c.toNat % 16) ::
      s) = some (c, s) := by
  have hq : Text.hexValue? '0' = some 0 := rfl
  have hl : isLow c.toNat = false := by simp [isLow]; omega
  have hh : isHigh c.toNat = false := by simp [isHigh]; omega
  have hn : c.toNat / 16 * 16 + c.toNat % 16 = c.toNat := by omega
  simp only [readEscape, if_true, readUnicode, readQuad, hq,
    Text.hexValue?_digitChar (show c.toNat / 16 < 16 by omega),
    Text.hexValue?_digitChar (show c.toNat % 16 < 16 by omega)]
  simp [hl, hh, hn]

theorem readString_escape_append (c : Char) (s : List Char) :
    readString (escape c ++ s) = (readString s).map fun (t, left) ↦ (c :: t, left) := by
  by_cases h : c ∈ ['"', '\\', '\x08', '\t', '\n', '\x0c', '\r']
  · simp only [List.mem_cons, List.not_mem_nil, or_false] at h
    rcases h with rfl | rfl | rfl | rfl | rfl | rfl | rfl <;> exact readString_escaped rfl
  · simp only [List.mem_cons, List.not_mem_nil, or_false, not_or] at h
    obtain ⟨hq, hb, h8, ht, hn, hf, hr⟩ := h
    unfold escape
    rw [if_neg hq, if_neg hb, if_neg h8, if_neg ht, if_neg hn, if_neg hf, if_neg hr]
    split
    · next hc => exact readString_escaped (readEscape_control hc s)
    · next hc => exact readString_plain hq hb hc

/-- Reading a string undoes writing it. -/
theorem readString_escape (s rest : List Char) :
    readString (s.flatMap escape ++ '"' :: rest) = some (s, rest) := by
  induction s with
  | nil => exact readString_quotation rest
  | cons c s ih => rw [List.flatMap_cons, List.append_assoc, readString_escape_append, ih]; rfl

end ConfigResolver.Json
