import ConfigResolver.Proofs.Placeholder.Literal
import ConfigResolver.Proofs.Text.Trim

/-!
# Tokens in canonical form

A token can be written if its key and its default are trimmed and hold no character that would end
them, and if its default is not empty (`Token.WellFormed`). Then `Token.write` is one of its
spellings (`Token.WellFormed.spells_write`). No other token has a spelling
(`Token.Spells.wellFormed`).

What stands before the leftmost placeholder of a text has been read as far as into that placeholder
and was refused. The refusal does not hang on which token stands there, nor on what follows it. Main
statement: `find_before_write`.
-/

namespace ConfigResolver

open Text

namespace Token

variable {t : Token}

/-- A token that can be written: nothing in its key or its default ends it too early, and nothing is
lost when they are trimmed. -/
structure WellFormed (t : Token) : Prop where
  /-- No closing brace ends the key. -/
  noClose : '}' ∉ t.key
  /-- No exclamation mark ends the key. -/
  noMark : '!' ∉ t.key
  /-- The key is trimmed. -/
  trimmed : trim t.key = t.key
  /-- A default is not blank, trimmed, and without a closing brace. -/
  fallback : ∀ text ∈ t.fallback, text ≠ [] ∧ trim text = text ∧ '}' ∉ text

theorem fallbackOf_eq_some_iff {raw text : List Char} :
    fallbackOf raw = some text ↔ text ≠ [] ∧ trim raw = text := by
  simp only [fallbackOf]
  split
  · next hempty =>
    rw [List.isEmpty_iff] at hempty
    constructor
    · nofun
    · rintro ⟨hne, htrim⟩
      exact absurd (htrim.symm.trans hempty) hne
  · next hne =>
    rw [List.isEmpty_iff] at hne
    constructor
    · rintro ⟨⟩
      exact ⟨hne, rfl⟩
    · rintro ⟨-, rfl⟩
      rfl

theorem isBlank_space : isBlank ' ' = true := by decide

/-- The canonical spelling of a token is one of its spellings. -/
theorem WellFormed.spells_write (h : t.WellFormed) : t.Spells t.write := by
  obtain ⟨source, key, fallback⟩ := t
  cases fallback with
  | none =>
    have hspells := Spells.plain source (' ' :: key) (by simpa using h.noClose)
      (by simpa using h.noMark)
    rw [trim_cons isBlank_space, h.trimmed] at hspells
    simpa [write] using hspells
  | some text =>
    obtain ⟨hne, htrim, hclose⟩ := h.fallback text rfl
    have hspells := Spells.withDefault source (' ' :: key ++ [' ']) (' ' :: text)
      (by simpa using h.noClose) (by simpa using h.noMark) (by simpa using hclose)
    have hfallback : fallbackOf (' ' :: text) = some text :=
      fallbackOf_eq_some_iff.2 ⟨hne, by rw [trim_cons isBlank_space, htrim]⟩
    rw [trim_append_singleton isBlank_space, trim_cons isBlank_space, h.trimmed, hfallback]
      at hspells
    simpa [write] using hspells

/-- What is trimmed holds no character that was not there before. -/
theorem notMem_trim {c : Char} {s : List Char} (h : c ∉ s) : c ∉ trim s :=
  fun hmem ↦ h ((trim_isInfix s).subset hmem)

/-- A token that stands in a text can be written. -/
theorem Spells.wellFormed {text : List Char} (h : t.Spells text) : t.WellFormed := by
  cases h with
  | plain source raw hclose hmark =>
    exact ⟨notMem_trim hclose, notMem_trim hmark, trim_trim raw, nofun⟩
  | withDefault source raw rawDefault hclose hmark hdefault =>
    refine ⟨notMem_trim hclose, notMem_trim hmark, trim_trim raw, ?_⟩
    intro text htext
    obtain ⟨hne, rfl⟩ := fallbackOf_eq_some_iff.1 htext
    exact ⟨hne, trim_trim rawDefault, notMem_trim hdefault⟩

end Token

namespace Placeholder

variable {s : List Char} {p : Placeholder}

/-- Behind the text before the leftmost placeholder every spelling of every token is found there. -/
theorem find_before_append (h : find s = some p) {t : Token} {text : List Char}
    (hspells : t.Spells text) (after : List Char) :
    find (p.before ++ (text ++ after)) = some ⟨p.before, t, after⟩ :=
  find_followed (find_before_eq_none h) (fun _ hu ↦ not_inDefault_before h hu) hspells after

/-- Where the leftmost placeholder of a text starts hangs neither on its token nor on what follows
it. Whatever token is written in its place, and whatever text is put behind it, the search finds
that token there, with the same text before it and the new text after it. In particular the
placeholder itself is found again when its token is written in canonical form. -/
theorem find_before_write (h : find s = some p) :
    (∀ (source : Source) (key : List Char) (fallback : Option (List Char)) (after : List Char),
      '}' ∉ key → '!' ∉ key → trim key = key →
      (∀ text ∈ fallback, text ≠ [] ∧ trim text = text ∧ '}' ∉ text) →
      find (p.before ++ Token.write ⟨source, key, fallback⟩ ++ after) =
        some ⟨p.before, ⟨source, key, fallback⟩, after⟩) ∧
    find (p.before ++ p.token.write ++ p.after) = some p := by
  constructor
  · intro source key fallback after hclose hmark htrim hfallback
    have hform : Token.WellFormed ⟨source, key, fallback⟩ := ⟨hclose, hmark, htrim, hfallback⟩
    rw [List.append_assoc]
    exact find_before_append h hform.spells_write after
  · obtain ⟨text, hspells, -⟩ := in_of_find h
    rw [List.append_assoc]
    exact find_before_append h hspells.wellFormed.spells_write p.after

/-- The key of the first candidate is cut short by the opening of the second, whatever the second
one asks for; a brace behind it does not finish the first one either. -/
theorem find_before_write_candidate :
    let before := "\x7b!ENV: a \x7b!ENV".toList
    let p : Placeholder := ⟨before, ⟨.parameterStore, "/b".toList, none⟩, []⟩
    let t : Token := ⟨.environment, [], some "x !DEFAULT: y".toList⟩
    find (before ++ "\x7b!SSM:/b\x7d".toList) = some p ∧
      find (before ++ t.write ++ "\x7d".toList) = some ⟨before, t, "\x7d".toList⟩ := by
  intro before p t
  have hfind : find (before ++ "\x7b!SSM:/b\x7d".toList) = some p := by decide
  obtain ⟨hwrite, -⟩ := find_before_write hfind
  refine ⟨hfind, hwrite .environment [] (some "x !DEFAULT: y".toList) "\x7d".toList ?_ ?_ rfl ?_⟩
  · exact List.not_mem_nil
  · exact List.not_mem_nil
  · rintro text ⟨⟩
    exact ⟨by decide, by decide, by decide⟩

end Placeholder

end ConfigResolver
