import ConfigResolver.Proofs.Placeholder.Canonical
import ConfigResolver.Proofs.Resolver.Substitution
import ConfigResolver.Proofs.Text.Length

/-!
# Substitution without values from outside

Where no parameter store is asked, no variable is set and the options have no default, the value of
a token is a part of its own spelling: its key or its default (`lookup_of_nothing_set`). Besides
such a part a spelling has seven bytes at least, those of its opening, its tag, the colon and the
closing brace. So each substitution makes the text shorter, although a value can finish tokens that
were not in the text before: the number of tokens is no measure for the run, but the length of the
text is (`Rewrites.byteLength_add_le`).

Main statement: `resolveString_settles`.
-/

namespace ConfigResolver

open Text

namespace Token

variable {t : Token} {text : List Char}

/-- A spelling is a frame around a text that holds the key and the default. -/
theorem Spells.exists_frame (h : t.Spells text) :
    ∃ inner, text = opening ++ t.source.tag ++ ':' :: inner ++ ['}'] ∧ t.key <:+: inner ∧
      ∀ fallback ∈ t.fallback, fallback <:+: inner := by
  cases h with
  | plain source raw => exact ⟨raw, rfl, trim_isInfix raw, nofun⟩
  | withDefault source raw rawDefault =>
    refine ⟨raw ++ defaultMarker ++ rawDefault, by simp, ?_, fun fallback hfallback ↦ ?_⟩
    · rw [List.append_assoc]
      exact (trim_isInfix raw).trans (List.prefix_append raw _).isInfix
    · obtain ⟨-, rfl⟩ := fallbackOf_eq_some_iff.1 hfallback
      exact (trim_isInfix rawDefault).trans (List.suffix_append _ rawDefault).isInfix

/-- The frame has seven bytes. -/
theorem byteLength_frame (source : Source) (inner : List Char) :
    byteLength (opening ++ source.tag ++ ':' :: inner ++ ['}']) = byteLength inner + 7 := by
  have hopening : byteLength opening = 2 := rfl
  have htag : byteLength source.tag = 3 := by cases source <;> rfl
  have hcolon : (':' : Char).utf8Size = 1 := rfl
  have hclose : byteLength ['}'] = 1 := rfl
  simp only [byteLength_append, byteLength_cons, hopening, htag, hcolon, hclose]
  omega

/-- `t.Echoes value`: the token has its own key or its own default for its value, and what is not
set and not given is not made up. -/
def Echoes (t : Token) (value : List Char) : Prop :=
  t.source = .parameterStore ∧ value = t.key ∨
    t.source = .environment ∧ t.fallback = some value

/-- What a token echoes is seven bytes shorter than its spelling. -/
theorem Spells.byteLength_add_le (h : t.Spells text) {value : List Char} (hvalue : t.Echoes value) :
    byteLength value + 7 ≤ byteLength text := by
  obtain ⟨inner, rfl, hkey, hfallback⟩ := h.exists_frame
  have hpart : value <:+: inner := by
    rcases hvalue with ⟨-, rfl⟩ | ⟨-, hvalue⟩
    · exact hkey
    · exact hfallback value hvalue
  rw [byteLength_frame]
  exact Nat.add_le_add_right (byteLength_le_of_isInfix hpart) 7

end Token

namespace Placeholder

variable {s : List Char} {p : Placeholder}

/-- A text with a placeholder has the bytes of a frame at least. -/
theorem seven_le_byteLength (h : find s = some p) : 7 ≤ byteLength s := by
  obtain ⟨text, hspells, rfl⟩ := in_of_find h
  obtain ⟨inner, rfl, -, -⟩ := hspells.exists_frame
  rw [byteLength_append, byteLength_append, Token.byteLength_frame]
  omega

/-- A placeholder that is replaced by what its token echoes makes the text seven bytes shorter. -/
theorem byteLength_substitute_add_le (h : find s = some p) {value : List Char}
    (hvalue : p.token.Echoes value) : byteLength (p.substitute value) + 7 ≤ byteLength s := by
  obtain ⟨text, hspells, rfl⟩ := in_of_find h
  have hlength := hspells.byteLength_add_le hvalue
  simp only [substitute, byteLength_append]
  omega

end Placeholder

namespace Resolver

open Placeholder

variable {σ : Type} {r : Resolver σ} {env : Environment}

section Nothing

variable (hskip : r.options.skipRemote = true) (hdefault : r.options.defaultValue = none)
  (henv : ∀ name, env.bytes? name = none)

include hskip hdefault henv

/-- With nothing set a token has what it echoes for its value, or it asks for a variable and has no
default. -/
theorem lookup_of_nothing_set (t : Token) (st : σ) :
    (∃ value, (r.lookup env t st).result = .ok value ∧ t.Echoes value) ∨
      t.source = .environment ∧ t.fallback = none ∧
        (r.lookup env t st).result = .error (.missingVariable (String.ofList t.key)) := by
  obtain ⟨source, key, fallback⟩ := t
  cases source with
  | parameterStore =>
    refine .inl ⟨key, ?_, .inl ⟨rfl, rfl⟩⟩
    simp only [lookup, lookupParameter_of_skip hskip]
    simp [Run.bind_apply, Run.next]
  | environment =>
    have hunset : env.lookup (String.ofList key) = none := by simp [Environment.lookup, henv]
    have hlookup : r.lookup env ⟨.environment, key, fallback⟩ st =
        r.fallbackOr (String.ofList key) fallback (.missingVariable (String.ofList key)) st := by
      simp only [lookup, lookupVariable, hunset]
    rw [hlookup, fallbackOr_apply, hdefault]
    cases fallback with
    | some value => exact .inl ⟨value, rfl, .inr ⟨rfl, rfl⟩⟩
    | none => exact .inr ⟨rfl, rfl, rfl⟩

theorem echoes_of_lookup {t : Token} {value : List Char} {st : σ}
    (h : (r.lookup env t st).result = .ok value) : t.Echoes value := by
  rcases lookup_of_nothing_set hskip hdefault henv t st with ⟨echo, hecho, hechoes⟩ | ⟨-, -, he⟩
  · obtain rfl : echo = value := by simpa using hecho.symm.trans h
    exact hechoes
  · cases h.symm.trans he

/-- Each substitution of a run takes seven bytes. -/
theorem Rewrites.byteLength_add_le {k : Nat} {s t : List Char} {st st' : σ} {events : List Event}
    (h : Rewrites r env k s st events t st') : byteLength t + 7 * k ≤ byteLength s := by
  induction h with
  | refl s st => exact Nat.le_refl _
  | step hfind hvalue _ ih =>
    have hstep := byteLength_substitute_add_le hfind
      (echoes_of_lookup hskip hdefault henv hvalue)
    omega

theorem FailsAfter.exists_missing {k : Nat} {s : List Char} {st st' : σ} {events : List Event}
    {e : Error} (h : FailsAfter r env k s st events e st') :
    ∃ key before t st₁ p, Rewrites r env k s st before t st₁ ∧ find t = some p ∧
      p.token = ⟨.environment, key, none⟩ ∧ e = .missingVariable (String.ofList key) := by
  obtain ⟨before, t, st₁, p, hrun, hfind, asked, hasked, -⟩ := h
  have he : (r.lookup env p.token st₁).result = .error e := by rw [hasked]
  rcases lookup_of_nothing_set hskip hdefault henv p.token st₁ with
    ⟨value, hvalue, -⟩ | ⟨hsource, hfallback, hmissing⟩
  · cases hvalue.symm.trans he
  · cases hmissing.symm.trans he
    have htoken : p.token = ⟨.environment, p.token.key, none⟩ := by rw [← hsource, ← hfallback]
    exact ⟨p.token.key, before, t, st₁, p, hrun, hfind, htoken, rfl⟩

/-- Without values from outside substitution settles. Where no store is asked, no variable is set
and there is no default of the options, each substitution takes seven bytes from the text at least,
also where its value finishes a token that was not there before. So a text of fewer bytes than the
limit allows for never comes to the limit: it is resolved to a text that is not longer, or the run
comes to a token that asks for a variable and has no default, and fails for want of this
variable. -/
theorem resolveString_settles :
    (∀ (s value : List Char) (p : Placeholder) (st : σ), find s = some p →
      (r.lookup env p.token st).result = .ok value →
        byteLength (p.substitute value) + 7 ≤ byteLength s) ∧
    ∀ (s : String) (st : σ), s.utf8ByteSize < 7 * (r.options.maxSubstitutions + 1) →
      (∃ t, (r.resolveString env s st).result = .ok t ∧ t.utf8ByteSize ≤ s.utf8ByteSize) ∨
      ∃ key, (r.resolveString env s st).result = .error (.missingVariable (String.ofList key)) ∧
        ∃ k events t st' p, Rewrites r env k s.toList st events t st' ∧ find t = some p ∧
          p.token = ⟨.environment, key, none⟩ := by
  constructor
  · intro s value p st hfind hvalue
    exact byteLength_substitute_add_le hfind (echoes_of_lookup hskip hdefault henv hvalue)
  · intro s st hlength
    simp only [utf8ByteSize_eq_byteLength] at hlength ⊢
    rcases substituteAll_cases r env r.options.maxSubstitutions s.toList st with
      ⟨k, hk, events, t, st', hrun, ht⟩ | ⟨k, hk, events, e, st', hfails⟩ |
        ⟨events, t, st', hrun, ht⟩
    · have hshorter := hrun.byteLength_add_le hskip hdefault henv
      refine .inl ⟨String.ofList t, ?_, ?_⟩
      · rw [resolveString_of_end hrun ht hk]
      · rw [String.toList_ofList]
        omega
    · obtain ⟨key, before, t, st₁, p, hrun, hfind, htoken, rfl⟩ :=
        hfails.exists_missing hskip hdefault henv
      refine .inr ⟨key, ?_, k, before, t, st₁, p, hrun, hfind, htoken⟩
      rw [resolveString_of_fails hfails hk]
    · -- as many substitutions as are allowed leave too few bytes for another placeholder
      have hshorter := hrun.byteLength_add_le hskip hdefault henv
      obtain ⟨p, hp⟩ := Option.ne_none_iff_exists'.1 ht
      have hleft := seven_le_byteLength hp
      omega

end Nothing

/-- The key of the only token finishes another one, and thirty bytes allow for four
substitutions. -/
theorem resolveString_settles_finished :
    let r : Resolver Unit := ⟨{ skipRemote := true, maxSubstitutions := 4 }, none⟩
    let s := "\x7b!EN\x7b!SSM: V\x7d: X !DEFAULT: ok\x7d"
    let p : Placeholder :=
      ⟨"\x7b!EN".toList, ⟨.parameterStore, ['V'], none⟩, ": X !DEFAULT: ok\x7d".toList⟩
    find s.toList = some p ∧
      find (p.substitute ['V']) = some ⟨[], ⟨.environment, ['X'], some ['o', 'k']⟩, []⟩ ∧
      byteLength (p.substitute ['V']) + 7 ≤ byteLength s.toList ∧
      s.utf8ByteSize < 7 * (4 + 1) ∧
      ∃ t, (r.resolveString .empty s ()).result = .ok t ∧ t.utf8ByteSize ≤ s.utf8ByteSize := by
  intro r s p
  have hfind : find s.toList = some p := by decide
  have hlength : s.utf8ByteSize < 7 * (4 + 1) := by decide
  have hresult : (r.resolveString .empty s ()).result = .ok "ok" := by decide +kernel
  obtain ⟨hshorter, hsettles⟩ := @resolveString_settles Unit r .empty rfl rfl fun _ ↦ rfl
  refine ⟨hfind, by decide, hshorter s.toList ['V'] p () hfind (by decide +kernel), hlength, ?_⟩
  rcases hsettles s () hlength with hok | ⟨key, hmissing, -⟩
  · exact hok
  · cases hresult.symm.trans hmissing

end Resolver

end ConfigResolver
