import ConfigResolver.Proofs.Placeholder.Grammar
import ConfigResolver.Proofs.Resolver.Lookup
import ConfigResolver.Proofs.Resolver.Relation

/-!
# Substitution with and without a limit

`Rewrites` is the recursion that substitution is meant to be: find the leftmost placeholder, look
it up, put the value in its place, go on with the new text. It has no limit and need not end. What
`substituteAll` does with a budget is to follow this recursion: `substituteAll_of_rewrites` says
that `k` steps of the recursion use up `k` of the budget, and `rewrites_or_stops` that the
recursion either takes as many steps as there is budget or stops before. Main statement:
`resolveString_follows`.

The recursion passes the state of the store on from lookup to lookup, so everything here holds of
stores that answer differently from call to call, too.
-/

namespace ConfigResolver.Resolver

open Placeholder

variable {σ : Type} {r : Resolver σ} {env : Environment}

/-- The record of one substitution. -/
def substitution (t : Token) : Event := .log (.substituted t.source (String.ofList t.key))

/-- `Rewrites r env k s st events t st'`: from the text `s` and the store's state `st`, `k`
substitutions lead to the text `t` and the state `st'`, with these events. -/
inductive Rewrites (r : Resolver σ) (env : Environment) :
    Nat → List Char → σ → List Event → List Char → σ → Prop
  /-- No substitution. -/
  | refl (s : List Char) (st : σ) : Rewrites r env 0 s st [] s st
  /-- The leftmost placeholder is replaced by its value, and the new text goes on. -/
  | step {k : Nat} {s t value : List Char} {st st' : σ} {p : Placeholder} {events : List Event}
      (hfind : find s = some p) (hvalue : (r.lookup env p.token st).result = .ok value)
      (hrest : Rewrites r env k (p.substitute value) (r.lookup env p.token st).store events t st') :
      Rewrites r env (k + 1) s st
        ((r.lookup env p.token st).events ++ substitution p.token :: events) t st'

/-- `FailsAfter r env k s st events e st'`: the recursion takes `k` substitutions and then fails,
as the lookup of the next placeholder ends in the error `e`. -/
def FailsAfter (r : Resolver σ) (env : Environment) (k : Nat) (s : List Char) (st : σ)
    (events : List Event) (e : Error) (st' : σ) : Prop :=
  ∃ before t st₁ p, Rewrites r env k s st before t st₁ ∧ find t = some p ∧
    ∃ asked, r.lookup env p.token st₁ = ⟨.error e, asked, st'⟩ ∧ events = before ++ asked

namespace FailsAfter

variable {s value : List Char} {st st' : σ} {p : Placeholder} {e : Error}

theorem here (hfind : find s = some p) (he : (r.lookup env p.token st).result = .error e) :
    FailsAfter r env 0 s st (r.lookup env p.token st).events e (r.lookup env p.token st).store :=
  ⟨[], s, st, p, .refl s st, hfind, _, by rw [← he], rfl⟩

theorem step {k : Nat} {events : List Event} (hfind : find s = some p)
    (hvalue : (r.lookup env p.token st).result = .ok value)
    (h : FailsAfter r env k (p.substitute value) (r.lookup env p.token st).store events e st') :
    FailsAfter r env (k + 1) s st
      ((r.lookup env p.token st).events ++ substitution p.token :: events) e st' := by
  obtain ⟨before, t, st₁, q, h, hq, asked, hasked, rfl⟩ := h
  exact ⟨_, t, st₁, q, .step hfind hvalue h, hq, asked, hasked, by simp⟩

end FailsAfter

/-! ## One pass -/

section Pass

variable {s value : List Char} {st : σ} {p : Placeholder}

theorem substituteAll_of_find_none (h : find s = none) (budget : Nat) :
    r.substituteAll env budget s st = ⟨.ok s, [], st⟩ := by
  cases budget with
  | zero => simp [substituteAll, occurs_eq_isSome_find, h]
  | succ budget => simp [substituteAll, h]

theorem substituteAll_zero_of_find (h : find s = some p) :
    r.substituteAll env 0 s st =
      ⟨.error (.substitutionLimit r.options.maxSubstitutions (String.ofList s)), [], st⟩ := by
  simp [substituteAll, occurs_eq_isSome_find, h]

theorem substituteAll_of_error {e : Error} (h : find s = some p)
    (he : (r.lookup env p.token st).result = .error e) (budget : Nat) :
    r.substituteAll env (budget + 1) s st =
      ⟨.error e, (r.lookup env p.token st).events, (r.lookup env p.token st).store⟩ := by
  simp only [substituteAll, h]
  exact Run.bind_of_error he _

theorem substituteAll_of_value (h : find s = some p)
    (hvalue : (r.lookup env p.token st).result = .ok value) (budget : Nat) :
    r.substituteAll env (budget + 1) s st =
      let out := r.substituteAll env budget (p.substitute value) (r.lookup env p.token st).store
      ⟨out.result, (r.lookup env p.token st).events ++ substitution p.token :: out.events,
        out.store⟩ := by
  simp only [substituteAll, h]
  rw [Run.bind_of_ok hvalue]
  rfl

end Pass

/-! ## Many passes -/

section Passes

variable {k budget : Nat} {s t : List Char} {st st' : σ} {events : List Event}

/-- Substitutions of the recursion use up as much of the budget. -/
theorem substituteAll_of_rewrites (h : Rewrites r env k s st events t st') (budget : Nat) :
    r.substituteAll env (k + budget) s st =
      let out := r.substituteAll env budget t st'
      ⟨out.result, events ++ out.events, out.store⟩ := by
  induction h with
  | refl s st => rw [Nat.zero_add]; rfl
  | @step k s t value st st' p events hfind hvalue _ ih =>
    rw [show k + 1 + budget = k + budget + 1 by omega, substituteAll_of_value hfind hvalue, ih]
    simp

/-- The recursion goes on for as long as the budget lasts, or stops before. -/
theorem rewrites_or_stops (r : Resolver σ) (env : Environment) (budget : Nat) (s : List Char)
    (st : σ) :
    (∃ events t st', Rewrites r env budget s st events t st') ∨
      ∃ k < budget, (∃ events t st', Rewrites r env k s st events t st' ∧ find t = none) ∨
        ∃ events e st', FailsAfter r env k s st events e st' := by
  induction budget generalizing s st with
  | zero => exact .inl ⟨[], s, st, .refl s st⟩
  | succ budget ih =>
    cases hfind : find s with
    | none =>
      exact .inr ⟨0, Nat.succ_pos _, .inl ⟨[], s, st, .refl s st, hfind⟩⟩
    | some p =>
      cases hvalue : (r.lookup env p.token st).result with
      | error e => exact .inr ⟨0, Nat.succ_pos _, .inr ⟨_, e, _, .here hfind hvalue⟩⟩
      | ok value =>
        rcases ih (p.substitute value) (r.lookup env p.token st).store with
          ⟨events, t, st', h⟩ | ⟨k, hk, ⟨events, t, st', h, ht⟩ | ⟨events, e, st', h⟩⟩
        · exact .inl ⟨_, t, st', .step hfind hvalue h⟩
        · exact .inr ⟨k + 1, Nat.succ_lt_succ hk, .inl ⟨_, t, st', .step hfind hvalue h, ht⟩⟩
        · exact .inr ⟨k + 1, Nat.succ_lt_succ hk, .inr ⟨_, e, st', .step hfind hvalue h⟩⟩

theorem substituteAll_of_end (h : Rewrites r env k s st events t st') (ht : find t = none)
    (hk : k ≤ budget) : r.substituteAll env budget s st = ⟨.ok t, events, st'⟩ := by
  obtain ⟨rest, rfl⟩ := Nat.exists_eq_add_of_le hk
  rw [substituteAll_of_rewrites h, substituteAll_of_find_none ht]
  simp

theorem substituteAll_of_fails {e : Error} (h : FailsAfter r env k s st events e st')
    (hk : k < budget) : r.substituteAll env budget s st = ⟨.error e, events, st'⟩ := by
  obtain ⟨before, t, st₁, p, h, hp, asked, hasked, rfl⟩ := h
  obtain ⟨rest, rfl⟩ := Nat.exists_eq_add_of_lt hk
  have he : (r.lookup env p.token st₁).result = .error e := by rw [hasked]
  rw [Nat.add_assoc, substituteAll_of_rewrites h, substituteAll_of_error hp he, hasked]

theorem substituteAll_of_exhausted {p : Placeholder} (h : Rewrites r env k s st events t st')
    (ht : find t = some p) : r.substituteAll env k s st =
      ⟨.error (.substitutionLimit r.options.maxSubstitutions (String.ofList t)), events, st'⟩ := by
  rw [← Nat.add_zero k, substituteAll_of_rewrites h, substituteAll_zero_of_find ht]
  simp

/-- A run with a budget has one of three endings. -/
theorem substituteAll_cases (r : Resolver σ) (env : Environment) (budget : Nat) (s : List Char)
    (st : σ) :
    (∃ k ≤ budget, ∃ events t st', Rewrites r env k s st events t st' ∧ find t = none) ∨
      (∃ k < budget, ∃ events e st', FailsAfter r env k s st events e st') ∨
        ∃ events t st', Rewrites r env budget s st events t st' ∧ find t ≠ none := by
  rcases rewrites_or_stops r env budget s st with
    ⟨events, t, st', h⟩ | ⟨k, hk, ⟨events, t, st', h, ht⟩ | hfails⟩
  · by_cases ht : find t = none
    · exact .inl ⟨budget, Nat.le_refl _, events, t, st', h, ht⟩
    · exact .inr (.inr ⟨events, t, st', h, ht⟩)
  · exact .inl ⟨k, Nat.le_of_lt hk, events, t, st', h, ht⟩
  · exact .inr (.inl ⟨k, hk, hfails⟩)

end Passes

/-! ## Texts -/

/-- The resolver with another limit. -/
def withLimit (r : Resolver σ) (limit : Nat) : Resolver σ :=
  { r with options := r.options.withMaxSubstitutions limit }

/-- A lookup does not know the limit, so the recursion does not either. -/
theorem Rewrites.withLimit {k : Nat} {s t : List Char} {st st' : σ} {events : List Event}
    (h : Rewrites r env k s st events t st') (limit : Nat) :
    Rewrites (r.withLimit limit) env k s st events t st' := by
  induction h with
  | refl s st => exact .refl s st
  | step hfind hvalue _ ih => exact .step hfind hvalue ih

theorem FailsAfter.withLimit {k : Nat} {s : List Char} {st st' : σ} {events : List Event}
    {e : Error} (h : FailsAfter r env k s st events e st') (limit : Nat) :
    FailsAfter (r.withLimit limit) env k s st events e st' := by
  obtain ⟨before, t, st₁, p, h, hp, hasked⟩ := h
  exact ⟨before, t, st₁, p, h.withLimit limit, hp, hasked⟩

theorem FailsAfter.lookupError {k : Nat} {s : List Char} {st st' : σ} {events : List Event}
    {e : Error} (h : FailsAfter r env k s st events e st') : LookupError e := by
  obtain ⟨before, t, st₁, p, -, -, asked, hasked, -⟩ := h
  exact errorsIn_lookup r env p.token st₁ e (by rw [hasked])

theorem resolveString_eq (r : Resolver σ) (env : Environment) (s : String) (st : σ) :
    r.resolveString env s st =
      let out := r.substituteAll env r.options.maxSubstitutions s.toList st
      ⟨out.result.map String.ofList, out.events, out.store⟩ :=
  Run.map_apply _ _ _

section Text

variable {k : Nat} {s : String} {t : List Char} {st st' : σ} {events : List Event}

theorem resolveString_of_end (h : Rewrites r env k s.toList st events t st')
    (ht : find t = none) (hk : k ≤ r.options.maxSubstitutions) :
    r.resolveString env s st = ⟨.ok (String.ofList t), events, st'⟩ := by
  rw [resolveString_eq, substituteAll_of_end h ht hk]
  rfl

theorem resolveString_of_fails {e : Error} (h : FailsAfter r env k s.toList st events e st')
    (hk : k < r.options.maxSubstitutions) :
    r.resolveString env s st = ⟨.error e, events, st'⟩ := by
  rw [resolveString_eq, substituteAll_of_fails h hk]
  rfl

theorem resolveString_of_exhausted
    (h : Rewrites r env r.options.maxSubstitutions s.toList st events t st') (ht : find t ≠ none) :
    r.resolveString env s st =
      ⟨.error (.substitutionLimit r.options.maxSubstitutions (String.ofList t)), events, st'⟩ := by
  obtain ⟨p, hp⟩ := Option.ne_none_iff_exists'.1 ht
  rw [resolveString_eq, substituteAll_of_exhausted h hp]
  rfl

/-- A text is the result exactly if the recursion ends in it within the limit. -/
theorem resolveString_eq_ok_iff {text : String} :
    r.resolveString env s st = ⟨.ok text, events, st'⟩ ↔
      ∃ k ≤ r.options.maxSubstitutions,
        Rewrites r env k s.toList st events text.toList st' ∧ find text.toList = none := by
  constructor
  · intro hout
    rcases substituteAll_cases r env r.options.maxSubstitutions s.toList st with
      ⟨k, hk, events₁, t, st₁, hrun, ht⟩ | ⟨k, hk, events₁, e, st₁, hfails⟩ |
        ⟨events₁, t, st₁, hrun, ht⟩
    · obtain ⟨rfl, rfl, rfl⟩ : String.ofList t = text ∧ events₁ = events ∧ st₁ = st' := by
        simpa using (resolveString_of_end hrun ht hk).symm.trans hout
      exact ⟨k, hk, by simpa using hrun, by simpa using ht⟩
    · cases (resolveString_of_fails hfails hk).symm.trans hout
    · cases (resolveString_of_exhausted hrun ht).symm.trans hout
  · rintro ⟨k, hk, hrun, ht⟩
    simpa using resolveString_of_end hrun ht hk

/-- A failure is that of a lookup, which the recursion comes to below the limit, or is the limit,
which the recursion reaches with a placeholder left. -/
theorem resolveString_error_cases {e : Error}
    (hout : r.resolveString env s st = ⟨.error e, events, st'⟩) :
    (∃ k < r.options.maxSubstitutions, FailsAfter r env k s.toList st events e st') ∨
      ∃ t, Rewrites r env r.options.maxSubstitutions s.toList st events t st' ∧ find t ≠ none ∧
        e = .substitutionLimit r.options.maxSubstitutions (String.ofList t) := by
  rcases substituteAll_cases r env r.options.maxSubstitutions s.toList st with
    ⟨k, hk, events₁, t, st₁, hrun, ht⟩ | ⟨k, hk, events₁, e₁, st₁, hfails⟩ |
      ⟨events₁, t, st₁, hrun, ht⟩
  · cases (resolveString_of_end hrun ht hk).symm.trans hout
  · cases (resolveString_of_fails hfails hk).symm.trans hout
    exact .inl ⟨k, hk, hfails⟩
  · cases (resolveString_of_exhausted hrun ht).symm.trans hout
    exact .inr ⟨t, hrun, ht, rfl⟩

theorem related_steady {answer : String → Except StoreError String}
    (hstore : ∀ store ∈ r.store, store.AnswersBy answer) (env : Environment) :
    Related (.steady σ) r r env :=
  ⟨rfl, steady_lookup hstore env⟩

/-- Over a store that answers by name a text has the same value at any time. -/
theorem steady_resolveString {answer : String → Except StoreError String}
    (hstore : ∀ store ∈ r.store, store.AnswersBy answer) (env : Environment) (s : String) :
    (r.resolveString env s).Steady :=
  (related_steady hstore env).resolveString s

/-- With a higher limit a run that did not end at the limit is the same run. -/
theorem resolveString_withLimit_of_le {m m' : Nat} (hle : m ≤ m')
    (h : ∀ e, ((r.withLimit m).resolveString env s st).result = .error e →
      e.kind ≠ .substitutionLimit m) :
    (r.withLimit m').resolveString env s st = (r.withLimit m).resolveString env s st := by
  rcases substituteAll_cases r env m s.toList st with
    ⟨k, hk, events, t, st', hrun, ht⟩ | ⟨k, hk, events, e, st', hfails⟩ |
      ⟨events, t, st', hrun, ht⟩
  · rw [resolveString_of_end (hrun.withLimit m) ht hk,
      resolveString_of_end (hrun.withLimit m') ht (Nat.le_trans hk hle)]
  · rw [resolveString_of_fails (hfails.withLimit m) hk,
      resolveString_of_fails (hfails.withLimit m') (Nat.lt_of_lt_of_le hk hle)]
  · rw [resolveString_of_exhausted (hrun.withLimit m) ht] at h
    exact absurd rfl (h _ rfl)

end Text

/-- Substitution in a text is the recursion without a limit, cut at the limit. It ends in a text
exactly if the recursion ends there after at most as many substitutions as are allowed, and in the
error of a lookup exactly if the recursion fails so after fewer. It ends at the limit exactly if
the text still holds a placeholder after as many substitutions as are allowed; then nothing was
looked up any more. The events are those of the recursion, so a higher limit changes neither the
result nor the calls of a run that did not end at the limit. -/
theorem resolveString_follows (r : Resolver σ) (env : Environment) (s : String) (st : σ) :
    let limit := r.options.maxSubstitutions
    let out := r.resolveString env s st
    (∀ t events st', out = ⟨.ok t, events, st'⟩ ↔
      ∃ k ≤ limit, Rewrites r env k s.toList st events t.toList st' ∧ find t.toList = none) ∧
    (∀ e events st', out = ⟨.error e, events, st'⟩ ∧ e.kind ≠ .substitutionLimit limit ↔
      ∃ k < limit, FailsAfter r env k s.toList st events e st') ∧
    (∀ e events st', out = ⟨.error e, events, st'⟩ ∧ e.kind = .substitutionLimit limit ↔
      ∃ t, Rewrites r env limit s.toList st events t st' ∧ find t ≠ none ∧
        e = .substitutionLimit limit (String.ofList t)) ∧
    ∀ m m', m ≤ m' → (∀ e, ((r.withLimit m).resolveString env s st).result = .error e →
        e.kind ≠ .substitutionLimit m) →
      (r.withLimit m').resolveString env s st = (r.withLimit m).resolveString env s st := by
  intro limit out
  refine ⟨fun t events st' ↦ resolveString_eq_ok_iff, fun e events st' ↦ ?_,
    fun e events st' ↦ ?_, fun m m' hle h ↦ resolveString_withLimit_of_le hle h⟩
  · constructor
    · rintro ⟨hout, hkind⟩
      rcases resolveString_error_cases hout with hfails | ⟨t, -, -, rfl⟩
      · exact hfails
      · exact absurd rfl hkind
    · rintro ⟨k, hk, hfails⟩
      exact ⟨resolveString_of_fails hfails hk, hfails.lookupError.kind_ne_limit limit⟩
  · constructor
    · rintro ⟨hout, hkind⟩
      rcases resolveString_error_cases hout with ⟨k, -, hfails⟩ | hlimit
      · exact absurd hkind (hfails.lookupError.kind_ne_limit limit)
      · exact hlimit
    · rintro ⟨t, hrun, ht, rfl⟩
      exact ⟨resolveString_of_exhausted hrun ht, rfl⟩

end ConfigResolver.Resolver
