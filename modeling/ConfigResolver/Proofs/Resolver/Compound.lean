import ConfigResolver.Proofs.Placeholder.Literal
import ConfigResolver.Proofs.Resolver.Substitution

/-!
# Texts of several tokens

A text may hold several tokens with literal text around them. Each pass of the substitution searches
the whole text again. Where neither the literal texts nor the values can begin a token, what is
already done is passed over by the search (`Literal.append`), so the next token in the text is the
next one to be replaced: the tokens are looked up from left to right, each once, as `lookupEach`
does it (`rewrites_of_lookupEach`). Main statement: `resolveString_compound`.
-/

namespace ConfigResolver

namespace Placeholder

variable {s t : List Char}

/-- No token can begin in the text: no opening stands in it, and it does not end with the first half
of one. -/
structure Inert (s : List Char) : Prop where
  /-- No opening stands in the text. -/
  not_opening : ¬ Token.opening <:+: s
  /-- The text does not end with an opening brace. -/
  not_half : s.getLast? ≠ some '{'

/-- What begins with an opening holds it, or is the first half of it. -/
theorem Inert.literal (h : Inert s) : Literal s where
  find_eq_none := by
    rw [find_eq_none_iff_not_in]
    rintro p ⟨text, hspells, rfl⟩
    obtain ⟨rest, rfl⟩ := hspells.opening_isPrefix
    exact h.not_opening ⟨p.before, rest ++ p.after, by simp⟩
  not_begins := by
    rintro u hne ⟨left, rfl⟩ ⟨token, text, hspells, hbegins⟩
    obtain ⟨rest, rfl⟩ := hspells.opening_isPrefix
    match u, hbegins with
    | [], _ => exact hne rfl
    | [c], hbegins =>
      obtain ⟨rfl, -⟩ := List.cons_prefix_cons.1 hbegins
      exact h.not_half (by simp)
    | c :: d :: u, hbegins =>
      obtain ⟨rfl, htail⟩ := List.cons_prefix_cons.1 hbegins
      obtain ⟨rfl, -⟩ := List.cons_prefix_cons.1 htail
      exact h.not_opening ⟨left, u, by simp [Token.opening]⟩

/-- What begins at the end of the first text would have begun there before. -/
theorem Literal.append (hs : Literal s) (ht : Literal t) : Literal (s ++ t) where
  find_eq_none := by
    rw [hs.find_append, ht.find_eq_none]
    rfl
  not_begins := by
    rintro u hne ⟨left, hleft⟩ ⟨token, text, hspells, hbegins⟩
    rcases List.append_eq_append_iff.1 hleft with ⟨m, rfl, rfl⟩ | ⟨m, -, rfl⟩
    · cases m with
      | nil => exact ht.not_begins t hne (List.suffix_refl t) ⟨token, text, hspells, hbegins⟩
      | cons c m =>
        exact hs.not_begins (c :: m) (List.cons_ne_nil c m) (List.suffix_append left _)
          ⟨token, text, hspells, (List.prefix_append _ t).trans hbegins⟩
    · exact ht.not_begins u hne (List.suffix_append m u) ⟨token, text, hspells, hbegins⟩

/-- Behind a literal text the token that follows it is the leftmost one. -/
theorem Literal.find_spelled (hs : Literal s) {token : Token} {text : List Char}
    (hspells : token.Spells text) (after : List Char) :
    find (s ++ (text ++ after)) = some ⟨s, token, after⟩ := by
  have hmatch : Token.match? (text ++ after) = some (token, after) :=
    Token.match?_eq_some_iff.2 ⟨text, hspells, rfl⟩
  obtain ⟨rest, rfl⟩ := hspells.opening_isPrefix
  rw [List.append_assoc] at hmatch ⊢
  rw [hs.find_append, find_opening_of_match hmatch]
  simp [behind]

end Placeholder

/-- A token as a text spells it, with the literal text behind it. -/
structure Segment where
  /-- The token. -/
  token : Token
  /-- How the token is spelled. -/
  spelling : List Char
  /-- The text between the token and the next one. -/
  literal : List Char
  /-- The spelling is one of the token. -/
  spells : token.Spells spelling

namespace Segment

/-- The text that segments make up. -/
def spelled (segments : List Segment) : List Char :=
  segments.flatMap fun segment ↦ segment.spelling ++ segment.literal

/-- The text that is left when each token is replaced by its value. -/
def filled : List Segment → List (List Char) → List Char
  | segment :: segments, value :: values => value ++ segment.literal ++ filled segments values
  | _, _ => []

@[simp] theorem spelled_nil : spelled [] = [] := rfl

@[simp] theorem spelled_cons (segment : Segment) (segments : List Segment) :
    spelled (segment :: segments) = segment.spelling ++ (segment.literal ++ spelled segments) := by
  simp [spelled]

@[simp] theorem spelled_append (segments segments' : List Segment) :
    spelled (segments ++ segments') = spelled segments ++ spelled segments' := by
  simp [spelled]

@[simp] theorem filled_nil (values : List (List Char)) : filled [] values = [] := by
  simp [filled]

end Segment

namespace Resolver

open Placeholder Segment

variable {σ : Type} {r : Resolver σ} {env : Environment} {st st' : σ} {events : List Event}

/-- Looks tokens up from left to right, each once. Each value that is found is reported as the
substitution of its token. -/
def lookupEach (r : Resolver σ) (env : Environment) : List Token → Run σ (List (List Char))
  | [] => pure []
  | t :: rest => do
    let value ← r.lookup env t
    Run.log (.substituted t.source (String.ofList t.key))
    let values ← r.lookupEach env rest
    pure (value :: values)

theorem lookupEach_of_value {t : Token} {value : List Char}
    (hvalue : (r.lookup env t st).result = .ok value) (tokens : List Token) :
    r.lookupEach env (t :: tokens) st =
      let out := r.lookupEach env tokens (r.lookup env t st).store
      ⟨out.result.map (value :: ·), (r.lookup env t st).events ++ substitution t :: out.events,
        out.store⟩ := by
  rw [lookupEach, Run.bind_of_ok hvalue, Run.bind_of_ok rfl]
  simp only [← map_eq_pure_bind, Run.map_apply]
  rfl

/-- Tokens have values if the first one has one and, in the state that its lookup leaves, the others
have. -/
theorem lookupEach_cons_eq_ok {t : Token} {tokens : List Token} {values : List (List Char)}
    (h : r.lookupEach env (t :: tokens) st = ⟨.ok values, events, st'⟩) :
    ∃ value others later, (r.lookup env t st).result = .ok value ∧
      r.lookupEach env tokens (r.lookup env t st).store = ⟨.ok others, later, st'⟩ ∧
      values = value :: others ∧
      events = (r.lookup env t st).events ++ substitution t :: later := by
  cases hvalue : (r.lookup env t st).result with
  | error e =>
    rw [lookupEach, Run.bind_of_error hvalue] at h
    cases h
  | ok value =>
    rw [lookupEach_of_value hvalue] at h
    generalize hout : r.lookupEach env tokens (r.lookup env t st).store = out at h
    obtain ⟨result, later, st₁⟩ := out
    cases result with
    | error e => cases h
    | ok others =>
      cases h
      exact ⟨value, others, later, rfl, rfl, rfl, rfl⟩

/-- The recursion replaces the tokens from left to right. What is done is literal all the time, so
that each search passes over it. -/
theorem rewrites_of_lookupEach {done : List Char} {segments : List Segment}
    {values : List (List Char)} (hdone : Literal done)
    (hliteral : ∀ segment ∈ segments, Literal segment.literal)
    (hvalues : ∀ value ∈ values, Literal value)
    (h : r.lookupEach env (segments.map Segment.token) st = ⟨.ok values, events, st'⟩)
    (rest : List Char) :
    Rewrites r env segments.length (done ++ (spelled segments ++ rest)) st events
        (done ++ filled segments values ++ rest) st' ∧
      Literal (done ++ filled segments values) := by
  induction segments generalizing done values st events with
  | nil =>
    cases h
    rw [filled_nil, List.append_nil]
    exact ⟨.refl _ _, hdone⟩
  | cons segment segments ih =>
    obtain ⟨value, others, later, hvalue, hothers, rfl, rfl⟩ := lookupEach_cons_eq_ok h
    obtain ⟨hliteral, hliterals⟩ := List.forall_mem_cons.1 hliteral
    obtain ⟨hvalueLiteral, hvalues⟩ := List.forall_mem_cons.1 hvalues
    obtain ⟨hrun, hlast⟩ :=
      ih ((hdone.append hvalueLiteral).append hliteral) hliterals hvalues hothers
    have hfind : find (done ++ (spelled (segment :: segments) ++ rest)) =
        some ⟨done, segment.token, segment.literal ++ (spelled segments ++ rest)⟩ := by
      rw [← hdone.find_spelled segment.spells]
      simp
    have hnext : done ++ value ++ segment.literal ++ (spelled segments ++ rest) =
        substitute ⟨done, segment.token, segment.literal ++ (spelled segments ++ rest)⟩ value := by
      simp [substitute]
    have hend : done ++ value ++ segment.literal ++ filled segments others =
        done ++ filled (segment :: segments) (value :: others) := by
      simp [filled]
    rw [hnext, hend] at hrun
    rw [hend] at hlast
    exact ⟨.step hfind hvalue hrun, hlast⟩

/-! ## The text -/

section Text

variable {s : String} {first : List Char} {segments : List Segment} {values : List (List Char)}

/-- With the tokens of some segments replaced the text goes on with the next segments. -/
theorem rewrites_of_split {before after : List Segment}
    (hs : s.toList = first ++ spelled segments) (hsegments : segments = before ++ after)
    (hfirst : Inert first) (hliteral : ∀ segment ∈ segments, Inert segment.literal)
    (hvalues : ∀ value ∈ values, Inert value)
    (h : r.lookupEach env (before.map Segment.token) st = ⟨.ok values, events, st'⟩) :
    Rewrites r env before.length s.toList st events
        (first ++ filled before values ++ spelled after) st' ∧
      Literal (first ++ filled before values) := by
  subst hsegments
  rw [hs, spelled_append]
  refine rewrites_of_lookupEach hfirst.literal (fun segment hmem ↦ ?_)
    (fun value hmem ↦ (hvalues value hmem).literal) h _
  exact (hliteral segment (List.mem_append_left after hmem)).literal

/-- A text of tokens with literal text around them is resolved token by token, from left to right,
if neither the literal texts nor the values that are found hold an opening or end with its first
half. Up to as many tokens as are allowed are looked up, each once. If that is all of them and all
have values, these take the places of the tokens. If one of them has no value, its error is the
result and nothing is looked up after it. If more tokens are left, the limit is the result, and none
of those is looked up. -/
theorem resolveString_compound (r : Resolver σ) (env : Environment)
    (hs : s.toList = first ++ spelled segments) (hfirst : Inert first)
    (hliteral : ∀ segment ∈ segments, Inert segment.literal) (st : σ) :
    let limit := r.options.maxSubstitutions
    let out := r.resolveString env s st
    (∀ values events st', segments.length ≤ limit →
      r.lookupEach env (segments.map Segment.token) st = ⟨.ok values, events, st'⟩ →
      (∀ value ∈ values, Inert value) →
        out = ⟨.ok (String.ofList (first ++ filled segments values)), events, st'⟩) ∧
    (∀ before segment after values events st₁ e asked st', segments = before ++ segment :: after →
      before.length < limit →
      r.lookupEach env (before.map Segment.token) st = ⟨.ok values, events, st₁⟩ →
      (∀ value ∈ values, Inert value) → r.lookup env segment.token st₁ = ⟨.error e, asked, st'⟩ →
        out = ⟨.error e, events ++ asked, st'⟩) ∧
    ∀ values events st', limit < segments.length →
      r.lookupEach env ((segments.take limit).map Segment.token) st = ⟨.ok values, events, st'⟩ →
      (∀ value ∈ values, Inert value) →
        out = ⟨.error (.substitutionLimit limit (String.ofList
          (first ++ filled (segments.take limit) values ++ spelled (segments.drop limit)))),
            events, st'⟩ := by
  intro limit out
  refine ⟨?_, ?_, ?_⟩
  · intro values events st' hlength h hvalues
    obtain ⟨hrun, hlast⟩ :=
      rewrites_of_split hs (List.append_nil segments).symm hfirst hliteral hvalues h
    rw [spelled_nil, List.append_nil] at hrun
    exact resolveString_of_end hrun hlast.find_eq_none hlength
  · intro before segment after values events st₁ e asked st' hsegments hlength h hvalues he
    obtain ⟨hrun, hlast⟩ := rewrites_of_split hs hsegments hfirst hliteral hvalues h
    have hfind := hlast.find_spelled segment.spells (segment.literal ++ spelled after)
    rw [← spelled_cons] at hfind
    exact resolveString_of_fails ⟨events, _, st₁, _, hrun, hfind, asked, he, rfl⟩ hlength
  · intro values events st' hmore h hvalues
    obtain ⟨hrun, hlast⟩ :=
      rewrites_of_split hs (segments.take_append_drop limit).symm hfirst hliteral hvalues h
    rw [List.length_take_of_le (Nat.le_of_lt hmore)] at hrun
    rw [List.drop_eq_getElem_cons hmore] at hrun ⊢
    have hfind := hlast.find_spelled segments[limit].spells
      (segments[limit].literal ++ spelled (segments.drop (limit + 1)))
    rw [← spelled_cons] at hfind
    refine resolveString_of_exhausted hrun ?_
    rw [hfind]
    exact Option.some_ne_none _

end Text

/-- A closing brace and an exclamation mark in a value finish nothing. Where two substitutions are
allowed both tokens are replaced, where one is allowed the second token is not looked up. -/
theorem resolveString_compound_two :
    let get := fun name ↦ if name = "/a" then .ok "!\x7d" else .error (.notFound name)
    let r := fun limit ↦ (⟨{ maxSubstitutions := limit },
      some (.ofAnswers ⟨get, fun _ _ ↦ .ok ⟨[], none⟩⟩)⟩ : Resolver Unit)
    let s := "x \x7b!SSM: /a\x7d and \x7b!SSM: /b !DEFAULT: y\x7d"
    ((r 2).resolveString .empty s ()).result = .ok "x !\x7d and y" ∧
      ((r 1).resolveString .empty s ()).result =
        .error (.substitutionLimit 1 "x !\x7d and \x7b!SSM: /b !DEFAULT: y\x7d") ∧
      callsOf ((r 1).resolveString .empty s ()).events = [.get "/a"] := by
  intro get r s
  let segments : List Segment := [
    { token := ⟨.parameterStore, "/a".toList, none⟩
      spelling := "\x7b!SSM: /a\x7d".toList
      literal := " and ".toList
      spells := .plain .parameterStore " /a".toList (by decide) (by decide) },
    { token := ⟨.parameterStore, "/b".toList, some "y".toList⟩
      spelling := "\x7b!SSM: /b !DEFAULT: y\x7d".toList
      literal := []
      spells := .withDefault .parameterStore " /b ".toList " y".toList (by decide) (by decide)
        (by decide) }]
  have hs : s.toList = "x ".toList ++ spelled segments := by decide
  have hfirst : Inert "x ".toList := ⟨by decide, by decide⟩
  have hliteral : ∀ segment ∈ segments, Inert segment.literal := by
    refine List.forall_mem_cons.2 ⟨⟨by decide, by decide⟩, List.forall_mem_singleton.2 ?_⟩
    exact ⟨by decide, by decide⟩
  have hfirstValue : Inert "!\x7d".toList := ⟨by decide, by decide⟩
  have hsecondValue : Inert "y".toList := ⟨by decide, by decide⟩
  obtain ⟨hall, -, -⟩ := resolveString_compound (r 2) .empty hs hfirst hliteral ()
  obtain ⟨-, -, hsome⟩ := resolveString_compound (r 1) .empty hs hfirst hliteral ()
  have hboth := hall ["!\x7d".toList, "y".toList] _ () (by decide) rfl
    (List.forall_mem_cons.2 ⟨hfirstValue, List.forall_mem_singleton.2 hsecondValue⟩)
  have hone := hsome ["!\x7d".toList] _ () (by decide) rfl (List.forall_mem_singleton.2 hfirstValue)
  rw [hboth, hone]
  exact ⟨rfl, rfl, rfl⟩

end Resolver

end ConfigResolver
