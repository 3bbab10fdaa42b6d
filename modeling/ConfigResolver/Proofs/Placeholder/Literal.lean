import ConfigResolver.Proofs.Placeholder.Grammar

/-!
# Literal texts

A text in which no token stands may still hold the beginning of one, which what follows the text
can finish. `Token.Begins` says of a text that a token can begin with it, and `Literal` that no
token stands in a text and none begins at its end: a search passes over such a text, whatever
follows it (`Literal.find_append`).

The text before a placeholder need not be literal. Where it is not, the longest beginning of a
token at its end can be finished by a text in the place of the placeholder
(`exists_longest_beginning`, `Begins.finish`), and no token stands in front of that one
(`find_finished`).
-/

namespace ConfigResolver

open Text

namespace Token

variable {s u rest : List Char} {t : Token}

/-- A token can begin with the text. -/
def Begins (s : List Char) : Prop := ∃ (t : Token) (text : List Char), t.Spells text ∧ s <+: text

/-- A token has begun with the text and has come to its default. -/
def InDefault (s : List Char) : Prop :=
  ∃ (source : Source) (raw rawDefault : List Char), '}' ∉ raw ∧ '!' ∉ raw ∧ '}' ∉ rawDefault ∧
    s = opening ++ (source.tag ++ ':' :: raw) ++ (defaultMarker ++ rawDefault)

/-- No token stands at the start of the text. -/
def NoneAt (s : List Char) : Prop :=
  ∀ (t : Token) (text after : List Char), t.Spells text → s ≠ text ++ after

/-- A token ends with a closing brace. -/
theorem Spells.close_isSuffix {text : List Char} (h : t.Spells text) : ['}'] <:+ text := by
  cases h with
  | plain source raw => exact List.suffix_append _ _
  | withDefault source raw rawDefault => exact List.suffix_append _ _

theorem exists_tag_eq_cons (source : Source) : ∃ c rest, source.tag = c :: rest ∧ c ≠ 'D' := by
  cases source with
  | environment => exact ⟨'E', ['N', 'V'], rfl, by decide⟩
  | parameterStore => exact ⟨'S', ['S', 'M'], rfl, by decide⟩

/-- No token begins like the marker of a default. -/
theorem Spells.exists_rest {text : List Char} (h : t.Spells text) :
    ∃ c rest, text = opening ++ c :: rest ∧ c ≠ 'D' := by
  cases h with
  | plain source raw =>
    obtain ⟨c, tag, htag, hc⟩ := exists_tag_eq_cons source
    exact ⟨c, tag ++ ':' :: raw ++ ['}'], by simp [htag], hc⟩
  | withDefault source raw rawDefault =>
    obtain ⟨c, tag, htag, hc⟩ := exists_tag_eq_cons source
    exact ⟨c, tag ++ ':' :: raw ++ defaultMarker ++ rawDefault ++ ['}'], by simp [htag], hc⟩

/-- A default goes on up to the next closing brace. -/
theorem InDefault.exists_spells (h : InDefault u) (hrest : '}' ∈ rest) :
    ∃ (t : Token) (text after : List Char), t.Spells text ∧ u ++ rest = text ++ after := by
  obtain ⟨source, raw, rawDefault, hclose, hmark, hdefault, rfl⟩ := h
  rcases exists_split (· == '}') rest with hnone | ⟨left, c, after, rfl, hleft, hc⟩
  · exact absurd hrest (forall_beq_eq_false_iff.1 hnone)
  · obtain rfl : c = '}' := by simpa using hc
    have hlong : '}' ∉ rawDefault ++ left := by
      rw [List.mem_append]
      exact not_or.2 ⟨hdefault, forall_beq_eq_false_iff.1 hleft⟩
    exact ⟨_, _, after, .withDefault source raw (rawDefault ++ left) hclose hmark hlong, by simp⟩

/-- From the marker of a default on, a token is cut inside the marker, inside the default, or behind
its closing brace. -/
theorem default_cases {rawDefault after m e : List Char} (hdefault : '}' ∉ rawDefault)
    (h : defaultMarker ++ (rawDefault ++ '}' :: after) = m ++ e) :
    (∃ c m', defaultMarker = m ++ c :: m' ∧ e = c :: m' ++ (rawDefault ++ '}' :: after)) ∨
      (∃ start, '}' ∉ start ∧ m = defaultMarker ++ start) ∨
      ∃ tail, m = defaultMarker ++ (rawDefault ++ '}' :: tail) ∧ after = tail ++ e := by
  rcases List.append_eq_append_iff.1 h with ⟨rest, rfl, hrest⟩ | ⟨marker, hmarker, he⟩
  · rcases List.append_eq_append_iff.1 hrest with ⟨last, rfl, hlast⟩ | ⟨more, rfl, -⟩
    · cases last with
      | nil => exact .inr (.inl ⟨rawDefault, hdefault, by simp⟩)
      | cons c tail =>
        obtain ⟨rfl, rfl⟩ := List.cons.inj hlast
        exact .inr (.inr ⟨tail, rfl, rfl⟩)
    · exact .inr (.inl ⟨rest, fun hmem ↦ hdefault (List.mem_append_left more hmem), rfl⟩)
  · cases marker with
    | nil => exact .inr (.inl ⟨[], by simp, by rw [hmarker]; simp⟩)
    | cons c marker => exact .inl ⟨c, marker, hmarker, he⟩

/-- The beginning of a token that does not hold a whole one can be finished without a default,
unless it has come to a default. -/
theorem Begins.finish (h : Begins u) (hnone : NoneAt u) :
    InDefault u ∨ ∃ (t : Token) (w : List Char), t.Spells (u ++ w) ∧ t.fallback = none := by
  obtain ⟨t, text, hspells, w, rfl⟩ := h
  generalize htext : u ++ w = text at hspells
  cases hspells with
  | plain source raw hclose hmark =>
    refine .inr ⟨⟨source, trim raw, none⟩, w, ?_, rfl⟩
    rw [htext]
    exact .plain source raw hclose hmark
  | withDefault source raw rawDefault hclose hmark hdefault =>
    have hsplit : u ++ w = (opening ++ (source.tag ++ ':' :: raw)) ++
        (defaultMarker ++ (rawDefault ++ ['}'])) := by
      rw [htext]
      simp
    rcases List.append_eq_append_iff.1 hsplit with ⟨m, hkey, -⟩ | ⟨m, rfl, hm⟩
    · -- it ends before the marker of the default
      refine .inr ⟨⟨source, trim raw, none⟩, m ++ ['}'], ?_, rfl⟩
      rw [← List.append_assoc, ← hkey, ← List.append_assoc]
      exact .plain source raw hclose hmark
    · rcases default_cases hdefault hm with
        ⟨c, m', hmarker, -⟩ | ⟨start, hstart, rfl⟩ | ⟨tail, rfl, hnil⟩
      · -- it ends inside the marker
        refine .inr ⟨⟨source, trim raw, fallbackOf []⟩, c :: m' ++ ['}'], ?_, rfl⟩
        have hspells := Spells.withDefault source raw [] hclose hmark (by simp)
        rw [hmarker] at hspells
        simpa using hspells
      · exact .inl ⟨source, raw, start, hclose, hmark, hstart, rfl⟩
      · -- it is the whole token
        obtain ⟨rfl, rfl⟩ := List.append_eq_nil_iff.1 hnil.symm
        have hwhole := Spells.withDefault source raw rawDefault hclose hmark hdefault
        exact absurd (by simp) (hnone _ _ [] hwhole)

/-- The opening of a token falls behind a cut, across it, or in front of it. -/
theorem opening_cases {m e : List Char} (h : opening ++ rest = m ++ e) :
    (m = [] ∧ e = '{' :: '!' :: rest) ∨ (m = ['{'] ∧ e = '!' :: rest) ∨
      ∃ m', m = opening ++ m' := by
  match m, h with
  | [], h => exact .inl ⟨rfl, h.symm⟩
  | [c], h =>
    obtain ⟨rfl, he⟩ := List.cons.inj h
    exact .inr (.inl ⟨rfl, he.symm⟩)
  | c :: d :: m', h =>
    obtain ⟨rfl, htail⟩ := List.cons.inj h
    obtain ⟨rfl, -⟩ := List.cons.inj htail
    exact .inr (.inr ⟨m', rfl⟩)

/-- A token has one opening in front of its key. -/
theorem no_second_opening {source : Source} {raw m : List Char} (hmark : '!' ∉ raw) (hu : u ≠ []) :
    opening ++ (source.tag ++ ':' :: raw) ≠ u ++ (opening ++ m) := by
  intro h
  match u, h with
  | [c], h => cases (List.cons.inj (List.cons.inj h).2).1
  | c :: d :: u', h =>
    have hkey : source.tag ++ ':' :: raw = u' ++ (opening ++ m) :=
      (List.cons.inj (List.cons.inj h).2).2
    have hmem : '!' ∈ source.tag ++ ':' :: raw := by
      rw [hkey]
      simp [opening]
    have htag : '!' ∉ source.tag := by cases source <;> decide
    simp [htag, hmark] at hmem

/-- An opening that comes behind the start of a key ends it, or its brace is the last character of
the key. -/
theorem key_ends {source : Source} {raw m e : List Char} (hmark : '!' ∉ raw) (hu : u ≠ [])
    (hkey : opening ++ (source.tag ++ ':' :: raw) = u ++ m) (hm : opening ++ rest = m ++ e) :
    e = '{' :: '!' :: rest ∨ e = '!' :: rest := by
  rcases opening_cases hm with ⟨-, he⟩ | ⟨-, he⟩ | ⟨m', rfl⟩
  · exact .inl he
  · exact .inr he
  · exact absurd hkey (no_second_opening hmark hu)

/-- In front of an opening that starts no default, only a default can go on to be a token. -/
theorem inDefault_of_spells_opening {text after : List Char} (hspells : t.Spells text)
    (hu : u ≠ []) (hrest : ∀ r, rest ≠ 'D' :: r) (hnone : NoneAt u)
    (htext : u ++ (opening ++ rest) = text ++ after) : InDefault u := by
  cases hspells with
  | plain source raw hclose hmark =>
    exfalso
    have hsplit : u ++ (opening ++ rest) =
        (opening ++ (source.tag ++ ':' :: raw)) ++ ('}' :: after) := by
      rw [htext]
      simp
    rcases List.append_eq_append_iff.1 hsplit with ⟨m, hkey, hm⟩ | ⟨m, rfl, hm⟩
    · rcases key_ends hmark hu hkey hm with he | he
      · cases (List.cons.inj he).1
      · cases (List.cons.inj he).1
    · cases m with
      | nil => cases (List.cons.inj hm).1
      | cons c m =>
        obtain ⟨rfl, -⟩ := List.cons.inj hm
        exact hnone _ _ m (.plain source raw hclose hmark) (by simp)
  | withDefault source raw rawDefault hclose hmark hdefault =>
    have hsplit : u ++ (opening ++ rest) = (opening ++ (source.tag ++ ':' :: raw)) ++
        (defaultMarker ++ (rawDefault ++ '}' :: after)) := by
      rw [htext]
      simp
    rcases List.append_eq_append_iff.1 hsplit with ⟨m, hkey, hm⟩ | ⟨m, rfl, hm⟩
    · exfalso
      rcases key_ends hmark hu hkey hm with he | he
      · cases (List.cons.inj he).1
      · exact hrest _ (List.cons.inj he).2.symm
    · rcases default_cases hdefault hm with
        ⟨c, m', hmarker, he⟩ | ⟨start, hstart, rfl⟩ | ⟨tail, rfl, -⟩
      · obtain ⟨rfl, -⟩ := List.cons.inj he
        have hmem : '{' ∈ defaultMarker := by
          rw [hmarker]
          simp
        exact absurd hmem (by decide)
      · exact ⟨source, raw, start, hclose, hmark, hstart, rfl⟩
      · exact absurd (by simp)
          (hnone _ _ tail (.withDefault source raw rawDefault hclose hmark hdefault))

end Token

namespace Placeholder

variable {left right s u w : List Char} {c : Char} {p : Placeholder} {t : Token}

/-- No token stands in the text, and none begins at its end. -/
structure Literal (s : List Char) : Prop where
  find_eq_none : find s = none
  not_begins : ∀ u, u ≠ [] → u <:+ s → ¬ Token.Begins u

theorem noneAt_of_find (h : find s = none) (hu : u <:+ s) : Token.NoneAt u := by
  obtain ⟨left, rfl⟩ := hu
  rintro t text after hspells rfl
  exact find_eq_none_iff_not_in.1 h ⟨left, t, after⟩ ⟨text, hspells, by simp⟩

theorem Literal.tail (h : Literal (c :: s)) : Literal s where
  find_eq_none := by
    rw [find_eq_none_iff_not_in]
    intro p hp
    exact find_eq_none_iff_not_in.1 h.find_eq_none _ (in_cons_iff.2 (.inr ⟨p, hp, rfl⟩))
  not_begins u hne hu := h.not_begins u hne (hu.trans (List.suffix_cons c s))

/-- A text without an opening brace is literal. -/
theorem literal_of_no_brace (hs : '{' ∉ s) : Literal s where
  find_eq_none := by
    rw [find_eq_none_iff_not_in]
    rintro p ⟨text, hspells, rfl⟩
    obtain ⟨rest, rfl⟩ := hspells.opening_isPrefix
    exact hs (by simp [Token.opening])
  not_begins := by
    rintro u hne ⟨left, rfl⟩ ⟨t, text, hspells, rest, rfl⟩
    cases u with
    | nil => exact hne rfl
    | cons c u =>
      obtain ⟨tail, htail⟩ := hspells.opening_isPrefix
      obtain ⟨rfl, -⟩ := List.cons.inj htail
      exact hs (by simp)

/-- No token starts with a literal text, whatever follows it. -/
theorem Literal.match?_append (h : Literal (c :: s)) (right : List Char) :
    Token.match? (c :: s ++ right) = none := by
  cases hmatch : Token.match? (c :: s ++ right) with
  | none => rfl
  | some found =>
    exfalso
    obtain ⟨text, hspells, htext⟩ := Token.match?_eq_some_iff.1 hmatch
    rcases List.append_eq_append_iff.1 htext with ⟨rest, rfl, -⟩ | ⟨rest, hrest, -⟩
    · -- the text ends inside the token
      exact h.not_begins (c :: s) (List.cons_ne_nil c s) (List.suffix_refl _)
        ⟨found.1, _, hspells, List.prefix_append _ rest⟩
    · -- the token ends inside the text
      exact noneAt_of_find h.find_eq_none (List.suffix_refl _) _ _ rest hspells hrest

/-- A literal text is passed over. -/
theorem Literal.find_append (h : Literal left) (right : List Char) :
    find (left ++ right) = (find right).map (behind left) := by
  induction left with
  | nil => rw [behind_nil, Option.map_id, List.nil_append, id]
  | cons c left ih =>
    have hhead : Token.match? (c :: (left ++ right)) = none := h.match?_append right
    rw [List.cons_append, find_of_no_match hhead, ih h.tail, Option.map_map]
    rfl

/-! ## The text before the leftmost placeholder -/

/-- What is found is the leftmost placeholder if it stands in the text and no token starts further
left. -/
theorem find_of_noneAt {text after : List Char} (hspells : t.Spells text)
    (hnone : ∀ l u, left = l ++ u → u ≠ [] → Token.NoneAt (u ++ (text ++ after))) :
    find (left ++ (text ++ after)) = some ⟨left, t, after⟩ := by
  rw [find_eq_some_iff_leftmost]
  refine ⟨⟨text, hspells, by simp⟩, ?_⟩
  rintro q ⟨own, hown, hs⟩
  by_contra hlt
  have hprefix : q.before <+: left := by
    refine List.prefix_of_prefix_length_le ⟨own ++ q.after, ?_⟩
      (List.prefix_append left (text ++ after)) (Nat.le_of_not_le hlt)
    rw [hs]
    simp
  obtain ⟨u, rfl⟩ := hprefix
  have hu : u ≠ [] := by
    rintro rfl
    simp at hlt
  refine hnone q.before u rfl hu q.token own q.after hown ?_
  have hsame : q.before ++ (u ++ (text ++ after)) = q.before ++ (own ++ q.after) := by
    rw [← List.append_assoc, hs, List.append_assoc]
  exact List.append_cancel_left hsame

/-- Before the leftmost placeholder no token stands. -/
theorem find_before_eq_none (h : find s = some p) : find p.before = none := by
  rw [find_eq_none_iff_not_in]
  rintro q ⟨text, hspells, hbefore⟩
  obtain ⟨⟨own, hown, hs⟩, hleast⟩ := find_eq_some_iff_leftmost.1 h
  have hq : In ⟨q.before, q.token, q.after ++ own ++ p.after⟩ s :=
    ⟨text, hspells, by rw [hs, hbefore]; simp⟩
  have hle := hleast _ hq
  obtain ⟨tail, rfl⟩ := hspells.opening_isPrefix
  rw [hbefore] at hle
  simp only [List.length_append, Token.opening, List.length_cons] at hle
  omega

/-- In front of the leftmost placeholder no default has begun, as it would go on into that one. -/
theorem not_inDefault_before {s u : List Char} {p : Placeholder} (hfind : find s = some p)
    (hu : u <:+ p.before) : ¬ Token.InDefault u := by
  intro hdefault
  obtain ⟨⟨own, hown, rfl⟩, hleast⟩ := find_eq_some_iff_leftmost.1 hfind
  obtain ⟨l, hl⟩ := hu
  have hclose : '}' ∈ own ++ p.after :=
    List.mem_append_left _ (hown.close_isSuffix.subset (List.mem_singleton_self _))
  obtain ⟨t, text, after, hspells, htext⟩ := hdefault.exists_spells hclose
  have hle : p.before.length ≤ l.length :=
    hleast ⟨l, t, after⟩ ⟨text, hspells, by rw [← hl]; simpa using htext⟩
  obtain ⟨source, raw, rawDefault, -, -, -, rfl⟩ := hdefault
  rw [← hl] at hle
  simp only [List.length_append, Token.opening, List.length_cons] at hle
  omega

/-! ## Texts that are not literal -/

/-- Of the beginnings of a token at the end of a text one is the longest. -/
theorem exists_longest_beginning (h : ∃ u, u ≠ [] ∧ u <:+ s ∧ Token.Begins u) :
    ∃ l u, s = l ++ u ∧ u ≠ [] ∧ Token.Begins u ∧
      ∀ u', u' ≠ [] → u' <:+ l → ¬ Token.Begins (u' ++ u) := by
  induction s with
  | nil =>
    obtain ⟨u, hne, hu, -⟩ := h
    exact absurd (List.suffix_nil.1 hu) hne
  | cons c s ih =>
    by_cases hwhole : Token.Begins (c :: s)
    · exact ⟨[], c :: s, rfl, List.cons_ne_nil c s, hwhole,
        fun u' hne hu' ↦ absurd (List.suffix_nil.1 hu') hne⟩
    · obtain ⟨u, hne, hu, hbegins⟩ := h
      rcases List.suffix_cons_iff.1 hu with rfl | hu
      · exact absurd hbegins hwhole
      · obtain ⟨l, u₁, rfl, hne₁, hbegins₁, hlongest⟩ := ih ⟨u, hne, hu, hbegins⟩
        refine ⟨c :: l, u₁, rfl, hne₁, hbegins₁, fun u' hne' hu' ↦ ?_⟩
        rcases List.suffix_cons_iff.1 hu' with rfl | hu'
        · exact hwhole
        · exact hlongest u' hne' hu'

/-- When the longest beginning is finished, the token that it began is the leftmost one. -/
theorem find_finished {l : List Char} (hnone : find (l ++ u) = none)
    (hlongest : ∀ u', u' ≠ [] → u' <:+ l → ¬ Token.Begins (u' ++ u)) (hspells : t.Spells (u ++ w)) :
    find (l ++ (u ++ w)) = some ⟨l, t, []⟩ := by
  suffices hfind : find (l ++ (u ++ w ++ [])) = some ⟨l, t, []⟩ by
    rwa [List.append_nil] at hfind
  refine find_of_noneAt hspells ?_
  rintro l' u' rfl hu' t' text after hspells' htext
  rw [List.append_nil, ← List.append_assoc] at htext
  rcases List.append_eq_append_iff.1 htext with ⟨rest, rfl, -⟩ | ⟨rest, hrest, -⟩
  · -- the other token would be a longer beginning
    exact hlongest u' hu' (List.suffix_append l' u') ⟨t', _, hspells', List.prefix_append _ rest⟩
  · -- the other token stood there before
    refine noneAt_of_find hnone ⟨l', ?_⟩ t' text rest hspells' hrest
    rw [List.append_assoc]

/-- Behind a text without placeholders, in which no default has begun, each token is found, whatever
follows it. -/
theorem find_followed {text : List Char} (hnone : find left = none)
    (hdefault : ∀ u, u <:+ left → ¬ Token.InDefault u) (hspells : t.Spells text)
    (after : List Char) : find (left ++ (text ++ after)) = some ⟨left, t, after⟩ := by
  refine find_of_noneAt hspells ?_
  rintro l u rfl hu t' own rest hown htext
  have hsuffix : u <:+ l ++ u := List.suffix_append l u
  obtain ⟨c, body, rfl, hc⟩ := hspells.exists_rest
  rw [List.append_assoc] at htext
  have hbody : ∀ r, c :: body ++ after ≠ 'D' :: r := fun r hr ↦ hc (List.cons.inj hr).1
  exact hdefault u hsuffix
    (Token.inDefault_of_spells_opening hown hu hbody (noneAt_of_find hnone hsuffix) htext)

/-- Behind a text without placeholders, a text without a closing brace finishes none. -/
theorem find_append_of_no_close (hleft : find left = none) (hright : '}' ∉ right) :
    find (left ++ right) = none := by
  rw [find_eq_none_iff_not_in]
  rintro p ⟨text, hspells, htext⟩
  obtain ⟨body, rfl⟩ := hspells.close_isSuffix
  have hsplit : left ++ right = (p.before ++ body) ++ ('}' :: p.after) := by
    rw [htext]
    simp
  rcases List.append_eq_append_iff.1 hsplit with ⟨m, -, rfl⟩ | ⟨m, rfl, hm⟩
  · exact hright (by simp)
  · cases m with
    | nil => exact hright (by rw [← List.nil_append right, ← hm]; simp)
    | cons c m =>
      obtain ⟨rfl, -⟩ := List.cons.inj hm
      exact find_eq_none_iff_not_in.1 hleft ⟨p.before, p.token, m⟩ ⟨_, hspells, by simp⟩

end Placeholder

end ConfigResolver
