import ConfigResolver.Placeholder.Find
import ConfigResolver.Proofs.Text.Search

/-!
# The matcher and the grammar

`Token.Spells` says which texts are tokens, `Token.match?` reads one token off the front of a text.
Here the two are shown to agree in both directions (`Token.match?_eq_some_iff`), and the search for
a placeholder is described without the matcher: `Placeholder.In` says that a placeholder is some
reading of a text, and `Placeholder.find` answers the one that starts furthest to the left.

The matcher stops at the first colon, at the first closing brace or exclamation mark, and at the
first closing brace again. None of these can be passed by a longer reading, so a text has at most
one token at its start, which is why completeness needs no case of its own for overlaps.
-/

namespace ConfigResolver

open Text

/-! ## Reading one token -/

namespace Token

variable {s after raw rest tag body : List Char} {c : Char} {t : Token}
  {fallback : Option (List Char)} {source : Source}

theorem forall_beq_eq_false_iff : (∀ x ∈ s, (x == c) = false) ↔ c ∉ s := by
  constructor
  · intro h hc
    simpa using h c hc
  · intro h x hx
    exact beq_eq_false_iff_ne.2 fun hc ↦ h (hc ▸ hx)

theorem forall_endsKey_eq_false_iff : (∀ x ∈ s, endsKey x = false) ↔ '}' ∉ s ∧ '!' ∉ s := by
  simp only [endsKey, Bool.or_eq_false_iff]
  rw [← forall_beq_eq_false_iff, ← forall_beq_eq_false_iff]
  exact ⟨fun h ↦ ⟨fun x hx ↦ (h x hx).1, fun x hx ↦ (h x hx).2⟩,
    fun h x hx ↦ ⟨h.1 x hx, h.2 x hx⟩⟩

@[simp] theorem matchEnd?_close : matchEnd? ('}' :: after) = some (none, after) := rfl

theorem isPrefixOf?_append (xs ys : List Char) : xs.isPrefixOf? (xs ++ ys) = some ys :=
  List.isPrefixOf?_eq_some_iff_append_eq.2 rfl

theorem isPrefixOf?_eq_none {xs ys : List Char} (h : ¬ xs <+: ys) : xs.isPrefixOf? ys = none := by
  cases hp : xs.isPrefixOf? ys with
  | none => rfl
  | some rest => exact absurd ⟨rest, List.isPrefixOf?_eq_some_iff_append_eq.1 hp⟩ h

/-- What does not start with a closing brace has to start with the marker of a default. -/
theorem matchEnd?_of_not_close (h : ¬ ['}'] <+: s) :
    matchEnd? s = match defaultMarker.isPrefixOf? s with
      | none => none
      | some rest =>
        match rest.dropWhile (· ≠ '}') with
        | [] => none
        | _ :: after => some (fallbackOf (rest.takeWhile (· ≠ '}')), after) := by
  unfold matchEnd?
  split
  · exact absurd ⟨_, rfl⟩ h
  · rfl

theorem not_close_prefix_default : ¬ ['}'] <+: defaultMarker ++ rest := by
  rintro ⟨_, h⟩
  exact absurd (List.cons.inj h).1 (by decide)

theorem matchEnd?_default (hraw : '}' ∉ raw) :
    matchEnd? (defaultMarker ++ (raw ++ '}' :: after)) = some (fallbackOf raw, after) := by
  have hall : ∀ x ∈ raw, decide (x ≠ '}') = true := fun _ hx ↦
    decide_eq_true fun hc ↦ hraw (hc ▸ hx)
  simp only [matchEnd?_of_not_close not_close_prefix_default, isPrefixOf?_append,
    dropWhile_of_split hall (c := '}') (by simp), takeWhile_of_split hall (c := '}') (by simp)]

theorem matchEnd?_unclosed (hrest : '}' ∉ rest) : matchEnd? (defaultMarker ++ rest) = none := by
  have hall : ∀ x ∈ rest, decide (x ≠ '}') = true := fun _ hx ↦
    decide_eq_true fun hc ↦ hrest (hc ▸ hx)
  simp only [matchEnd?_of_not_close not_close_prefix_default, isPrefixOf?_append,
    List.dropWhile_eq_nil_iff.2 hall]

theorem matchEnd?_of_neither (hclose : ¬ ['}'] <+: s) (hmarker : ¬ defaultMarker <+: s) :
    matchEnd? s = none := by
  rw [matchEnd?_of_not_close hclose, isPrefixOf?_eq_none hmarker]

/-- The four ways in which a text can go on after a raw key. -/
theorem end_cases (s : List Char) :
    (∃ after, s = '}' :: after) ∨
      (∃ raw after, '}' ∉ raw ∧ s = defaultMarker ++ (raw ++ '}' :: after)) ∨
        (∃ rest, '}' ∉ rest ∧ s = defaultMarker ++ rest) ∨
          (¬ ['}'] <+: s ∧ ¬ defaultMarker <+: s) := by
  by_cases hclose : ['}'] <+: s
  · obtain ⟨after, rfl⟩ := hclose
    exact .inl ⟨after, rfl⟩
  · by_cases hmarker : defaultMarker <+: s
    · obtain ⟨rest, rfl⟩ := hmarker
      rcases exists_split (· == '}') rest with hrest | ⟨raw, c, after, rfl, hraw, hc⟩
      · exact .inr (.inr (.inl ⟨rest, forall_beq_eq_false_iff.1 hrest, rfl⟩))
      · obtain rfl : c = '}' := by simpa using hc
        exact .inr (.inl ⟨raw, after, forall_beq_eq_false_iff.1 hraw, rfl⟩)
    · exact .inr (.inr (.inr ⟨hclose, hmarker⟩))

/-- After the key there is a closing brace, or a default up to the next closing brace. -/
theorem matchEnd?_eq_some_iff :
    matchEnd? s = some (fallback, after) ↔
      (fallback = none ∧ s = '}' :: after) ∨
        ∃ raw, '}' ∉ raw ∧ fallback = fallbackOf raw ∧
          s = defaultMarker ++ (raw ++ '}' :: after) := by
  constructor
  · intro h
    rcases end_cases s with ⟨rest, rfl⟩ | ⟨raw, rest, hraw, rfl⟩ | ⟨rest, hrest, rfl⟩ | ⟨h₁, h₂⟩
    · cases h
      exact .inl ⟨rfl, rfl⟩
    · rw [matchEnd?_default hraw] at h
      cases h
      exact .inr ⟨raw, hraw, rfl, rfl⟩
    · rw [matchEnd?_unclosed hrest] at h
      cases h
    · rw [matchEnd?_of_neither h₁ h₂] at h
      cases h
  · rintro (⟨rfl, rfl⟩ | ⟨raw, hraw, rfl, rfl⟩)
    · rfl
    · exact matchEnd?_default hraw

theorem suffix_of_matchEnd? {found : Option (List Char) × List Char}
    (h : matchEnd? s = some found) : found.2 <:+ s := by
  rcases matchEnd?_eq_some_iff.1 h with ⟨-, rfl⟩ | ⟨raw, -, -, rfl⟩
  · exact List.suffix_cons ..
  · exact ⟨defaultMarker ++ (raw ++ ['}']), by simp⟩

theorem matchBody?_of_split (hraw : ∀ x ∈ raw, endsKey x = false) (hc : endsKey c = true) :
    matchBody? source (raw ++ c :: rest) =
      (matchEnd? (c :: rest)).map fun found ↦ (⟨source, trim raw, found.1⟩, found.2) := by
  have hall : ∀ x ∈ raw, (!endsKey x) = true := fun x hx ↦ by rw [hraw x hx]; rfl
  unfold matchBody?
  rw [dropWhile_of_split hall (by simp [hc]), takeWhile_of_split hall (by simp [hc])]
  cases matchEnd? (c :: rest) <;> rfl

theorem matchBody?_of_no_end (hs : ∀ x ∈ s, endsKey x = false) : matchBody? source s = none := by
  have hall : ∀ x ∈ s, (!endsKey x) = true := fun x hx ↦ by rw [hs x hx]; rfl
  unfold matchBody?
  rw [List.dropWhile_eq_nil_iff.2 hall]
  rfl

/-- A raw key runs up to the first closing brace or exclamation mark. -/
theorem matchBody?_eq_some_iff :
    matchBody? source s = some (t, after) ↔
      ∃ raw rest fallback, '}' ∉ raw ∧ '!' ∉ raw ∧ s = raw ++ rest ∧
        matchEnd? rest = some (fallback, after) ∧ t = ⟨source, trim raw, fallback⟩ := by
  constructor
  · intro h
    rcases exists_split endsKey s with hs | ⟨raw, c, rest, rfl, hraw, hc⟩
    · rw [matchBody?_of_no_end hs] at h
      cases h
    · rw [matchBody?_of_split hraw hc] at h
      obtain ⟨⟨fallback, rest'⟩, hend, heq⟩ := Option.map_eq_some_iff.1 h
      cases heq
      obtain ⟨hclose, hmark⟩ := forall_endsKey_eq_false_iff.1 hraw
      exact ⟨raw, c :: rest, fallback, hclose, hmark, rfl, hend, rfl⟩
  · rintro ⟨raw, rest, fallback, hclose, hmark, rfl, hend, rfl⟩
    -- what follows the key starts with a character that ends it
    obtain ⟨c, right, rfl, hc⟩ : ∃ c right, rest = c :: right ∧ endsKey c = true := by
      rcases matchEnd?_eq_some_iff.1 hend with ⟨-, rfl⟩ | ⟨raw, -, -, rfl⟩
      · exact ⟨_, _, rfl, rfl⟩
      · exact ⟨_, _, rfl, rfl⟩
    rw [matchBody?_of_split (forall_endsKey_eq_false_iff.2 ⟨hclose, hmark⟩) hc, hend]
    rfl

theorem match?_of_split (htag : ':' ∉ tag) :
    match? (opening ++ (tag ++ ':' :: body)) =
      (Source.ofTag? tag).bind fun source ↦ matchBody? source body := by
  have hall : ∀ x ∈ tag, decide (x ≠ ':') = true := fun _ hx ↦
    decide_eq_true fun hc ↦ htag (hc ▸ hx)
  unfold match?
  simp only [isPrefixOf?_append, dropWhile_of_split hall (c := ':') (by simp),
    takeWhile_of_split hall (c := ':') (by simp)]
  cases Source.ofTag? tag <;> rfl

theorem match?_of_no_colon (hrest : ':' ∉ rest) : match? (opening ++ rest) = none := by
  have hall : ∀ x ∈ rest, decide (x ≠ ':') = true := fun _ hx ↦
    decide_eq_true fun hc ↦ hrest (hc ▸ hx)
  unfold match?
  simp only [isPrefixOf?_append, List.dropWhile_eq_nil_iff.2 hall]

/-- Where the opening does not stand, no token starts. -/
theorem match?_of_no_opening (h : ¬ opening <+: s) : match? s = none := by
  unfold match?
  rw [isPrefixOf?_eq_none h]

theorem colon_notMem_tag (source : Source) : ':' ∉ source.tag := by
  cases source <;> decide

/-- A token starts with the opening, a tag and a colon. -/
theorem match?_eq_some_iff_body :
    match? s = some (t, after) ↔
      ∃ source body, s = opening ++ (source.tag ++ ':' :: body) ∧
        matchBody? source body = some (t, after) := by
  constructor
  · intro h
    by_cases hs : opening <+: s
    · obtain ⟨rest, rfl⟩ := hs
      rcases exists_split (· == ':') rest with hrest | ⟨tag, c, body, rfl, htag, hc⟩
      · rw [match?_of_no_colon (forall_beq_eq_false_iff.1 hrest)] at h
        cases h
      · obtain rfl : c = ':' := by simpa using hc
        rw [match?_of_split (forall_beq_eq_false_iff.1 htag)] at h
        obtain ⟨source, hsource, h⟩ := Option.bind_eq_some_iff.1 h
        exact ⟨source, body, by rw [Source.ofTag?_eq_some_iff.1 hsource], h⟩
    · rw [match?_of_no_opening hs] at h
      cases h
  · rintro ⟨source, body, rfl, h⟩
    rw [match?_of_split (colon_notMem_tag source), Source.ofTag?_tag]
    exact h

/-- The matcher reads exactly the tokens of the grammar, and leaves what follows them. -/
theorem match?_eq_some_iff :
    match? s = some (t, after) ↔ ∃ text, t.Spells text ∧ s = text ++ after := by
  rw [match?_eq_some_iff_body]
  constructor
  · rintro ⟨source, body, rfl, h⟩
    obtain ⟨raw, rest, fallback, hclose, hmark, rfl, hend, rfl⟩ := matchBody?_eq_some_iff.1 h
    rcases matchEnd?_eq_some_iff.1 hend with ⟨rfl, rfl⟩ | ⟨rawDefault, hdefault, rfl, rfl⟩
    · exact ⟨_, .plain source raw hclose hmark, by simp⟩
    · exact ⟨_, .withDefault source raw rawDefault hclose hmark hdefault, by simp⟩
  · rintro ⟨text, hspells, rfl⟩
    cases hspells with
    | plain source raw hclose hmark =>
      refine ⟨source, raw ++ '}' :: after, by simp, matchBody?_eq_some_iff.2 ?_⟩
      exact ⟨raw, _, none, hclose, hmark, rfl, matchEnd?_close, rfl⟩
    | withDefault source raw rawDefault hclose hmark hdefault =>
      refine ⟨source, raw ++ (defaultMarker ++ (rawDefault ++ '}' :: after)), by simp,
        matchBody?_eq_some_iff.2 ?_⟩
      exact ⟨raw, _, _, hclose, hmark, rfl, matchEnd?_default hdefault, rfl⟩

/-- A token begins with the opening. -/
theorem Spells.opening_isPrefix {text : List Char} (h : t.Spells text) : opening <+: text := by
  cases h with
  | plain source raw => exact ⟨source.tag ++ ':' :: raw ++ ['}'], by simp⟩
  | withDefault source raw rawDefault =>
    exact ⟨source.tag ++ ':' :: raw ++ defaultMarker ++ rawDefault ++ ['}'], by simp⟩

end Token

/-! ## The leftmost token -/

namespace Placeholder

variable {c : Char} {left s : List Char} {p q : Placeholder}

/-- `p.In s`: the text `s` is the text before `p`, some spelling of its token, and the text after
it. -/
def In (p : Placeholder) (s : List Char) : Prop :=
  ∃ text, p.token.Spells text ∧ s = p.before ++ text ++ p.after

/-- The placeholder seen from further left, across the characters `left`. -/
def behind (left : List Char) (p : Placeholder) : Placeholder :=
  { p with before := left ++ p.before }

@[simp] theorem behind_nil : behind [] = id := rfl

/-- A placeholder of a text either starts at its first character or stands in what follows it. -/
theorem in_cons_iff :
    p.In (c :: s) ↔
      (p.before = [] ∧ Token.match? (c :: s) = some (p.token, p.after)) ∨
        ∃ q : Placeholder, q.In s ∧ p = q.shift c := by
  constructor
  · rintro ⟨text, hspells, hs⟩
    rcases p with ⟨before, t, after⟩
    cases before with
    | nil => exact .inl ⟨rfl, Token.match?_eq_some_iff.2 ⟨text, hspells, hs⟩⟩
    | cons d before =>
      obtain ⟨rfl, hs⟩ := List.cons.inj hs
      exact .inr ⟨⟨before, t, after⟩, ⟨text, hspells, hs⟩, rfl⟩
  · rintro (⟨hbefore, hmatch⟩ | ⟨q, ⟨text, hspells, rfl⟩, rfl⟩)
    · obtain ⟨text, hspells, hs⟩ := Token.match?_eq_some_iff.1 hmatch
      exact ⟨text, hspells, by rw [hs, hbefore, List.nil_append]⟩
    · exact ⟨text, hspells, rfl⟩

theorem not_in_nil : ¬ p.In [] := by
  rintro ⟨text, hspells, hs⟩
  obtain ⟨rest, rfl⟩ := hspells.opening_isPrefix
  simp [Token.opening] at hs

theorem find_opening_of_match {rest after : List Char} {t : Token}
    (h : Token.match? (Token.opening ++ rest) = some (t, after)) :
    find (Token.opening ++ rest) = some ⟨[], t, after⟩ := find_of_match h

/-- Behind an opening that starts no token the search goes on at the exclamation mark. -/
theorem find_opening_of_no_match {rest : List Char}
    (h : Token.match? (Token.opening ++ rest) = none) :
    find (Token.opening ++ rest) = (find ('!' :: rest)).map (shift '{') := find_of_no_match h

/-- What is found stands in the text. -/
theorem in_of_find (h : find s = some p) : p.In s := by
  induction s generalizing p with
  | nil => cases h
  | cons c s ih =>
    cases hmatch : Token.match? (c :: s) with
    | some found =>
      rw [find_of_match hmatch] at h
      cases h
      exact in_cons_iff.2 (.inl ⟨rfl, hmatch⟩)
    | none =>
      rw [find_of_no_match hmatch] at h
      obtain ⟨q, hq, rfl⟩ := Option.map_eq_some_iff.1 h
      exact in_cons_iff.2 (.inr ⟨q, ih hq, rfl⟩)

/-- Every placeholder of a text is the one that is found, or starts further right. -/
theorem find_of_in (h : p.In s) :
    ∃ q, find s = some q ∧ (q = p ∨ q.before.length < p.before.length) := by
  induction s generalizing p with
  | nil => exact absurd h not_in_nil
  | cons c s ih =>
    cases hmatch : Token.match? (c :: s) with
    | some found =>
      refine ⟨_, find_of_match hmatch, ?_⟩
      rcases in_cons_iff.1 h with ⟨hbefore, hp⟩ | ⟨q, -, rfl⟩
      · rw [hmatch] at hp
        rcases p with ⟨before, t, after⟩
        cases hbefore
        cases hp
        exact .inl rfl
      · exact .inr (Nat.succ_pos _)
    | none =>
      rcases in_cons_iff.1 h with ⟨-, hp⟩ | ⟨q, hq, rfl⟩
      · rw [hmatch] at hp
        cases hp
      · obtain ⟨first, hfirst, hle⟩ := ih hq
        refine ⟨first.shift c, by rw [find_of_no_match hmatch, hfirst]; rfl, ?_⟩
        exact hle.imp (congrArg (shift c)) Nat.succ_lt_succ

/-- Nothing is found exactly in a text without placeholders. -/
theorem find_eq_none_iff_not_in : find s = none ↔ ∀ p : Placeholder, ¬ p.In s := by
  constructor
  · intro h p hp
    obtain ⟨q, hq, -⟩ := find_of_in hp
    rw [h] at hq
    cases hq
  · intro h
    cases hfind : find s with
    | none => rfl
    | some p => exact absurd (in_of_find hfind) (h p)

/-- The placeholder that is found is the leftmost one of the text, and the only one that starts
there. -/
theorem find_eq_some_iff_leftmost :
    find s = some p ↔ p.In s ∧ ∀ q : Placeholder, q.In s → p.before.length ≤ q.before.length := by
  constructor
  · intro h
    refine ⟨in_of_find h, fun q hq ↦ ?_⟩
    obtain ⟨first, hfirst, hle⟩ := find_of_in hq
    rw [h] at hfirst
    cases hfirst
    exact hle.elim (fun heq ↦ heq ▸ Nat.le_refl _) Nat.le_of_lt
  · rintro ⟨hp, hleast⟩
    obtain ⟨first, hfirst, rfl | hlt⟩ := find_of_in hp
    · exact hfirst
    · exact absurd (hleast first (in_of_find hfirst)) (Nat.not_le.2 hlt)

-- the first opening starts no token, as its key would hold an exclamation mark
example : find "\x7b!ENV: a \x7b!ENV: b\x7d".toList =
    some ⟨"\x7b!ENV: a ".toList, ⟨.environment, ['b'], none⟩, []⟩ := by decide

/-- Only a text with an opening holds a placeholder, so the test for an opening changes nothing. -/
theorem occurs_eq_isSome_find (s : List Char) : occurs s = (find s).isSome := by
  unfold occurs
  cases hfind : find s with
  | none => simp
  | some p =>
    obtain ⟨text, hspells, rfl⟩ := in_of_find hfind
    obtain ⟨rest, rfl⟩ := hspells.opening_isPrefix
    have hpart := hasPart_of_split (show Token.opening ≠ [] by decide) p.before (rest ++ p.after)
    simp only [List.append_assoc] at hpart ⊢
    simp [hpart]

/-- A stretch of a text in which no opening stands is passed over. -/
theorem find_append_of_no_opening (left right : List Char)
    (h : ∀ l r, left ++ right = l ++ r → Token.opening <+: r → left.length ≤ l.length) :
    find (left ++ right) = (find right).map (behind left) := by
  induction left with
  | nil => rw [behind_nil, Option.map_id, List.nil_append, id]
  | cons c left ih =>
    have hno : ¬ Token.opening <+: c :: (left ++ right) := fun hp ↦ by
      simpa using h [] _ rfl hp
    have htail : find (left ++ right) = (find right).map (behind left) :=
      ih fun l r hlr hp ↦
        Nat.le_of_succ_le_succ (h (c :: l) r (by rw [List.cons_append, hlr]; rfl) hp)
    rw [List.cons_append, find_of_no_match (Token.match?_of_no_opening hno), htail,
      Option.map_map]
    rfl

end Placeholder

end ConfigResolver
