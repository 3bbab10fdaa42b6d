import ConfigResolver.Proofs.Placeholder.Scanning

/-!
# Where a scanner stands and cuts

`Computes` lists the offsets that a round computes, one rule for each sum of offsets, and a round
cuts its text nowhere else (`exists_round`). Every search that leads from one offset to another ends
at a character of one byte, so what is one byte further on is a boundary between characters again.
`Part.expected` says which character that is, and with it each rule leads from boundaries to
boundaries (`Computes.exists_slice`).

`Visited` are the states of a scanner that is asked again and again, those between two rounds of a
search included. Main statement: `visited_stays_inside`.
-/

namespace ConfigResolver

/-! ## Boundaries -/

namespace Text

variable {left right s : List Char} {i n : Nat}

/-- The offset lies between two characters of a text, or at one of its ends. -/
def IsBoundary (s : List Char) (i : Nat) : Prop :=
  ∃ left right, s = left ++ right ∧ i = byteLength left

theorem IsBoundary.le (h : IsBoundary s i) : i ≤ byteLength s := by
  obtain ⟨left, right, rfl, rfl⟩ := h
  rw [byteLength_append]
  exact Nat.le_add_right _ _

theorem cutBytes?_append (left right : List Char) (n : Nat) :
    cutBytes? (byteLength left + n) (left ++ right) =
      (cutBytes? n right).map fun cut ↦ (left ++ cut.1, cut.2) := by
  induction left with
  | nil => simp
  | cons c left ih =>
    rw [List.cons_append, byteLength_cons, Nat.add_assoc, cutBytes?_cons, ih, Option.map_map]
    rfl

/-- A boundary behind the first part of a text is one of the second part. -/
theorem IsBoundary.of_append (h : IsBoundary (left ++ right) (byteLength left + n)) :
    IsBoundary right n := by
  obtain ⟨l, r, hs, hn⟩ := h
  have hcut := cutBytes?_eq_some_iff.2 ⟨hs, hn⟩
  rw [cutBytes?_append] at hcut
  obtain ⟨cut, hcut, -⟩ := Option.map_eq_some_iff.1 hcut
  exact ⟨cut.1, cut.2, cutBytes?_eq_some_iff.1 hcut⟩

theorem exists_of_findByte? {p : Char → Bool} (h : findByte? p s = some n) :
    ∃ left c right, s = left ++ c :: right ∧ n = byteLength left ∧ p c = true := by
  rcases exists_split p s with hnone | ⟨left, c, right, rfl, hleft, hc⟩
  · rw [findByte?_eq_none hnone] at h
    cases h
  · rw [findByte?_of_split hleft hc] at h
    cases h
    exact ⟨left, c, right, rfl, rfl, hc⟩

theorem exists_of_findPart? {part : List Char} (hpart : part ≠ []) (h : findPart? part s = some n) :
    ∃ left right, s = left ++ (part ++ right) ∧ n = byteLength left := by
  rcases exists_split_part part s hpart with ⟨hnone, -⟩ | ⟨left, right, rfl, hleft, -⟩
  · rw [hnone] at h
    cases h
  · rw [hleft] at h
    cases h
    exact ⟨left, right, List.append_assoc .., rfl⟩

end Text

namespace Scanner

open Text Placeholder

variable {scanner after : Scanner} {s rest mid : List Char} {i n : Nat}

/-! ## Slices at boundaries -/

theorem sliceFrom_eq_ok_iff :
    sliceFrom s i = .ok rest ↔ ∃ left, s = left ++ rest ∧ i = byteLength left := by
  rw [sliceFrom]
  constructor
  · intro h
    split at h
    · next left right hcut =>
      cases h
      exact ⟨left, cutBytes?_eq_some_iff.1 hcut⟩
    · cases h
  · rintro ⟨left, rfl, rfl⟩
    rw [cutBytes?_byteLength]

theorem isBoundary_iff : IsBoundary s i ↔ ∃ rest, sliceFrom s i = .ok rest := by
  simp only [sliceFrom_eq_ok_iff]
  exact exists_comm

theorem exists_sliceTo (h : IsBoundary s i) : ∃ left, sliceTo s i = .ok left := by
  obtain ⟨left, right, rfl, rfl⟩ := h
  exact ⟨left, sliceTo_byteLength left right⟩

/-- What is behind a part of the text behind an offset. -/
theorem sliceFrom_add (h : sliceFrom s i = .ok (mid ++ rest)) :
    sliceFrom s (i + byteLength mid) = .ok rest := by
  obtain ⟨left, rfl, rfl⟩ := sliceFrom_eq_ok_iff.1 h
  rw [← byteLength_append, ← List.append_assoc, sliceFrom_byteLength]

/-- What is one byte behind an offset where a character of one byte stands. -/
theorem exists_sliceFrom_succ {c : Char} (hc : c.utf8Size = 1)
    (h : ∃ rest, sliceFrom s i = .ok rest ∧ [c] <+: rest) :
    ∃ rest, sliceFrom s (i + 1) = .ok rest := by
  obtain ⟨-, hrest, right, rfl⟩ := h
  have hright := sliceFrom_add hrest
  rw [byteLength_cons, byteLength_nil, hc] at hright
  exact ⟨right, hright⟩

/-- What is where a search in the text behind an offset ends. -/
theorem exists_sliceFrom_of_findByte? {p : Char → Bool} (hrest : sliceFrom s i = .ok rest)
    (hn : findByte? p rest = some n) :
    ∃ c right, sliceFrom s (i + n) = .ok (c :: right) ∧ p c = true := by
  obtain ⟨left, c, right, rfl, rfl, hc⟩ := exists_of_findByte? hn
  exact ⟨c, right, sliceFrom_add hrest, hc⟩

/-- The text behind an offset can be cut where the whole text can. -/
theorem exists_sliceTo_of_sliceFrom (h : sliceFrom s i = .ok rest) (hn : IsBoundary s (i + n)) :
    ∃ left, sliceTo rest n = .ok left := by
  obtain ⟨left, rfl, rfl⟩ := sliceFrom_eq_ok_iff.1 h
  exact exists_sliceTo hn.of_append

/-! ## The offsets of a round -/

/-- What is at an offset. -/
inductive Part where
  /-- Where the scanner stands. -/
  | position
  /-- The next opening. -/
  | opening
  /-- What is behind the first character of the opening. -/
  | retry
  /-- The tag. -/
  | tag
  /-- The colon behind the tag. -/
  | colon
  /-- The key. -/
  | key
  /-- What ends the key. -/
  | keyEnd
  /-- The default. -/
  | fallback
  /-- What ends the default. -/
  | fallbackEnd
  /-- What is behind the token. -/
  | stop

/-- How the text goes on at a part of a round. -/
def Part.expected : Part → List Char
  | opening => Token.opening
  | colon => [':']
  | fallbackEnd => ['}']
  | _ => []

/-- `scanner.Computes part i`: in its next round the scanner computes the offset `i` for a part. -/
inductive Computes (scanner : Scanner) : Part → Nat → Prop
  /-- The round starts where the scanner stands. -/
  | position : Computes scanner .position scanner.position
  /-- The next opening is searched from there on. -/
  | opening {i n : Nat} {rest : List Char} (h : Computes scanner .position i)
      (hrest : sliceFrom scanner.input i = .ok rest) (hn : findPart? Token.opening rest = some n) :
      Computes scanner .opening (i + n)
  /-- A rejected candidate is left behind its first byte. -/
  | retry {i : Nat} (h : Computes scanner .opening i) : Computes scanner .retry (i + 1)
  /-- The tag follows the opening. -/
  | tag {i : Nat} (h : Computes scanner .opening i) :
      Computes scanner .tag (i + byteLength Token.opening)
  /-- The first colon ends the tag. -/
  | colon {i n : Nat} {rest : List Char} (h : Computes scanner .tag i)
      (hrest : sliceFrom scanner.input i = .ok rest) (hn : findByte? (· == ':') rest = some n) :
      Computes scanner .colon (i + n)
  /-- The key follows the colon. -/
  | key {i : Nat} (h : Computes scanner .colon i) : Computes scanner .key (i + 1)
  /-- The first closing brace or exclamation mark ends the key. -/
  | keyEnd {i n : Nat} {rest : List Char} (h : Computes scanner .key i)
      (hrest : sliceFrom scanner.input i = .ok rest)
      (hn : findByte? (fun c ↦ c == '}' || c == '!') rest = some n) :
      Computes scanner .keyEnd (i + n)
  /-- A closing brace behind the key ends the token. -/
  | close {i : Nat} {rest : List Char} (h : Computes scanner .keyEnd i)
      (hrest : sliceFrom scanner.input i = .ok rest) (hclose : ['}'] <+: rest) :
      Computes scanner .stop (i + 1)
  /-- The default follows its marker. -/
  | fallback {i : Nat} {rest : List Char} (h : Computes scanner .keyEnd i)
      (hrest : sliceFrom scanner.input i = .ok (Token.defaultMarker ++ rest)) :
      Computes scanner .fallback (i + byteLength Token.defaultMarker)
  /-- The first closing brace ends the default. -/
  | fallbackEnd {i n : Nat} {rest : List Char} (h : Computes scanner .fallback i)
      (hrest : sliceFrom scanner.input i = .ok rest) (hn : findByte? (· == '}') rest = some n) :
      Computes scanner .fallbackEnd (i + n)
  /-- It ends the token, too. -/
  | closeFallback {i : Nat} (h : Computes scanner .fallbackEnd i) :
      Computes scanner .stop (i + 1)

/-- From a scanner at a boundary every offset that a round computes is a boundary, and the text goes
on there as it has to. -/
theorem Computes.exists_slice (hposition : IsBoundary scanner.input scanner.position) {part : Part}
    (h : scanner.Computes part i) :
    ∃ rest, sliceFrom scanner.input i = .ok rest ∧ part.expected <+: rest := by
  induction h with
  | position =>
    obtain ⟨rest, hrest⟩ := isBoundary_iff.1 hposition
    exact ⟨rest, hrest, List.nil_prefix⟩
  | opening _ hrest hn =>
    obtain ⟨left, right, rfl, rfl⟩ := exists_of_findPart? (by decide) hn
    exact ⟨_, sliceFrom_add hrest, List.prefix_append _ right⟩
  | retry _ ih =>
    obtain ⟨rest, hrest, hopening⟩ := ih
    obtain ⟨right, hright⟩ := exists_sliceFrom_succ (by decide)
      ⟨rest, hrest, (List.prefix_append ['{'] ['!']).trans hopening⟩
    exact ⟨right, hright, List.nil_prefix⟩
  | tag _ ih =>
    obtain ⟨-, hrest, right, rfl⟩ := ih
    exact ⟨right, sliceFrom_add hrest, List.nil_prefix⟩
  | colon _ hrest hn =>
    obtain ⟨c, right, hslice, hc⟩ := exists_sliceFrom_of_findByte? hrest hn
    obtain rfl : c = ':' := by simpa using hc
    exact ⟨_, hslice, List.prefix_append [':'] right⟩
  | key _ ih =>
    obtain ⟨right, hright⟩ := exists_sliceFrom_succ utf8Size_colon ih
    exact ⟨right, hright, List.nil_prefix⟩
  | keyEnd _ hrest hn =>
    obtain ⟨c, right, hslice, -⟩ := exists_sliceFrom_of_findByte? hrest hn
    exact ⟨_, hslice, List.nil_prefix⟩
  | close _ hrest hclose =>
    obtain ⟨right, hright⟩ := exists_sliceFrom_succ utf8Size_close ⟨_, hrest, hclose⟩
    exact ⟨right, hright, List.nil_prefix⟩
  | fallback _ hrest => exact ⟨_, sliceFrom_add hrest, List.nil_prefix⟩
  | fallbackEnd _ hrest hn =>
    obtain ⟨c, right, hslice, hc⟩ := exists_sliceFrom_of_findByte? hrest hn
    obtain rfl : c = '}' := by simpa using hc
    exact ⟨_, hslice, List.prefix_append ['}'] right⟩
  | closeFallback _ ih =>
    obtain ⟨right, hright⟩ := exists_sliceFrom_succ utf8Size_close ih
    exact ⟨right, hright, List.nil_prefix⟩

theorem Computes.isBoundary (hposition : IsBoundary scanner.input scanner.position) {part : Part}
    (h : scanner.Computes part i) : IsBoundary scanner.input i := by
  obtain ⟨rest, hrest, -⟩ := h.exists_slice hposition
  exact isBoundary_iff.2 ⟨rest, hrest⟩

/-! ## The cuts of a round -/

section Cuts

variable (hinside : ∀ {part : Part} {i : Nat}, scanner.Computes part i → IsBoundary scanner.input i)

include hinside

theorem endAt_cases {cursor : Nat} (h : scanner.Computes .keyEnd cursor) :
    endAt scanner.input cursor = .ok none ∨ ∃ fallback stop,
      endAt scanner.input cursor = .ok (some (fallback, stop)) ∧ scanner.Computes .stop stop := by
  obtain ⟨rest, hrest⟩ := isBoundary_iff.1 (hinside h)
  rw [endAt, hrest, ok_bind]
  split
  · next hclose => exact .inr ⟨_, _, rfl, .close h hrest (List.isPrefixOf_iff_prefix.1 hclose)⟩
  · split
    · exact .inl rfl
    · next behind hmarker =>
      obtain rfl := List.isPrefixOf?_eq_some_iff_append_eq.1 hmarker
      have hfallback := Computes.fallback h hrest
      split
      · exact .inl rfl
      · next length hlength =>
        have hslice := sliceFrom_add hrest
        have hend := Computes.fallbackEnd hfallback hslice hlength
        obtain ⟨raw, hraw⟩ := exists_sliceTo_of_sliceFrom hslice (hinside hend)
        rw [hraw, ok_bind]
        exact .inr ⟨_, _, rfl, .closeFallback hend⟩

theorem exists_placeholderAt {start : Nat} (h : scanner.Computes .opening start) :
    ∃ found, placeholderAt scanner.input start = .ok found := by
  obtain ⟨rest, hrest⟩ := isBoundary_iff.1 (hinside (.tag h))
  rw [placeholderAt]
  simp only [hrest, ok_bind]
  split
  · exact ⟨none, rfl⟩
  · next colon hcolon =>
    have hend := Computes.colon (.tag h) hrest hcolon
    obtain ⟨tag, htag⟩ := exists_sliceTo_of_sliceFrom hrest (hinside hend)
    simp only [htag, ok_bind]
    split
    · exact ⟨none, rfl⟩
    · obtain ⟨body, hbody⟩ := isBoundary_iff.1 (hinside (.key hend))
      simp only [hbody, ok_bind]
      split
      · exact ⟨none, rfl⟩
      · next length hlength =>
        have hkey := Computes.keyEnd (.key hend) hbody hlength
        obtain ⟨raw, hraw⟩ := exists_sliceTo_of_sliceFrom hbody (hinside hkey)
        simp only [hraw, ok_bind]
        rcases endAt_cases hinside hkey with hnone | ⟨fallback, stop, hsome, hstop⟩
        · rw [hnone]
          exact ⟨none, rfl⟩
        · obtain ⟨before, hbefore⟩ := exists_sliceTo (hinside h)
          obtain ⟨behind, hbehind⟩ := isBoundary_iff.1 (hinside hstop)
          rw [hsome]
          simp only [ok_bind, hbefore, hbehind]
          exact ⟨_, rfl⟩

/-- Where the offsets that a round computes are boundaries, no cut of the round is refused. -/
theorem exists_round : ∃ r, scanner.round = .ok r := by
  rw [round]
  split
  · obtain ⟨rest, hrest⟩ := isBoundary_iff.1 (hinside .position)
    rw [hrest, ok_bind]
    split
    · exact ⟨_, rfl⟩
    · next offset hoffset =>
      obtain ⟨found, hfound⟩ := exists_placeholderAt hinside (.opening .position hrest hoffset)
      simp only [hfound, ok_bind]
      cases found <;> exact ⟨_, rfl⟩
  · exact ⟨_, rfl⟩

end Cuts

/-! ## The states of a scanner -/

theorem Settled.isBoundary (h : scanner.Settled) : IsBoundary scanner.input scanner.position := by
  obtain ⟨left, right, rfl, -⟩ := h
  exact ⟨left, right, rfl, rfl⟩

/-- No placeholder starts in front of a settled scanner. -/
theorem Settled.position_le (h : scanner.Settled) {p : Placeholder} (hp : p.In scanner.input) :
    scanner.position ≤ byteLength p.before := by
  obtain ⟨left, right, rfl, hfind⟩ := h
  obtain ⟨first, hfirst, hle⟩ := find_of_in hp
  -- the leftmost placeholder starts behind `left`, and `p` does not start before it
  have hleft : left <+: first.before := by
    rw [hfirst] at hfind
    obtain ⟨q, -, rfl⟩ := Option.map_eq_some_iff.1 hfind.symm
    exact List.prefix_append left q.before
  have hbefore : ∀ {q : Placeholder}, q.In (standing left right).input →
      q.before <+: (standing left right).input := by
    rintro q ⟨text, -, hs⟩
    rw [hs, List.append_assoc]
    exact List.prefix_append _ _
  have hlength : first.before.length ≤ p.before.length :=
    hle.elim (fun heq ↦ heq ▸ Nat.le_refl _) Nat.le_of_lt
  obtain ⟨between, hbetween⟩ := hleft.trans
    (List.prefix_of_prefix_length_le (hbefore (in_of_find hfirst)) (hbefore hp) hlength)
  rw [← hbetween, byteLength_append]
  exact Nat.le_add_right _ _

/-- `Visited s scanner`: a scanner over the text `s` that is asked again and again comes to be
`scanner`. -/
inductive Visited (s : List Char) : Scanner → Prop
  /-- It starts at the start of the text. -/
  | start : Visited s (ofText s)
  /-- In the midst of a search it moves on from a rejected candidate. -/
  | rejected {scanner after : Scanner} (h : Visited s scanner)
      (hround : scanner.round = .ok (.rejected after)) : Visited s after
  /-- It is asked, and stands where the search ended. -/
  | asked {scanner after : Scanner} {found : Option Placeholder} (h : Visited s scanner)
      (hnext : scanner.next = .ok (found, after)) : Visited s after

theorem Visited.settled (h : Visited s scanner) : scanner.input = s ∧ scanner.Settled := by
  induction h with
  | start => exact ⟨rfl, settled_ofText s⟩
  | rejected _ hround ih =>
    obtain ⟨hinput, hsettled⟩ := ih
    rcases hsettled.round_cases with hdone | ⟨after, hrejected, hsame, -, hafter⟩
    · cases hround.symm.trans hdone
    · cases hround.symm.trans hrejected
      exact ⟨hsame.trans hinput, hafter⟩
  | asked _ hnext ih =>
    obtain ⟨hinput, hsettled⟩ := ih
    obtain ⟨after, hsearch, hsame, hafter, -⟩ := next_settled hsettled
    cases hnext.symm.trans hsearch
    exact ⟨hsame.trans hinput, hafter⟩

/-- However often a scanner is asked, it stays inside its text. Wherever it comes to stand, each
offset that it computes for its next round is at most the length of the text and between two
characters, so no cut is refused. A rejected candidate moves it on, and every search ends, with the
leftmost placeholder or because there is none. It never stands behind the start of a placeholder. -/
theorem visited_stays_inside {s : List Char} {scanner : Scanner} (h : Visited s scanner) :
    scanner.input = s ∧
      (∀ part i, scanner.Computes part i → i ≤ byteLength s ∧ IsBoundary s i) ∧
      (∃ r, scanner.round = .ok r) ∧
      (∀ after, scanner.round = .ok (.rejected after) → scanner.position < after.position) ∧
      (∃ after, scanner.next = .ok (find s, after) ∧ after.round = .ok (.done (find s))) ∧
      ∀ p : Placeholder, p.In s → scanner.position ≤ byteLength p.before := by
  obtain ⟨rfl, hsettled⟩ := h.settled
  have hinside : ∀ {part : Part} {i : Nat}, scanner.Computes part i →
      IsBoundary scanner.input i := fun hi ↦ hi.isBoundary hsettled.isBoundary
  refine ⟨rfl, fun part i hi ↦ ⟨(hinside hi).le, hinside hi⟩, exists_round hinside,
    fun after hround ↦ ?_, ?_, fun p hp ↦ hsettled.position_le hp⟩
  · rcases hsettled.round_cases with hdone | ⟨next, hrejected, -, hlt, -⟩
    · cases hround.symm.trans hdone
    · cases hround.symm.trans hrejected
      exact hlt
  · obtain ⟨after, hnext, -, -, hround⟩ := next_settled hsettled
    exact ⟨after, hnext, hround⟩

/-- A character of two bytes stands in front of the first candidate, which is rejected, and another
one inside the token behind it. -/
theorem visited_stays_inside_two_bytes :
    let s := "é\x7b!ENV: \x7b!ENV:ü\x7d".toList
    let scanner : Scanner := ⟨s, 3⟩
    Visited s scanner ∧ scanner.Computes .keyEnd 17 ∧ IsBoundary s 17 ∧ byteLength s = 18 ∧
      ∃ after, scanner.next = .ok (find s, after) ∧ after.round = .ok (.done (find s)) := by
  intro s scanner
  have hvisited : Visited s scanner := .rejected .start rfl
  have hopening : scanner.Computes .opening (3 + 6) := .opening .position rfl rfl
  have hcolon : scanner.Computes .colon (9 + 2 + 3) := .colon (.tag hopening) rfl rfl
  have hkey : scanner.Computes .keyEnd (14 + 1 + 2) := .keyEnd (.key hcolon) rfl rfl
  obtain ⟨-, hinside, -, -, hnext, -⟩ := visited_stays_inside hvisited
  exact ⟨hvisited, hkey, (hinside _ _ hkey).2, by decide, hnext⟩

end Scanner

end ConfigResolver
