import ConfigResolver.Placeholder.Scanner
import ConfigResolver.Proofs.Placeholder.Grammar

/-!
# Scanning finds the leftmost placeholder

`Scanner` walks over a text by byte offsets, `Placeholder.find` by recursion on its characters.
Every lemma here is stated at the offset that follows a given part of the text, so that a slice at
it is known and an answer of the recursion on the rest can be read as an answer of the scan.

A scan does not move the scanner past a placeholder that it found. What is kept from one call to
the next is `Scanner.Settled`: no placeholder of the text is missed by searching from the position
on.
-/

namespace ConfigResolver.Scanner

open Text Placeholder

variable {c : Char} {left right rest s : List Char}

/-! ## Slices -/

theorem sliceFrom_byteLength (left right : List Char) :
    sliceFrom (left ++ right) (byteLength left) = .ok right := by
  rw [sliceFrom, cutBytes?_byteLength]

theorem sliceFrom_of_suffix (h : right <:+ s) :
    sliceFrom s (byteLength s - byteLength right) = .ok right := by
  obtain ⟨left, rfl⟩ := h
  rw [byteLength_append, Nat.add_sub_cancel, sliceFrom_byteLength]

theorem sliceTo_byteLength (left right : List Char) :
    sliceTo (left ++ right) (byteLength left) = .ok left := by
  rw [sliceTo, cutBytes?_byteLength]

theorem sliceTo_of_isPrefix (h : left <+: s) : sliceTo s (byteLength left) = .ok left := by
  obtain ⟨right, rfl⟩ := h
  exact sliceTo_byteLength left right

@[simp] theorem ok_bind {α β : Type} (a : α) (f : α → Except BadCut β) :
    (Except.ok a >>= f) = f a := rfl

/-! ## One token -/

@[simp] theorem utf8Size_close : ('}').utf8Size = 1 := by decide

@[simp] theorem utf8Size_colon : (':').utf8Size = 1 := by decide

/-- The scan behind a raw key ends where the matcher ends, `byteLength after` bytes before the end
of the text. -/
theorem endAt_byteLength (left s : List Char) :
    endAt (left ++ s) (byteLength left) = .ok ((Token.matchEnd? s).map fun found ↦
      (found.1, byteLength (left ++ s) - byteLength found.2)) := by
  have hclose_of {rest : List Char} : ¬ ['}'].isPrefixOf (Token.defaultMarker ++ rest) = true := by
    rw [List.isPrefixOf_iff_prefix]
    exact Token.not_close_prefix_default
  rw [endAt, sliceFrom_byteLength, ok_bind]
  rcases Token.end_cases s with ⟨after, rfl⟩ | ⟨raw, after, hraw, rfl⟩ | ⟨rest, hrest, rfl⟩ |
    ⟨hclose, hmarker⟩
  · have hstop : byteLength (left ++ '}' :: after) - byteLength after = byteLength left + 1 := by
      rw [byteLength_append, byteLength_cons, utf8Size_close]
      omega
    rw [if_pos (by rfl), Token.matchEnd?_close, Option.map_some, hstop]
    rfl
  · have hstop : byteLength (left ++ (Token.defaultMarker ++ (raw ++ '}' :: after))) -
        byteLength after =
          byteLength left + byteLength Token.defaultMarker + byteLength raw + 1 := by
      simp only [byteLength_append, byteLength_cons, utf8Size_close]
      omega
    rw [if_neg hclose_of, Token.isPrefixOf?_append, Token.matchEnd?_default hraw]
    simp only [findByte?_of_split (Token.forall_beq_eq_false_iff.2 hraw) (c := '}') (by simp),
      sliceTo_byteLength, ok_bind, Option.map_some, hstop]
    rfl
  · rw [if_neg hclose_of, Token.isPrefixOf?_append, Token.matchEnd?_unclosed hrest]
    simp only [findByte?_eq_none (Token.forall_beq_eq_false_iff.2 hrest)]
    rfl
  · rw [if_neg (by rwa [List.isPrefixOf_iff_prefix]), Token.isPrefixOf?_eq_none hmarker,
      Token.matchEnd?_of_neither hclose hmarker]
    rfl

/-- The scan at an opening reads the token that the matcher reads there. -/
theorem placeholderAt_byteLength (left rest : List Char) :
    placeholderAt (left ++ (Token.opening ++ rest)) (byteLength left) =
      .ok ((Token.match? (Token.opening ++ rest)).map fun found ↦
        ⟨left, found.1, found.2⟩) := by
  have hopening : byteLength left + byteLength Token.opening =
      byteLength (left ++ Token.opening) := (byteLength_append ..).symm
  rw [placeholderAt, hopening, ← List.append_assoc, sliceFrom_byteLength, ok_bind]
  rcases exists_split (· == ':') rest with hrest | ⟨tag, c, body, rfl, htag, hc⟩
  · rw [findByte?_eq_none hrest, Token.match?_of_no_colon (Token.forall_beq_eq_false_iff.1 hrest)]
    rfl
  · obtain rfl : c = ':' := by simpa using hc
    rw [findByte?_of_split htag hc, Token.match?_of_split (Token.forall_beq_eq_false_iff.1 htag)]
    simp only [sliceTo_byteLength, ok_bind]
    cases Source.ofTag? tag with
    | none => rfl
    | some source =>
      have hinput : left ++ Token.opening ++ (tag ++ ':' :: body) =
          (left ++ Token.opening ++ tag ++ [':']) ++ body := by simp
      have hkey : byteLength (left ++ Token.opening) + byteLength tag + 1 =
          byteLength (left ++ Token.opening ++ tag ++ [':']) := by
        simp only [byteLength_append, byteLength_cons, byteLength_nil, utf8Size_colon]
      have hends : (fun c ↦ c == '}' || c == '!') = Token.endsKey := rfl
      simp only [hinput, hkey, sliceFrom_byteLength, ok_bind, Option.bind_some, hends]
      rcases exists_split Token.endsKey body with hbody | ⟨raw, c, after, rfl, hraw, hc⟩
      · rw [findByte?_eq_none hbody, Token.matchBody?_of_no_end hbody]
        rfl
      · rw [findByte?_of_split hraw hc, Token.matchBody?_of_split hraw hc]
        simp only [sliceTo_byteLength, ok_bind, ← byteLength_append]
        rw [← List.append_assoc, endAt_byteLength, ok_bind]
        cases hend : Token.matchEnd? (c :: after) with
        | none => rfl
        | some found =>
          have hsuffix := (Token.suffix_of_matchEnd? hend).trans
            (List.suffix_append (left ++ Token.opening ++ tag ++ [':'] ++ raw) (c :: after))
          simp only [Option.map_some, sliceFrom_of_suffix hsuffix]
          rw [sliceTo_of_isPrefix (by simp)]
          rfl

/-! ## One round -/

/-- What one round of a search comes to. -/
inductive Round where
  /-- The search is over, with a placeholder or without one. -/
  | done (found : Option Placeholder)
  /-- The next opening starts no token, and the scanner has moved behind it. -/
  | rejected (after : Scanner)

/-- One round of a search. -/
def round (scanner : Scanner) : Except BadCut Round := do
  if scanner.position < byteLength scanner.input then
    match findPart? Token.opening (← sliceFrom scanner.input scanner.position) with
    | none => return .done none
    | some offset =>
      let start := scanner.position + offset
      match ← placeholderAt scanner.input start with
      | some found => return .done (some found)
      | none => return .rejected { scanner with position := start + 1 }
  else
    return .done none

/-- A search is one round, and another search where the round rejects a candidate. -/
theorem search_succ (scanner : Scanner) (fuel : Nat) :
    scanner.search (fuel + 1) = scanner.round >>= fun
      | .done found => .ok (found, scanner)
      | .rejected after => after.search fuel := by
  rw [search, round]
  split
  · cases hslice : sliceFrom scanner.input scanner.position with
    | error cut => rfl
    | ok rest =>
      simp only [ok_bind]
      cases hpart : findPart? Token.opening rest with
      | none => rfl
      | some offset =>
        simp only
        cases hfound : placeholderAt scanner.input (scanner.position + offset) with
        | error cut => rfl
        | ok found => cases found <;> rfl
  · rfl

/-- The scanner that stands behind a part of its text. -/
def standing (left right : List Char) : Scanner := ⟨left ++ right, byteLength left⟩

/-- At the end of the text, and where no opening is left, nothing is found. -/
theorem round_of_no_opening (left : List Char) (h : findPart? Token.opening right = none) :
    (standing left right).round = .ok (.done none) := by
  rw [round]
  simp only [standing, sliceFrom_byteLength, ok_bind, h]
  split <;> rfl

/-- At the next opening a token is found, or the scanner moves one character behind it. -/
theorem round_of_opening (left skipped rest : List Char)
    (h : findPart? Token.opening (skipped ++ Token.opening ++ rest) = some (byteLength skipped)) :
    (standing left (skipped ++ Token.opening ++ rest)).round =
      .ok (match Token.match? (Token.opening ++ rest) with
        | some found => .done (some ⟨left ++ skipped, found.1, found.2⟩)
        | none => .rejected (standing (left ++ skipped ++ ['{']) ('!' :: rest))) := by
  have hlt : byteLength left < byteLength (left ++ (skipped ++ Token.opening ++ rest)) := by
    have hopening : byteLength Token.opening = 2 := by decide
    simp only [byteLength_append, hopening]
    omega
  have hinput : left ++ (skipped ++ Token.opening ++ rest) =
      left ++ skipped ++ (Token.opening ++ rest) := by simp
  have hnext : left ++ skipped ++ (Token.opening ++ rest) =
      left ++ skipped ++ ['{'] ++ '!' :: rest := by simp [Token.opening]
  have hposition : byteLength (left ++ skipped) + 1 = byteLength (left ++ skipped ++ ['{']) := by
    rw [byteLength_append (left ++ skipped)]
    rfl
  rw [round]
  simp only [standing, if_pos hlt, sliceFrom_byteLength, ok_bind, h, ← byteLength_append]
  rw [hinput, placeholderAt_byteLength, ok_bind]
  cases Token.match? (Token.opening ++ rest) with
  | some found => rfl
  | none =>
    simp only [Option.map_none, hposition, hnext]
    rfl

/-- The state that a scan keeps: what is found from the position on is what is found in the whole
text. -/
def Settled (scanner : Scanner) : Prop :=
  ∃ left right, scanner = standing left right ∧
    find scanner.input = (find right).map (behind left)

/-- A round of a settled scanner ends with the leftmost placeholder of its text, or leaves a settled
scanner further on in the same text. -/
theorem Settled.round_cases {scanner : Scanner} (h : scanner.Settled) :
    scanner.round = .ok (.done (find scanner.input)) ∨
      ∃ after : Scanner, scanner.round = .ok (.rejected after) ∧ after.input = scanner.input ∧
        scanner.position < after.position ∧ after.Settled := by
  obtain ⟨left, right, rfl, hfind⟩ := h
  rcases exists_split_part Token.opening right (by decide) with
    ⟨hpart, hnone⟩ | ⟨skipped, rest, rfl, hpart, hfirst⟩
  · have hright : find right = none := by
      have := find_append_of_no_opening right [] fun l r hlr hp ↦
        absurd hp (hnone l r (by rw [← hlr, List.append_nil]))
      rwa [List.append_nil, find_nil] at this
    left
    rw [round_of_no_opening left hpart, hfind, hright]
    rfl
  · have hskip : find (skipped ++ Token.opening ++ rest) =
        (find (Token.opening ++ rest)).map (behind skipped) := by
      rw [List.append_assoc]
      refine find_append_of_no_opening _ _ fun l r hlr hp ↦ hfirst l r ?_ hp
      rw [List.append_assoc, hlr]
    rw [round_of_opening left skipped rest hpart]
    cases hmatch : Token.match? (Token.opening ++ rest) with
    | some found =>
      left
      rw [hfind, hskip, find_opening_of_match hmatch]
      simp [behind]
    | none =>
      have htext : left ++ skipped ++ ['{'] ++ '!' :: rest =
          left ++ (skipped ++ Token.opening ++ rest) := by simp [Token.opening]
      have hlater : find (left ++ skipped ++ ['{'] ++ '!' :: rest) =
          (find ('!' :: rest)).map (behind (left ++ skipped ++ ['{'])) := by
        rw [htext]
        refine hfind.trans ?_
        rw [hskip, find_opening_of_no_match hmatch, Option.map_map, Option.map_map]
        refine congrArg (Option.map · _) (funext fun p ↦ ?_)
        simp [behind, shift]
      refine .inr ⟨_, rfl, htext, ?_, _, _, rfl, hlater⟩
      simp only [standing, byteLength_append, byteLength_cons, byteLength_nil]
      have := Char.utf8Size_pos '{'
      omega

/-! ## One search -/

/-- A search of a settled scanner answers the leftmost placeholder of its text. It ends with a round
that does, not for want of fuel, and keeps the scanner settled. -/
theorem Settled.search {scanner : Scanner} (h : scanner.Settled) {fuel : Nat}
    (hfuel : byteLength scanner.input < scanner.position + fuel) :
    ∃ after : Scanner, scanner.search fuel = .ok (find scanner.input, after) ∧
      after.input = scanner.input ∧ after.Settled ∧
      after.round = .ok (.done (find scanner.input)) := by
  induction fuel generalizing scanner with
  | zero =>
    obtain ⟨left, right, rfl, -⟩ := h
    simp only [standing, byteLength_append] at hfuel
    omega
  | succ fuel ih =>
    rw [search_succ]
    rcases h.round_cases with hround | ⟨next, hround, hinput, hlt, hnext⟩
    · rw [hround]
      exact ⟨scanner, rfl, rfl, h, hround⟩
    · rw [hround, ok_bind]
      have hrest := ih hnext (by rw [hinput]; omega)
      rwa [hinput] at hrest

/-! ## Repeated searches -/

theorem settled_ofText (s : List Char) : (ofText s).Settled :=
  ⟨[], s, rfl, by rw [behind_nil, Option.map_id]; rfl⟩

/-- Asking a settled scanner gives the leftmost placeholder of its text, and the scanner stays
settled. -/
theorem next_settled {scanner : Scanner} (h : scanner.Settled) :
    ∃ after : Scanner, scanner.next = .ok (find scanner.input, after) ∧
      after.input = scanner.input ∧ after.Settled ∧
      after.round = .ok (.done (find scanner.input)) :=
  h.search (by omega)

/-- The answers of some calls, one after the other on the same scanner. -/
def answers (scanner : Scanner) : Nat → Except BadCut (List (Option Placeholder))
  | 0 => .ok []
  | n + 1 => do
    let (found, after) ← scanner.next
    return found :: (← after.answers n)

/-- Every call on a settled scanner gives the same answer. -/
theorem answers_settled (n : Nat) {scanner : Scanner} (h : scanner.Settled) :
    scanner.answers n = .ok (List.replicate n (find scanner.input)) := by
  induction n generalizing scanner with
  | zero => rfl
  | succ n ih =>
    obtain ⟨after, hnext, hinput, hafter, -⟩ := next_settled h
    simp only [answers, hnext, ok_bind, ih hafter, hinput]
    rfl

/-- The search recognises the leftmost token of the grammar, and nothing else: what is found
stands in the text with a spelling of its token, no placeholder starts further left, and nothing
is found only where no token stands. The test for a placeholder and every call on a scanner over
the text agree with it. -/
theorem find_leftmost_token (s : List Char) :
    (∀ p : Placeholder, find s = some p ↔
        p.In s ∧ ∀ q : Placeholder, q.In s → p.before.length ≤ q.before.length) ∧
      (find s = none ↔ ∀ q : Placeholder, ¬ q.In s) ∧
      (occurs s = true ↔ ∃ p, find s = some p) ∧
      ∀ n, (ofText s).answers n = .ok (List.replicate n (find s)) := by
  refine ⟨fun p ↦ find_eq_some_iff_leftmost, find_eq_none_iff_not_in, ?_, fun n ↦ ?_⟩
  · rw [occurs_eq_isSome_find, Option.isSome_iff_exists]
  · exact answers_settled n (settled_ofText s)

end ConfigResolver.Scanner
