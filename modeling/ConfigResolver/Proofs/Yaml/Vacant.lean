import ConfigResolver.Yaml.Read

/-!
# YAML texts without a token

In a text of nothing but spaces and ends of lines the lexer goes on to the end in one gap
(`Lexer.skipGap_vacant`), and all it finds there is the end. So such a text is null
(`read_vacant`), however many lines it has and whichever characters end them.
-/

namespace ConfigResolver.Yaml

/-- The text is nothing but spaces and ends of lines. -/
def Vacant (text : List Char) : Prop := ∀ c ∈ text, c = ' ' ∨ isBreak c

theorem isBreak_iff {c : Char} : isBreak c ↔
    c = '\r' ∨ c = '\n' ∨ c.val = 0x85 ∨ c.val = 0x2028 ∨ c.val = 0x2029 := by
  simp [isBreak, or_assoc]

theorem isAllowed_of_isBreak {c : Char} (h : isBreak c) : isAllowed c := by
  rcases isBreak_iff.1 h with rfl | rfl | hval | hval | hval
  · rfl
  · rfl
  all_goals simp [isAllowed, hval]

namespace Vacant

variable {text : List Char}

theorem nil : Vacant [] := List.forall_mem_nil _

theorem cons {c : Char} (hc : c = ' ' ∨ isBreak c) (h : Vacant text) : Vacant (c :: text) :=
  List.forall_mem_cons.2 ⟨hc, h⟩

theorem of_suffix {rest : List Char} (h : Vacant text) (hrest : rest <:+ text) : Vacant rest :=
  fun c hc ↦ h c (hrest.subset hc)

theorem all_isAllowed (h : Vacant text) : text.all isAllowed := by
  rw [List.all_eq_true]
  intro c hc
  rcases h c hc with rfl | hbreak
  · rfl
  · exact isAllowed_of_isBreak hbreak

/-- A character that is neither a space nor ends a line is not in the text. -/
theorem head?_ne (h : Vacant text) (c : Char) (hspace : c ≠ ' ') (hbreak : isBreak c = false) :
    text.head? ≠ some c := by
  intro hc
  rcases h c (List.mem_of_mem_head? hc) with hc | hc
  · exact hspace hc
  · rw [hbreak] at hc
    cases hc

end Vacant

namespace Cursor

theorem rest_dropWhile (c : Cursor) (p : Char → Bool) :
    (c.dropWhile p).rest = c.rest.dropWhile p := by
  have hsplit : c.rest = c.rest.takeWhile p ++ c.rest.dropWhile p :=
    List.takeWhile_append_dropWhile.symm
  exact (congrArg (List.drop (c.rest.takeWhile p).length) hsplit).trans List.drop_left

/-- Nothing else of a line that ends here is left behind its end. -/
theorem rest_takeBreak {c : Cursor} {b : Char} {rest : List Char} (hc : c.rest = b :: rest)
    (h : isBreak b) : c.takeBreak.2.rest <:+ rest := by
  unfold takeBreak
  split
  · next heq =>
    obtain ⟨-, rfl⟩ := List.cons.inj (hc.symm.trans heq)
    exact List.suffix_cons _ _
  · next heq =>
    obtain ⟨rfl, rfl⟩ := List.cons.inj (hc.symm.trans heq)
    simp [h]
  · next heq => cases hc.symm.trans heq

end Cursor

namespace Lexer

/-- What the lexer passes over at the start of a line. -/
def isPassed (l : Lexer) (c : Char) : Bool :=
  c == ' ' || ((l.inFlow || !l.keyAllowed) && c == '\t')

/-- In a vacant text there is no mark of its start and no comment. -/
theorem skipGap_succ_of_vacant {l : Lexer} (h : Vacant l.cursor.rest) (fuel : Nat) :
    l.skipGap (fuel + 1) =
      let c := l.cursor.dropWhile l.isPassed
      if !c.rest.isEmpty && atBreak c.rest then
        skipGap { l with
          cursor := c.takeBreak.2
          keyAllowed := l.keyAllowed || !l.inFlow } fuel
      else { l with cursor := c } := by
  have hmark : (l.cursor.rest.head? == some byteOrderMark) = false := by
    simpa using h.head?_ne byteOrderMark (by decide) (by decide)
  have hvacant : Vacant (l.cursor.dropWhile l.isPassed).rest := by
    rw [Cursor.rest_dropWhile]
    exact h.of_suffix (List.dropWhile_suffix _)
  have hcomment : (l.cursor.dropWhile l.isPassed).dropComment = l.cursor.dropWhile l.isPassed := by
    unfold Cursor.dropComment
    split
    · next heq =>
      exact absurd (congrArg List.head? heq) (hvacant.head?_ne '#' (by decide) (by decide))
    · rfl
  have hpassed :
      (fun x ↦ x == ' ' || ((l.inFlow || !l.keyAllowed) && x == '\t')) = l.isPassed := rfl
  simp only [skipGap, hmark, Bool.and_false, Bool.false_eq_true, if_false, hpassed, hcomment]

/-- Where something is left behind what is passed over, a line ends. -/
theorem isBreak_behind_passed {l : Lexer} (h : Vacant l.cursor.rest) {b : Char} {rest : List Char}
    (hc : (l.cursor.dropWhile l.isPassed).rest = b :: rest) : isBreak b := by
  rw [Cursor.rest_dropWhile] at hc
  have hb : l.isPassed b = false := by
    have hhead := List.head?_dropWhile_not l.isPassed l.cursor.rest
    rwa [hc] at hhead
  have hmem : b ∈ l.cursor.rest :=
    (List.dropWhile_suffix l.isPassed).subset (hc ▸ List.mem_cons_self)
  rcases h b hmem with rfl | hbreak
  · cases hb
  · exact hbreak

/-- The lexer reads a vacant text to its end, line by line, and finds no token in it. -/
theorem skipGap_vacant (l : Lexer) (fuel : Nat) (h : Vacant l.cursor.rest)
    (hfuel : l.cursor.rest.length < fuel) :
    ∃ cursor keyAllowed, cursor.rest = [] ∧ l.skipGap fuel = { l with cursor, keyAllowed } := by
  induction fuel generalizing l with
  | zero => omega
  | succ fuel ih =>
    have hsuffix : (l.cursor.dropWhile l.isPassed).rest <:+ l.cursor.rest := by
      rw [Cursor.rest_dropWhile]
      exact List.dropWhile_suffix _
    rw [skipGap_succ_of_vacant h]
    cases hc : (l.cursor.dropWhile l.isPassed).rest with
    | nil =>
      simp only [hc]
      exact ⟨_, l.keyAllowed, hc, rfl⟩
    | cons b rest =>
      have hbreak := isBreak_behind_passed h hc
      have htaken := Cursor.rest_takeBreak hc hbreak
      rw [hc] at hsuffix
      have hlength : rest.length < l.cursor.rest.length := hsuffix.length_le
      simp only [hc, List.isEmpty_cons, Bool.not_false, atBreak, hbreak, Bool.and_self, if_true]
      exact ih _ (h.of_suffix (htaken.trans ((List.suffix_cons b rest).trans hsuffix)))
        (Nat.lt_of_le_of_lt htaken.length_le (Nat.lt_of_lt_of_le hlength (Nat.le_of_lt_succ hfuel)))

theorem closeBlocks_of_no_block {l : Lexer} (h : l.outer = []) (column : Int) :
    l.closeBlocks column = l := by
  unfold closeBlocks
  rw [h, endBlocks, ite_self]

theorem dropExpired_of_no_key {l : Lexer} (h : l.keys = [none]) : l.dropExpired = .ok l := by
  obtain ⟨cursor, tokens, indent, outer, keyAllowed, keys, done⟩ := l
  obtain rfl : keys = [none] := h
  rfl

/-- Where no block and no bracket is open and no key may have started, the end of the text is all
that follows a vacant text. -/
theorem fetch_start_vacant {text : List Char} (h : Vacant text) :
    ∃ l mark, (start text).fetch = .ok l ∧ l.tokens = #[⟨mark, .streamEnd⟩] ∧ l.keys = [none] ∧
      l.done = true := by
  obtain ⟨cursor, keyAllowed, hrest, hskip⟩ :=
    (start text).skipGap_vacant (text.length + 1) h (Nat.lt_succ_self _)
  have hfetch : (start text).fetch =
      ({ start text with cursor, keyAllowed } : Lexer).fetchEnd := by
    unfold fetch
    have hlength : (start text).cursor.rest.length + 1 = text.length + 1 := rfl
    rw [hlength, hskip, dropExpired_of_no_key rfl]
    simp only [bind, Except.bind]
    rw [closeBlocks_of_no_block rfl]
    simp only [hrest]
  refine ⟨_, _, hfetch.trans rfl, rfl, rfl, rfl⟩

/-- The one token of a vacant text is its end. -/
theorem run_start_vacant {text : List Char} (h : Vacant text) (fuel : Nat) :
    ∃ mark, (start text).run (fuel + 1) = ([⟨mark, .streamEnd⟩], none) := by
  obtain ⟨l, mark, hfetch, htokens, hkeys, hdone⟩ := fetch_start_vacant h
  refine ⟨mark, ?_⟩
  simp only [run, hfetch, dropExpired_of_no_key hkeys, hdone, htokens, if_true]

end Lexer

/-- A text of nothing but spaces and ends of lines is null. -/
theorem read_vacant {text : List Char} (h : Vacant text) : read text = ⟨.null, none⟩ := by
  obtain ⟨mark, hrun⟩ := Lexer.run_start_vacant h (text.length + 1)
  have htokens : tokensOf text = ([⟨mark, .streamEnd⟩], none) := by
    rw [← hrun]
    cases text with
    | nil => rfl
    | cons c rest =>
      have hmark : c ≠ byteOrderMark := fun hc ↦
        h.head?_ne byteOrderMark (by decide) (by decide) (congrArg some hc)
      simp only [tokensOf, if_neg hmark, h.all_isAllowed, if_true]
  simp [read, htokens, Tokens.nextIs, Tokens.kind?]

end ConfigResolver.Yaml
