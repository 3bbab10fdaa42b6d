/-!
# Offsets in bytes

Lengths, searches and cuts of a text counted in bytes of its UTF-8 form. A cut is refused past the
end of the text and inside a character. Main statement: `cutBytes?_eq_some_iff`, the cuts of a text
are the ways to write it as two parts.
-/

namespace ConfigResolver.Text

/-- The length of a text in bytes of its UTF-8 form. -/
def byteLength : List Char → Nat
  | [] => 0
  | c :: rest => c.utf8Size + byteLength rest

@[simp] theorem byteLength_nil : byteLength [] = 0 := rfl

@[simp] theorem byteLength_cons (c : Char) (s : List Char) :
    byteLength (c :: s) = c.utf8Size + byteLength s := rfl

@[simp] theorem byteLength_append (s t : List Char) :
    byteLength (s ++ t) = byteLength s + byteLength t := by
  induction s with
  | nil => simp
  | cons c s ih => simp [ih, Nat.add_assoc]

/-- A text cut after `n` bytes. `none` if that is past its end or inside a character. -/
def cutBytes? : Nat → List Char → Option (List Char × List Char)
  | 0, s => some ([], s)
  | _ + 1, [] => none
  | n + 1, c :: s =>
    if c.utf8Size ≤ n + 1 then
      (cutBytes? (n + 1 - c.utf8Size) s).map fun (left, right) ↦ (c :: left, right)
    else none
termination_by structural _ s => s

theorem cutBytes?_cons (c : Char) (s : List Char) (n : Nat) :
    cutBytes? (c.utf8Size + n) (c :: s) =
      (cutBytes? n s).map fun (left, right) ↦ (c :: left, right) := by
  have hc := c.utf8Size_pos
  obtain ⟨m, hm⟩ : ∃ m, c.utf8Size + n = m + 1 := ⟨c.utf8Size + n - 1, by omega⟩
  rw [hm, cutBytes?, if_pos (by omega), show m + 1 - c.utf8Size = n by omega]

theorem cutBytes?_byteLength (s t : List Char) :
    cutBytes? (byteLength s) (s ++ t) = some (s, t) := by
  induction s with
  | nil => rw [byteLength_nil, List.nil_append, cutBytes?]
  | cons c s ih => rw [byteLength_cons, List.cons_append, cutBytes?_cons, ih]; rfl

theorem cutBytes?_eq_some_iff {n : Nat} {s left right : List Char} :
    cutBytes? n s = some (left, right) ↔ s = left ++ right ∧ n = byteLength left := by
  refine ⟨fun h ↦ ?_, fun ⟨hs, hn⟩ ↦ hs ▸ hn ▸ cutBytes?_byteLength left right⟩
  induction s generalizing n left with
  | nil => cases n <;> simp_all [cutBytes?]
  | cons c s ih =>
    cases n with
    | zero => simp_all [cutBytes?]
    | succ n =>
      rw [cutBytes?] at h
      split at h
      · next hc =>
        obtain ⟨⟨l, r⟩, hl, he⟩ := Option.map_eq_some_iff.1 h
        cases he
        obtain ⟨rfl, hn⟩ := ih hl
        exact ⟨rfl, by rw [byteLength_cons]; omega⟩
      · cases h

/-- The offset in bytes of the first character of a text that passes a test. -/
def findByte? (p : Char → Bool) : List Char → Option Nat
  | [] => none
  | c :: s => if p c then some 0 else (findByte? p s).map (c.utf8Size + ·)

/-- The offset in bytes of the first place where `part` stands in a text. -/
def findPart? (part : List Char) : List Char → Option Nat
  | [] => if part.isEmpty then some 0 else none
  | c :: s =>
    if part.isPrefixOf (c :: s) then some 0 else (findPart? part s).map (c.utf8Size + ·)

/-- Whether `part` stands anywhere in a text. -/
def hasPart (part s : List Char) : Bool := (findPart? part s).isSome

end ConfigResolver.Text
