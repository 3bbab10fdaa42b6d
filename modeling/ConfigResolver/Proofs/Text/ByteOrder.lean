import Mathlib.Data.List.Lex
import Mathlib.Data.String.Basic
import Mathlib.Tactic.SplitIfs

/-!
# The order of texts and of their bytes

Texts are compared character by character. The bytes of their UTF-8 form, compared one by one, are
in the same order (`bytes_lt_bytes`), as a character with a higher number has a higher byte at the
first place where the two differ.
-/

namespace ConfigResolver.Text

/-- The bytes of the UTF-8 form of a text. -/
def bytes (s : String) : List UInt8 := s.toUTF8.data.toList

theorem bytes_eq_flatMap (s : String) : bytes s = s.toList.flatMap String.utf8EncodeChar := by
  rw [bytes, String.toUTF8_eq_toByteArray, ← String.utf8Encode_toList, List.utf8Encode,
    List.toList_data_toByteArray]

/-- The first place where two characters differ decides, whatever follows them. -/
theorem utf8EncodeChar_append_lt {c d : Char} (h : c < d) (xs ys : List UInt8) :
    String.utf8EncodeChar c ++ xs < String.utf8EncodeChar d ++ ys := by
  have hlt : c.val.toNat < d.val.toNat := h
  have hbound : d.val.toNat < 0x110000 := by
    have hvalid := d.valid
    unfold UInt32.isValidChar Nat.isValidChar at hvalid
    omega
  unfold String.utf8EncodeChar
  generalize c.val.toNat = m at *
  generalize d.val.toNat = n at *
  -- A byte holds its marker and six bits, or the highest bits; none of this overflows.
  have hlow : ∀ k, (k % 64 + 128) % 256 = k % 64 + 128 := fun k ↦ by omega
  have htwo : ∀ k, (k % 32 + 192) % 256 = k % 32 + 192 := fun k ↦ by omega
  have hthree : ∀ k, (k % 16 + 224) % 256 = k % 16 + 224 := fun k ↦ by omega
  have hfour : ∀ k, (k % 8 + 240) % 256 = k % 8 + 240 := fun k ↦ by omega
  -- The bits of one byte are those of the next place, divided once more.
  have hmid : ∀ k, k / 64 / 64 = k / 4096 := fun k ↦ Nat.div_div_eq_div_mul k 64 64
  have hhigh : ∀ k, k / 4096 / 64 = k / 262144 := fun k ↦ Nat.div_div_eq_div_mul k 4096 64
  have hm : m / 262144 % 8 = m / 262144 := Nat.mod_eq_of_lt (by omega)
  have hn : n / 262144 % 8 = n / 262144 := Nat.mod_eq_of_lt (by omega)
  have := hmid m
  have := hmid n
  have := hhigh m
  have := hhigh n
  dsimp only
  split_ifs <;>
    simp only [List.cons_append, List.nil_append, List.cons_lt_cons_iff, UInt8.lt_iff_toNat_lt,
      ← UInt8.toNat_inj, UInt8.toNat_ofNat', Nat.reducePow, hlow, htwo, hthree, hfour] <;>
    omega

theorem flatMap_utf8EncodeChar_lt {s t : List Char} (h : s < t) :
    s.flatMap String.utf8EncodeChar < t.flatMap String.utf8EncodeChar := by
  induction s generalizing t with
  | nil =>
    cases t with
    | nil => exact absurd h (lt_irrefl _)
    | cons d t =>
      obtain ⟨b, bs, hbs⟩ := List.exists_cons_of_ne_nil (String.utf8EncodeChar_ne_nil (c := d))
      rw [List.flatMap_nil, List.flatMap_cons, hbs]
      exact List.nil_lt_cons _ _
  | cons c s ih =>
    cases t with
    | nil => exact absurd h (List.not_lt_nil _)
    | cons d t =>
      rw [List.flatMap_cons, List.flatMap_cons]
      rcases List.cons_lt_cons_iff.1 h with hcd | ⟨rfl, hst⟩
      · exact utf8EncodeChar_append_lt hcd _ _
      · exact List.append_left_lt (ih hst)

/-- Texts and their bytes are in the same order. -/
theorem bytes_lt_bytes {s t : String} (h : s < t) : bytes s < bytes t := by
  rw [bytes_eq_flatMap, bytes_eq_flatMap]
  exact flatMap_utf8EncodeChar_lt (String.lt_iff_toList_lt.1 h)

end ConfigResolver.Text
