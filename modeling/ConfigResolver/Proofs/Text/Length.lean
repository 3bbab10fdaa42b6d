import ConfigResolver.Text.Bytes
import Mathlib.Data.String.Basic

/-!
# The length of a text in bytes

`byteLength` is the size of the UTF-8 form of a text, and a part of a text is no longer than the
text.
-/

namespace ConfigResolver.Text

variable {part s : List Char}

theorem utf8ByteSize_eq_byteLength (s : String) : s.utf8ByteSize = byteLength s.toList := by
  have hlist (cs : List Char) : String.utf8Len cs = byteLength cs := by
    induction cs with
    | nil => rfl
    | cons c cs ih => rw [String.utf8Len_cons, ih, byteLength_cons, Nat.add_comm]
  rw [← hlist, ← String.utf8ByteSize_ofList, String.ofList_toList]

theorem byteLength_le_of_isInfix (h : part <:+: s) : byteLength part ≤ byteLength s := by
  obtain ⟨left, right, rfl⟩ := h
  rw [byteLength_append, byteLength_append]
  omega

end ConfigResolver.Text
