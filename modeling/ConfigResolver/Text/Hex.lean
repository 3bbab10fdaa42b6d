/-!
# Hexadecimal digits

Digits of either case are read; the digits that are written have the value that they were written
for.
-/

namespace ConfigResolver.Text

/-- The value of a hexadecimal digit. -/
def hexValue? (c : Char) : Option Nat :=
  if '0' ≤ c ∧ c ≤ '9' then some (c.toNat - '0'.toNat)
  else if 'a' ≤ c ∧ c ≤ 'f' then some (c.toNat - 'a'.toNat + 10)
  else if 'A' ≤ c ∧ c ≤ 'F' then some (c.toNat - 'A'.toNat + 10)
  else none

theorem hexValue?_digitChar {n : Nat} (h : n < 16) : hexValue? (Nat.digitChar n) = some n := by
  have all : ∀ m : Fin 16, hexValue? (Nat.digitChar m) = some m.val := by decide
  exact all ⟨n, h⟩

end ConfigResolver.Text
