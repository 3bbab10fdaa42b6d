import ConfigResolver.Binary64.Shortest

/-!
# Writing floating point numbers

A layout says how the shortest decimal of a number is set: where positional notation ends, whether
a whole number gets `.0`, how an exponent and the special values are written.
-/

namespace ConfigResolver.Binary64

/-- How numbers are set. -/
structure Layout where
  /-- The point may stand this many zeros in front of the digits, or any number of them. -/
  leadingZeros : Option Nat
  /-- A number up to this many digits before the point is positional, or any number is. -/
  wholeDigits : Option Nat
  /-- What follows the digits of a whole number. -/
  wholeEnd : List Char
  /-- The sign of an exponent that is not negative. -/
  exponentSign : List Char
  /-- The decimal taken for a number in the middle between two of the shortest ones. -/
  tie : Tie
  /-- What is no number. -/
  nan : List Char
  /-- Infinity without its sign. -/
  infinity : List Char
deriving DecidableEq, Repr

/-- The decimal digits of a natural number. -/
def digitsOf (n : Nat) : List Char := Nat.toDigits 10 n

/-- The text of an exponent. -/
def Layout.exponent (l : Layout) (e : Int) : List Char :=
  if e < 0 then '-' :: digitsOf e.natAbs else l.exponentSign ++ digitsOf e.natAbs

/-- The text of a decimal: `point` is how many of its digits stand before the point. -/
def Layout.decimal (l : Layout) (d : Decimal) : List Char :=
  let digits := digitsOf d.digits
  let point : Int := digits.length + d.exponent
  if 0 < point ∧ l.wholeDigits.all (point ≤ ·) then
    if 0 ≤ d.exponent then digits ++ List.replicate d.exponent.toNat '0' ++ l.wholeEnd
    else digits.take point.toNat ++ '.' :: digits.drop point.toNat
  else if point ≤ 0 ∧ l.leadingZeros.all (-point ≤ ·) then
    '0' :: '.' :: List.replicate (-point).toNat '0' ++ digits
  else
    digits.take 1 ++ (if digits.length = 1 then [] else '.' :: digits.drop 1) ++
      'e' :: l.exponent (point - 1)

/-- The text of a number. -/
def Layout.text (l : Layout) (x : Binary64) : List Char :=
  match x.datum with
  | .nan => l.nan
  | .infinite negative => (if negative then ['-'] else []) ++ l.infinity
  | .finite negative significand exponent =>
    (if negative then ['-'] else []) ++
      if significand = 0 then '0' :: l.wholeEnd else l.decimal (shortest l.tie significand exponent)

/-- Keys show numbers positionally, and whole numbers without a point. -/
def keyLayout : Layout where
  leadingZeros := none
  wholeDigits := none
  wholeEnd := []
  exponentSign := []
  tie := .up
  nan := ['N', 'a', 'N']
  infinity := ['i', 'n', 'f']

end ConfigResolver.Binary64
