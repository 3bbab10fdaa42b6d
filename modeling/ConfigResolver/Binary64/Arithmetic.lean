import ConfigResolver.Binary64.Basic

/-!
# Products and quotients of floating point numbers

The exact product or quotient of two finite numbers, rounded once.
-/

namespace ConfigResolver.Binary64

/-- The absolute value of a finite number as numerator and denominator. -/
def ratio? (x : Binary64) : Option (Nat × Nat) :=
  match x.datum with
  | .finite _ significand exponent =>
    if 0 ≤ exponent then some (significand * Nat.pow 2 exponent.toNat, 1)
    else some (significand, Nat.pow 2 (-exponent).toNat)
  | _ => none

/-- The product of two finite numbers. -/
def mul (x y : Binary64) : Binary64 :=
  match x.ratio?, y.ratio? with
  | some (a, b), some (c, d) => ofRatio (x.isNegative != y.isNegative) (a * c) (b * d)
  | _, _ => nan

/-- The quotient of two finite numbers, the second of which is not zero. -/
def div (x y : Binary64) : Binary64 :=
  match x.ratio?, y.ratio? with
  | some (a, b), some (c, d) =>
    if c = 0 then nan else ofRatio (x.isNegative != y.isNegative) (a * d) (b * c)
  | _, _ => nan

end ConfigResolver.Binary64
