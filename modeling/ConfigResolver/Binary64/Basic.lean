/-!
# Binary floating point numbers of 64 bits

A number is its bits, so that two numbers are told apart exactly when their bits differ. What the
bits mean is `Binary64.datum`; arithmetic is done exactly on natural numbers and rounded once: a
ratio to the nearest number, a tie to the one with an even fraction.
-/

namespace ConfigResolver

/-- A floating point number, as its bits: sign, eleven bits of exponent, 52 bits of fraction. -/
structure Binary64 where
  /-- The bits. -/
  bits : UInt64
deriving DecidableEq, Repr

namespace Binary64

/-- What a number stands for. -/
inductive Datum where
  /-- No number. -/
  | nan
  /-- An infinity. -/
  | infinite (negative : Bool)
  /-- `significand * 2 ^ exponent`, with a sign of its own for zero. -/
  | finite (negative : Bool) (significand : Nat) (exponent : Int)
deriving DecidableEq, Repr

/-- How many fractions there are for each exponent. -/
def fractions : Nat := Nat.pow 2 52

/-- The exponent of the smallest step between two numbers. -/
def leastExponent : Int := -1074

/-- The fraction bits of a number. -/
def fraction (x : Binary64) : Nat := x.bits.toNat % fractions

/-- The exponent bits of a number. -/
def exponentBits (x : Binary64) : Nat := x.bits.toNat / fractions % 2048

/-- The sign bit of a number. -/
def isNegative (x : Binary64) : Bool := Nat.pow 2 63 ≤ x.bits.toNat

/-- The bits below the sign. -/
def magnitude (x : Binary64) : Nat := x.bits.toNat % Nat.pow 2 63

/-- What a number stands for. -/
def datum (x : Binary64) : Datum :=
  if x.exponentBits = 2047 then
    if x.fraction = 0 then .infinite x.isNegative else .nan
  else if x.exponentBits = 0 then .finite x.isNegative x.fraction leastExponent
  else .finite x.isNegative (fractions + x.fraction) (leastExponent + (x.exponentBits - 1 : Nat))

/-- Whether a number is no number. -/
def isNaN (x : Binary64) : Bool := x.datum == .nan

/-- Whether a number is finite. -/
def isFinite (x : Binary64) : Bool := x.exponentBits != 2047

/-- Equality of values: what is no number equals nothing, and the two zeros are equal. -/
def same (x y : Binary64) : Bool :=
  !x.isNaN && !y.isNaN && (x == y || (x.magnitude == 0 && y.magnitude == 0))

/-- The number with the given sign and the given bits below the sign. -/
def ofMagnitude (negative : Bool) (magnitude : Nat) : Binary64 :=
  ⟨UInt64.ofNat ((if negative then Nat.pow 2 63 else 0) + magnitude)⟩

/-- The zero of a sign. -/
def zero (negative : Bool) : Binary64 := ofMagnitude negative 0

/-- The infinity of a sign. -/
def infinity (negative : Bool) : Binary64 := ofMagnitude negative (2047 * fractions)

/-- The quiet number that is no number. -/
def nan : Binary64 := ofMagnitude false (2047 * fractions + Nat.pow 2 51)

/-- The natural number nearest to `num / den`; a tie goes to the even one. -/
def roundDiv (num den : Nat) : Nat :=
  let low := num / den
  let twice := 2 * (num % den)
  if twice < den then low
  else if den < twice then low + 1
  else if low % 2 = 0 then low else low + 1

/-- The largest `k` with `2 ^ k ≤ num / den`, for a positive ratio. -/
def floorLog2 (num den : Nat) : Int :=
  let guess : Int := (num.log2 : Int) - den.log2
  let reached := if 0 ≤ guess then den * Nat.pow 2 guess.toNat ≤ num
    else den ≤ num * Nat.pow 2 (-guess).toNat
  if reached then guess else guess - 1

/-- The number nearest to `num / den`, with a sign; a tie goes to the even fraction, and what is
too large goes to the infinity. -/
def ofRatio (negative : Bool) (num den : Nat) : Binary64 :=
  if num = 0 then zero negative
  else
    let exponent := max (floorLog2 num den - 52) leastExponent
    let significand :=
      if 0 ≤ exponent then roundDiv num (den * Nat.pow 2 exponent.toNat)
      else roundDiv (num * Nat.pow 2 (-exponent).toNat) den
    let magnitude := (exponent - leastExponent).toNat * fractions + significand
    if magnitude < 2047 * fractions then ofMagnitude negative magnitude else infinity negative

/-- The number nearest to a natural number. -/
def ofNat (n : Nat) : Binary64 := ofRatio false n 1

/-- How many decimal digits a natural number has. -/
def digitCount (n : Nat) : Nat := (Nat.toDigits 10 n).length

/-- The number nearest to `digits * 10 ^ exponent`, with a sign. Exponents that are far out of
range are answered without computing the power. -/
def ofDecimal (negative : Bool) (digits : Nat) (exponent : Int) : Binary64 :=
  let size : Int := exponent + digitCount digits
  if digits = 0 || size < -400 then zero negative
  else if 400 < size then infinity negative
  else if 0 ≤ exponent then ofRatio negative (digits * Nat.pow 10 exponent.toNat) 1
  else ofRatio negative digits (Nat.pow 10 (-exponent).toNat)

/-- The number of the opposite sign. -/
def neg (x : Binary64) : Binary64 := ⟨x.bits ^^^ 0x8000000000000000⟩

end Binary64

end ConfigResolver
