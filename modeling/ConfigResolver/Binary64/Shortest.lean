import ConfigResolver.Binary64.Basic

/-!
# The shortest decimals of a floating point number

The reals that round to a number form an interval around it, with its ends if the significand is
even. `Binary64.shortest` is the decimal in that interval with the fewest digits, and among those
the nearest to the number.
-/

namespace ConfigResolver

/-- The decimal `digits * 10 ^ exponent`. -/
structure Decimal where
  /-- The digits, without a sign. -/
  digits : Nat
  /-- The power of ten. -/
  exponent : Int
deriving DecidableEq, Repr

namespace Decimal

/-- The decimal as numerator and denominator. -/
def ratio (d : Decimal) : Nat × Nat :=
  if 0 ≤ d.exponent then (d.digits * Nat.pow 10 d.exponent.toNat, 1)
  else (d.digits, Nat.pow 10 (-d.exponent).toNat)

/-- The same decimal without zeros at the end of its digits; `fuel` bounds how many there are. -/
def strip (d : Decimal) : Nat → Decimal
  | 0 => d
  | fuel + 1 =>
    if d.digits ≠ 0 ∧ d.digits % 10 = 0 then strip ⟨d.digits / 10, d.exponent + 1⟩ fuel else d

end Decimal

namespace Binary64

/-- The interval of reals that round to a finite positive number, in units of a quarter of the
step `2 ^ exponent`: its ends, the number itself, and whether the ends belong to it. -/
structure Rounding where
  /-- The lower end, in quarters. -/
  low : Nat
  /-- The number, in quarters. -/
  value : Nat
  /-- The upper end, in quarters. -/
  high : Nat
  /-- Whether the ends round to the number. -/
  closed : Bool
  /-- The exponent of a quarter. -/
  exponent : Int
deriving DecidableEq, Repr

/-- The reals that round to `significand * 2 ^ exponent`. Below a power of two the step is half
as wide. -/
def rounding (significand : Nat) (exponent : Int) : Rounding :=
  let narrow := significand = fractions ∧ leastExponent < exponent
  { low := if narrow then 4 * significand - 1 else 4 * significand - 2
    value := 4 * significand
    high := 4 * significand + 2
    closed := significand % 2 = 0
    exponent := exponent - 2 }

/-- Whether a decimal rounds to the number. -/
def Rounding.contains (r : Rounding) (d : Decimal) : Bool :=
  let (num, den) := d.ratio
  let (num, den) := if 0 ≤ r.exponent then (num, den * Nat.pow 2 r.exponent.toNat)
    else (num * Nat.pow 2 (-r.exponent).toNat, den)
  if r.closed then r.low * den ≤ num && num ≤ r.high * den
  else r.low * den < num && num < r.high * den

/-- Which of two decimals is taken where a number lies in the middle between them. -/
inductive Tie where
  /-- The one whose last digit is even. -/
  | even
  /-- The larger one. -/
  | up
deriving DecidableEq, Repr

/-- The decimals with exponent `exponent` next below and next above the number, and how the
distance to the lower one compares with the distance to the upper one. -/
def Rounding.neighbours (r : Rounding) (exponent : Int) : Decimal × Decimal × Ordering :=
  let num := r.value * (if 0 ≤ r.exponent then Nat.pow 2 r.exponent.toNat else 1) *
    (if 0 ≤ exponent then 1 else Nat.pow 10 (-exponent).toNat)
  let den := (if 0 ≤ r.exponent then 1 else Nat.pow 2 (-r.exponent).toNat) *
    (if 0 ≤ exponent then Nat.pow 10 exponent.toNat else 1)
  (⟨num / den, exponent⟩, ⟨num / den + 1, exponent⟩, compare (2 * (num % den)) den)

/-- The nearer of two neighbours. -/
def Tie.choose (tie : Tie) (below above : Decimal) : Ordering → Decimal
  | .lt => below
  | .gt => above
  | .eq =>
    match tie with
    | .even => if below.digits % 2 = 0 then below else above
    | .up => above

/-- The decimal of the given exponent that rounds to the number and is nearest to it. -/
def Rounding.nearest? (r : Rounding) (tie : Tie) (exponent : Int) : Option Decimal :=
  let (below, above, order) := r.neighbours exponent
  let belowIn := below.digits ≠ 0 && r.contains below
  match belowIn, r.contains above with
  | true, true => some (tie.choose below above order)
  | true, false => some below
  | false, true => some above
  | false, false => none

/-- The largest `k` with `10 ^ k ≤` the number. -/
def Rounding.floorLog10 (r : Rounding) : Int :=
  let num := r.value * (if 0 ≤ r.exponent then Nat.pow 2 r.exponent.toNat else 1)
  let den := if 0 ≤ r.exponent then 1 else Nat.pow 2 (-r.exponent).toNat
  if den ≤ num then (digitCount (num / den) : Int) - 1
  else
    let guess : Int := (digitCount (den / num) : Int)
    if den ≤ num * Nat.pow 10 (guess - 1).toNat then 1 - guess else -guess

/-- Tries `count`, `count + 1`, … digits. Seventeen digits are always enough. -/
def Rounding.search (r : Rounding) (tie : Tie) (top : Int) (count : Nat) : Nat → Decimal
  | 0 => (r.neighbours (top - 16)).1
  | fuel + 1 =>
    match r.nearest? tie (top + 1 - count) with
    | some d => d
    | none => search r tie top (count + 1) fuel

/-- The decimal with the fewest digits that reads back as `significand * 2 ^ exponent`, the
nearest to it if there are several; without zeros at its end. -/
def shortest (tie : Tie) (significand : Nat) (exponent : Int) : Decimal :=
  if significand = 0 then ⟨0, 0⟩
  else
    let r := rounding significand exponent
    (r.search tie r.floorLog10 1 17).strip 400

end Binary64

end ConfigResolver
