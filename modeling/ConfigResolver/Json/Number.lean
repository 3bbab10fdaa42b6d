import ConfigResolver.Binary64.Arithmetic
import ConfigResolver.Value.Node

/-!
# JSON numbers

A number without a fraction and an exponent is a word if it fits into one, and `-0` is not a whole
number. All else is a floating point number: the digits that fit into a word of 64 bits, scaled by
powers of ten that are themselves floating point numbers, so the last bit may differ from the
number nearest to the text.
-/

namespace ConfigResolver.Json

/-- A run of digits scaled by a power of ten. -/
structure Scaled where
  /-- The digits, as a word of 64 bits. -/
  significand : Nat
  /-- The power of ten. -/
  exponent : Int
deriving DecidableEq, Repr

/-- The value of a decimal digit. -/
def digitValue (c : Char) : Nat := c.toNat - '0'.toNat

/-- Digits before the point: once a digit does not fit, all digits from there on only scale. -/
def Scaled.whole (n : Nat) : List Char → Scaled
  | [] => ⟨n, 0⟩
  | c :: rest =>
    if 10 * n + digitValue c < UInt64.size then whole (10 * n + digitValue c) rest
    else ⟨n, rest.length + 1⟩

/-- Digits after the point: once a digit does not fit, all digits from there on are dropped. -/
def Scaled.addFraction (s : Scaled) : List Char → Scaled
  | [] => s
  | c :: rest =>
    if 10 * s.significand + digitValue c < UInt64.size then
      addFraction ⟨10 * s.significand + digitValue c, s.exponent - 1⟩ rest
    else s

/-- The power of ten of an exponent as a floating point number. -/
def powerOfTen (exponent : Nat) : Binary64 := Binary64.ofRatio false (Nat.pow 10 exponent) 1

/-- A number scaled by a power of ten. `none` if it gets too large. Small powers are reached in
steps of the largest one there is; two steps bring every word to zero. -/
def scale (x : Binary64) (exponent : Int) : Nat → Option Binary64
  | 0 => some x
  | fuel + 1 =>
    if exponent.natAbs ≤ 308 then
      if 0 ≤ exponent then
        let y := x.mul (powerOfTen exponent.natAbs)
        if y.isFinite then some y else none
      else some (x.div (powerOfTen exponent.natAbs))
    else if x.same (Binary64.zero false) then some x
    else if 0 ≤ exponent then none
    else scale (x.div (powerOfTen 308)) (exponent + 308) fuel

/-- The floating point number of scaled digits. -/
def Scaled.toFloat (s : Scaled) (negative : Bool) : Option Binary64 :=
  (scale (Binary64.ofNat s.significand) s.exponent 4).map fun x ↦ if negative then x.neg else x

/-- The whole number of some digits: `-0` and what fits into no word are floating point numbers. -/
def wholeNode (negative : Bool) (digits : List Char) : Option Node :=
  let s := Scaled.whole 0 digits
  if s.exponent ≠ 0 then (s.toFloat negative).map .float
  else if !negative then some (.uint (UInt64.ofNat s.significand))
  else if 0 < s.significand ∧ s.significand ≤ Nat.pow 2 63 then
    some (.int (Int64.ofInt (-s.significand)))
  else some (.float (Binary64.ofNat s.significand).neg)

/-- The number of an exponent's digits. `none` if it is larger than a word of 32 bits with a
sign. -/
def exponentOf (digits : List Char) : Option Nat :=
  let n := digits.foldl (fun n c ↦ 10 * n + digitValue c) 0
  if n < Nat.pow 2 31 then some n else none

/-- Scaled digits with an exponent in the text. -/
def scaledNode (negative : Bool) (s : Scaled) (down : Bool) (digits : List Char) : Option Node :=
  match exponentOf digits with
  | some n =>
    ((Scaled.toFloat ⟨s.significand, if down then s.exponent - n else s.exponent + n⟩ negative)).map
      .float
  | none =>
    if s.significand ≠ 0 ∧ !down then none else some (.float (Binary64.zero negative))

/-- The fault of a text that breaks the grammar. -/
def malformed (expected : String) : Node := .broken ⟨.malformed expected, none⟩

/-- A number that could be computed, with the rest of the text. -/
def numberOr (node : Option Node) (rest : List Char) : Node × Option (List Char) :=
  match node with
  | some node => (node, some rest)
  | none => (malformed "a number in range", none)

/-- The exponent of a number, behind its mark. -/
def readExponent (negative : Bool) (s : Scaled) (text : List Char) : Node × Option (List Char) :=
  let (down, text) := match text with
    | '-' :: rest => (true, rest)
    | '+' :: rest => (false, rest)
    | all => (false, all)
  let digits := text.takeWhile Char.isDigit
  if digits.isEmpty then (malformed "a digit of an exponent", none)
  else numberOr (scaledNode negative s down digits) (text.dropWhile Char.isDigit)

/-- Reads a number, behind its sign. -/
def readNumber (negative : Bool) (text : List Char) : Node × Option (List Char) :=
  let digits := text.takeWhile Char.isDigit
  let rest := text.dropWhile Char.isDigit
  if digits.isEmpty || (digits.head? == some '0' && digits.length ≠ 1) then
    (malformed "a number", none)
  else
    match rest with
    | '.' :: more =>
      let fraction := more.takeWhile Char.isDigit
      let after := more.dropWhile Char.isDigit
      let s := (Scaled.whole 0 digits).addFraction fraction
      if fraction.isEmpty then (malformed "a digit of a fraction", none)
      else
        match after with
        | 'e' :: tail | 'E' :: tail => readExponent negative s tail
        | _ => numberOr ((s.toFloat negative).map .float) after
    | 'e' :: tail | 'E' :: tail => readExponent negative (Scaled.whole 0 digits) tail
    | _ => numberOr (wholeNode negative digits) rest

end ConfigResolver.Json
