/-!
# Reading UTF-8

Bytes are read one character at a time. Where no character can be read, the longest start of a
character that stands there is one fault. A strict reading refuses a text with a fault, a lenient
one puts the replacement character in the place of each fault.
-/

namespace ConfigResolver.Text.Utf8

/-- The character that stands for bytes that could not be read. -/
def replacement : Char := '\uFFFD'

/-- Whether a byte continues a character. -/
def continues (b : UInt8) : Bool := 0x80 ≤ b && b ≤ 0xBF

/-- The six bits that a continuing byte carries. -/
def bitsOf (b : UInt8) : Nat := b.toNat % 64

/-- Reads the last byte of a character whose earlier bits are `high`. -/
def readLast (high : Nat) : List UInt8 → Option Char × List UInt8
  | b :: rest => if continues b then (some (Char.ofNat (high * 64 + bitsOf b)), rest)
      else (none, b :: rest)
  | [] => (none, [])

/-- Reads the last two bytes of a character whose earlier bits are `high`, the first of them
restricted by `allowed`. -/
def readTwo (allowed : UInt8 → Bool) (high : Nat) : List UInt8 → Option Char × List UInt8
  | b :: rest => if allowed b then readLast (high * 64 + bitsOf b) rest else (none, b :: rest)
  | [] => (none, [])

/-- Reads the last three bytes of a character whose earlier bits are `high`, the first of them
restricted by `allowed`. -/
def readThree (allowed : UInt8 → Bool) (high : Nat) : List UInt8 → Option Char × List UInt8
  | b :: rest => if allowed b then readTwo continues (high * 64 + bitsOf b) rest
      else (none, b :: rest)
  | [] => (none, [])

/-- Reads one character whose first byte is `b`, or one fault (`none`); answers what is left. -/
def readChar (b : UInt8) (rest : List UInt8) : Option Char × List UInt8 :=
  if b < 0x80 then (some (Char.ofNat b.toNat), rest)
  else if 0xC2 ≤ b && b ≤ 0xDF then readLast (b.toNat % 32) rest
  else if b == 0xE0 then readTwo (fun x ↦ 0xA0 ≤ x && x ≤ 0xBF) 0 rest
  else if b == 0xED then readTwo (fun x ↦ 0x80 ≤ x && x ≤ 0x9F) 13 rest
  else if 0xE1 ≤ b && b ≤ 0xEF then readTwo continues (b.toNat % 16) rest
  else if b == 0xF0 then readThree (fun x ↦ 0x90 ≤ x && x ≤ 0xBF) 0 rest
  else if 0xF1 ≤ b && b ≤ 0xF3 then readThree continues (b.toNat % 8) rest
  else if b == 0xF4 then readThree (fun x ↦ 0x80 ≤ x && x ≤ 0x8F) 4 rest
  else (none, rest)

theorem length_readLast_le (high : Nat) (s : List UInt8) :
    (readLast high s).2.length ≤ s.length := by
  cases s with
  | nil => simp [readLast]
  | cons b s => simp only [readLast]; split <;> simp

theorem length_readTwo_le (allowed : UInt8 → Bool) (high : Nat) (s : List UInt8) :
    (readTwo allowed high s).2.length ≤ s.length := by
  cases s with
  | nil => simp [readTwo]
  | cons b s =>
    simp only [readTwo]
    split
    · exact Nat.le_succ_of_le (length_readLast_le _ s)
    · simp

theorem length_readThree_le (allowed : UInt8 → Bool) (high : Nat) (s : List UInt8) :
    (readThree allowed high s).2.length ≤ s.length := by
  cases s with
  | nil => simp [readThree]
  | cons b s =>
    simp only [readThree]
    split
    · exact Nat.le_succ_of_le (length_readTwo_le _ _ s)
    · simp

/-- Reading a character leaves no more than was there after its first byte. -/
theorem length_readChar_le (b : UInt8) (s : List UInt8) :
    (readChar b s).2.length ≤ s.length := by
  unfold readChar
  repeat' split
  all_goals simp [length_readLast_le, length_readTwo_le, length_readThree_le]

/-- The characters of a text, with `none` for each fault. -/
def read : List UInt8 → List (Option Char)
  | [] => []
  | b :: rest => (readChar b rest).1 :: read (readChar b rest).2
termination_by s => s.length
decreasing_by exact Nat.lt_succ_of_le (length_readChar_le b rest)

/-- The text that bytes spell, if they have no fault. -/
def decode? (s : List UInt8) : Option (List Char) := (read s).mapM id

/-- The text that bytes spell, with the replacement character for each fault. -/
def decodeLossy (s : List UInt8) : List Char := (read s).map (·.getD replacement)

@[simp] theorem read_nil : read [] = [] := by simp [read]

theorem read_cons (b : UInt8) (rest : List UInt8) :
    read (b :: rest) = (readChar b rest).1 :: read (readChar b rest).2 := by
  rw [read]

end ConfigResolver.Text.Utf8
