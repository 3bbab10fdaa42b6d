import ConfigResolver.Yaml.Tree

/-!
# The types of YAML scalars

A plain scalar is null, a truth value, a whole number, a floating point number or a text,
whichever it spells first. A tag can force one of these types; a tag that starts with an
exclamation mark is not known.
-/

namespace ConfigResolver.Yaml

/-! ## What a text spells -/

/-- The spellings of null. -/
def nulls : List (List Char) :=
  [['n', 'u', 'l', 'l'], ['N', 'u', 'l', 'l'], ['N', 'U', 'L', 'L'], ['~']]

/-- The spellings of a statement that holds. -/
def trues : List (List Char) :=
  [['t', 'r', 'u', 'e'], ['T', 'r', 'u', 'e'], ['T', 'R', 'U', 'E']]

/-- The spellings of a statement that does not hold. -/
def falses : List (List Char) :=
  [['f', 'a', 'l', 's', 'e'], ['F', 'a', 'l', 's', 'e'], ['F', 'A', 'L', 'S', 'E']]

/-- The spellings of infinity, without a sign. -/
def infinities : List (List Char) :=
  [['.', 'i', 'n', 'f'], ['.', 'I', 'n', 'f'], ['.', 'I', 'N', 'F']]

/-- The spellings of what is no number. -/
def nans : List (List Char) := [['.', 'n', 'a', 'n'], ['.', 'N', 'a', 'N'], ['.', 'N', 'A', 'N']]

/-- Whether a text spells null. -/
def isNull (s : List Char) : Bool := nulls.contains s

/-- The truth value that a text spells. -/
def bool? (s : List Char) : Option Bool :=
  if trues.contains s then some true else if falses.contains s then some false else none

/-- A text without a sign at its start. -/
def unsigned (s : List Char) : List Char :=
  match s with
  | '+' :: rest | '-' :: rest => rest
  | _ => s

/-- Whether a text is several digits with a zero in front: such a text is no number. -/
def hasLeadingZero (s : List Char) : Bool :=
  match unsigned s with
  | '0' :: d :: rest => (d :: rest).all Char.isDigit
  | _ => false

/-- The value of a digit in a base. -/
def digit? (base : Nat) (c : Char) : Option Nat :=
  (Text.hexValue? c).bind fun n ↦ if n < base then some n else none

/-- The number that the digits of a base spell. -/
def natural? (base : Nat) (s : List Char) : Option Nat :=
  if s.isEmpty then none
  else s.foldl (fun n c ↦ do return (← n) * base + (← digit? base c)) (some 0)

/-- The bases other than ten, and the letters that stand for them. -/
def bases : List (Char × Nat) := [('x', 16), ('o', 8), ('b', 2)]

/-- The number that a text without a sign spells in a base other than ten. -/
def based? (s : List Char) : Option Nat :=
  match s with
  | '0' :: letter :: digits => (bases.lookup letter).bind (natural? · digits)
  | _ => none

/-- The number that a text without a minus sign spells. -/
def positive? (s : List Char) : Option Nat :=
  let text := match s with
    | '+' :: rest => rest
    | _ => s
  match based? text with
  | some n => some n
  | none => if hasLeadingZero s then none else natural? 10 text

/-- The number that stands behind the minus sign of a text. -/
def negative? (s : List Char) : Option Nat :=
  match s with
  | '-' :: text =>
    match based? text with
    | some n => some n
    | none => if hasLeadingZero s then none else natural? 10 text
  | _ => none

/-- A whole number as a node. What fits into no word of 64 bits is out of range, unless it does
not even fit into one of 128. -/
def whole? (s : List Char) : Option (Except String Node) :=
  match positive? s with
  | some n =>
    if n < Nat.pow 2 64 then some (.ok (.uint (UInt64.ofNat n)))
    else if n < Nat.pow 2 128 then some (.error "an integer in range")
    else none
  | none =>
    match negative? s with
    | some n =>
      if n ≤ Nat.pow 2 63 then some (.ok (.int (Int64.ofInt (-n))))
      else if n ≤ Nat.pow 2 127 then some (.error "an integer in range")
      else none
    | none => none

/-- The exponent that a text spells, with its mark. The empty text spells 0. -/
def exponent? (s : List Char) : Option Int :=
  match s with
  | [] => some 0
  | e :: rest =>
    if e != 'e' && e != 'E' then none
    else
      match rest with
      | '-' :: digits => (natural? 10 digits).map fun n ↦ -(n : Int)
      | '+' :: digits => (natural? 10 digits).map Int.ofNat
      | digits => (natural? 10 digits).map Int.ofNat

/-- The floating point number that a decimal spells: digits with a point before, between or behind
them, and maybe an exponent. One that is too large is none. -/
def decimal? (s : List Char) : Option Binary64 := do
  let text := unsigned s
  let front := text.takeWhile Char.isDigit
  let (back, rest) := match text.dropWhile Char.isDigit with
    | '.' :: more => (more.takeWhile Char.isDigit, more.dropWhile Char.isDigit)
    | other => ([], other)
  if front.isEmpty && back.isEmpty then none
  else
    let digits ← natural? 10 (front ++ back)
    let exponent ← exponent? rest
    let x := Binary64.ofDecimal (s.head? == some '-') digits (exponent - back.length)
    if x.isFinite then some x else none

/-- The floating point number that a text spells. -/
def float? (s : List Char) : Option Binary64 :=
  let text := match s with
    | '+' :: rest => rest
    | _ => s
  if s.head? == some '+' && text.head?.any (fun c ↦ c == '+' || c == '-') then none
  else if infinities.contains text then some (.infinity false)
  else if (infinities.map ('-' :: ·)).contains s then some (.infinity true)
  else if nans.contains s then some .nan
  else decimal? text

/-- The node of a plain scalar, or what it should have been. -/
def plainNode (s : List Char) : Except String Node :=
  if s.isEmpty || isNull s then .ok .null
  else
    match bool? s with
    | some b => .ok (.bool b)
    | none =>
      match whole? s with
      | some node => node
      | none =>
        match if hasLeadingZero s then none else float? s with
        | some x => .ok (.float x)
        | none => .ok (.string (String.ofList s))

/-! ## Tags -/

/-- What the tags of the core types start with. -/
def coreTag (name : String) : List Char := ("tag:yaml.org,2002:" ++ name).toList

/-- Whether a tag is one that no type is known for. -/
def isUnknownTag (tag : Option (List Char)) : Bool := (tag.bind List.head?) == some '!'

/-- The node of a scalar with the tag of a core type, or what it should have been. Any other tag
makes it a text. -/
def taggedNode (tag s : List Char) : Except String Node :=
  if tag = coreTag "bool" then
    match bool? s with
    | some b => .ok (.bool b)
    | none => .error "a boolean"
  else if tag = coreTag "int" then (whole? s).getD (.error "an integer")
  else if tag = coreTag "float" then
    match float? s with
    | some x => .ok (.float x)
    | none => .error "a float"
  else if tag = coreTag "null" then if isNull s then .ok .null else .error "null"
  else .ok (.string (String.ofList s))

/-- The node of a scalar, or what it should have been. -/
def scalarNode (tag : Option (List Char)) (style : Style) (s : List Char) : Except String Node :=
  match tag with
  | some tag => taggedNode tag s
  | none =>
    match style with
    | .plain => plainNode s
    | .quoted => .ok (.string (String.ofList s))

end ConfigResolver.Yaml
