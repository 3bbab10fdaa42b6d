import ConfigResolver.Yaml.Typing

/-!
# How texts are quoted

A text is written as a block if it has lines, without quotes if it reads back as the same text,
and otherwise in single quotes, or in double quotes where it needs escapes.
-/

namespace ConfigResolver.Yaml

/-- The ways to write a text. -/
inductive Quoting where
  /-- Without quotes. -/
  | plain
  /-- In single quotes; only a single quote is escaped, by another one. -/
  | single
  /-- In double quotes, with escapes. -/
  | double
  /-- As lines below a vertical bar. -/
  | block
deriving DecidableEq, Repr

/-! ## What a text holds -/

/-- Whether a character is shown as it is. -/
def isPrintable (c : Char) : Bool :=
  c == '\n' || (0x20 ≤ c.val && c.val ≤ 0x7E) || (0xA0 ≤ c.val && c.val ≤ 0xD7FF) ||
    (0xE000 ≤ c.val && c.val ≤ 0xFFFD && c != byteOrderMark) || 0x10000 ≤ c.val

/-- Whether a colon is followed by a gap. -/
def hasLooseColon : List Char → Bool
  | [] => false
  | c :: rest => (c == ':' && atGap rest) || hasLooseColon rest

/-- Whether a character that passes one test is followed by one that passes another. -/
def hasPair (p q : Char → Bool) : List Char → Bool
  | a :: b :: rest => (p a && q b) || hasPair p q (b :: rest)
  | _ => false

/-- The indicators that no plain text starts with. -/
def reservedStarts : List Char :=
  ['#', ',', '[', ']', '{', '}', '&', '*', '!', '|', '>', '\'', '"', '%', '@', '\x60']

/-- Whether a text would be read as something else without quotes. -/
def hasIndicator (s : List Char) : Bool :=
  (match s with
    | c :: rest => reservedStarts.contains c || (['?', '-'].contains c && atGap rest)
    | [] => false) ||
    ['-', '-', '-'].isPrefixOf s || ['.', '.', '.'].isPrefixOf s || hasLooseColon s ||
    hasPair (fun a ↦ isBlank a || isBreak a) (· == '#') s

/-- Whether a text starts or ends with a space or the end of a line. -/
def hasOuterGap (s : List Char) : Bool :=
  s.head?.any (fun c ↦ c == ' ' || isBreak c) || s.getLast?.any (fun c ↦ c == ' ' || isBreak c)

/-- Whether a line ends with a space, or a character needs an escape. -/
def needsEscape (s : List Char) : Bool := hasPair (· == ' ') isBreak s || !s.all isPrintable

/-! ## The choice -/

/-- Whether single quotes keep a text. -/
def fitsSingle (s : List Char) : Bool := !needsEscape s && !hasPair isBreak (· == ' ') s

/-- Whether a text reads back without quotes, if it spells no other type. -/
def fitsPlain (s : List Char) : Bool :=
  fitsSingle s && !hasOuterGap s && !s.any isBreak && !hasIndicator s

/-- Whether a block keeps a text. -/
def fitsBlock (s : List Char) : Bool := !needsEscape s && s.getLast? != some ' '

/-- Whether a text spells another type. -/
def spellsType (s : List Char) : Bool :=
  hasLeadingZero s || !(plainNode s matches .ok (.string _))

/-- How a text is quoted. -/
def Quoting.of (s : List Char) : Quoting :=
  if s.contains '\n' then if fitsBlock s then .block else .double
  else if fitsPlain s && !spellsType s then .plain
  else if fitsSingle s then .single
  else .double

/-! ## Quoted texts -/

/-- The letter of a short escape. -/
def escapeLetter? (c : Char) : Option Char :=
  match c with
  | '\x00' => some '0'
  | '\x07' => some 'a'
  | '\x08' => some 'b'
  | '\t' => some 't'
  | '\n' => some 'n'
  | '\x0b' => some 'v'
  | '\x0c' => some 'f'
  | '\r' => some 'r'
  | '\x1b' => some 'e'
  | '"' => some '"'
  | '\\' => some '\\'
  | '\x85' => some 'N'
  | '\u2028' => some 'L'
  | '\u2029' => some 'P'
  | _ => none

/-- The last `width` hexadecimal digits of a number. -/
def hexDigits (width n : Nat) : List Char :=
  match width with
  | 0 => []
  | width + 1 => hexDigits width (n / 16) ++ [(Nat.digitChar (n % 16)).toUpper]

/-- A character as an escape by number. -/
def numberEscape (c : Char) : List Char :=
  if c.toNat < 0x100 then '\\' :: 'x' :: hexDigits 2 c.toNat
  else if c.toNat < 0x10000 then '\\' :: 'u' :: hexDigits 4 c.toNat
  else '\\' :: 'U' :: hexDigits 8 c.toNat

/-- A character in double quotes. -/
def inDouble (c : Char) : List Char :=
  match escapeLetter? c with
  | some letter => ['\\', letter]
  | none => if isPrintable c then [c] else numberEscape c

/-- The rest of a text in single quotes, whose lines start behind `margin`. The flag says whether
a line has just ended. -/
def inSingle (margin : List Char) (broken : Bool) : List Char → List Char
  | [] => if broken then margin else []
  | c :: rest =>
    if isBreak c then c :: inSingle margin true rest
    else (if broken then margin else []) ++ (if c = '\'' then ['\'', '\''] else [c]) ++
      inSingle margin false rest

/-- The rest of a block, whose lines start behind `margin` and whose last line is ended. The flag
says whether a line has just ended. -/
def inBlock (margin : List Char) (broken : Bool) : List Char → List Char
  | [] => if broken then [] else ['\n']
  | c :: rest =>
    if isBreak c then c :: inBlock margin true rest
    else (if broken then margin else []) ++ c :: inBlock margin false rest

/-- What a block says about its text: its indentation, where the text starts with a gap, and
whether the text ends without the end of a line or with more than one. -/
def blockHints (s : List Char) : List Char :=
  (if s.head?.any (fun c ↦ c == ' ' || isBreak c) then ['2'] else []) ++
    match s.reverse with
    | [] => ['-']
    | [last] => if isBreak last then ['+'] else ['-']
    | last :: previous :: _ =>
      if !isBreak last then ['-'] else if isBreak previous then ['+'] else []

/-- A text on the line where it starts. Further lines of one in single quotes start behind
`margin`. -/
def onLine (margin s : List Char) : List Char :=
  match Quoting.of s with
  | .single => '\'' :: inSingle margin false s ++ ['\'']
  | .double => '"' :: s.flatMap inDouble ++ ['"']
  | .plain | .block => s

/-- A text up to the end of its last line. Further lines start behind `margin`. -/
def quoted (margin s : List Char) : List Char :=
  if Quoting.of s = .block then '|' :: blockHints s ++ '\n' :: inBlock margin true s
  else onLine margin s ++ ['\n']

end ConfigResolver.Yaml
