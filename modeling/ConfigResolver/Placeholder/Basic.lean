import ConfigResolver.Text.Blank

/-!
# Placeholders

A scalar may hold tokens such as `{!ENV: HOME}` or `\{!SSM: db/password !DEFAULT: changeme}`.
A token names a source, a key, and may carry a default of its own. Texts are lists of characters.

`Token.Spells` is the grammar of tokens, `Token.write` writes a token in its canonical form, and
a `Placeholder` is a token together with the text around it.
-/

namespace ConfigResolver

/-- Where the value of a placeholder comes from. -/
inductive Source where
  /-- The variables of the running process. -/
  | environment
  /-- The remote parameter store. -/
  | parameterStore
deriving DecidableEq, Repr

namespace Source

/-- The tag that stands for a source inside a token. -/
def tag : Source → List Char
  | environment => ['E', 'N', 'V']
  | parameterStore => ['S', 'S', 'M']

/-- The source that a tag stands for. Tags are case-sensitive. -/
def ofTag? (tag : List Char) : Option Source :=
  if tag = environment.tag then some environment
  else if tag = parameterStore.tag then some parameterStore
  else none

/-- What messages call a value of this source. -/
def description : Source → String
  | environment => "environment variable"
  | parameterStore => "SSM parameter"

@[simp] theorem ofTag?_tag (source : Source) : ofTag? source.tag = some source := by
  cases source <;> rfl

theorem ofTag?_eq_some_iff {tag : List Char} {source : Source} :
    ofTag? tag = some source ↔ tag = source.tag := by
  constructor
  · intro h
    unfold ofTag? at h
    split at h
    · next e => cases h; exact e
    · split at h
      · next e => cases h; exact e
      · cases h
  · rintro rfl
    exact ofTag?_tag source

end Source

/-- The reference that a token makes: its key is trimmed, and its default is trimmed and not
blank. -/
structure Token where
  /-- Where the value comes from. -/
  source : Source
  /-- The key, not yet qualified by a root path. -/
  key : List Char
  /-- The default that the token carries. -/
  fallback : Option (List Char)
deriving DecidableEq, Repr

namespace Token

/-- What every token starts with. -/
def opening : List Char := ['{', '!']

/-- What stands between the key and the default. -/
def defaultMarker : List Char := ['!', 'D', 'E', 'F', 'A', 'U', 'L', 'T', ':']

/-- A default of a token: blank text counts as no default. -/
def fallbackOf (raw : List Char) : Option (List Char) :=
  let text := Text.trim raw
  if text.isEmpty then none else some text

/-- `t.Spells s`: the text `s` is one spelling of the token `t`. A raw key holds neither a
closing brace nor an exclamation mark, a raw default no closing brace. -/
inductive Spells : Token → List Char → Prop
  /-- A token without a default. -/
  | plain (source : Source) (raw : List Char) (noClose : '}' ∉ raw) (noMark : '!' ∉ raw) :
      Spells ⟨source, Text.trim raw, none⟩
        (opening ++ source.tag ++ ':' :: raw ++ ['}'])
  /-- A token with a default. -/
  | withDefault (source : Source) (raw rawDefault : List Char) (noClose : '}' ∉ raw)
      (noMark : '!' ∉ raw) (noCloseDefault : '}' ∉ rawDefault) :
      Spells ⟨source, Text.trim raw, fallbackOf rawDefault⟩
        (opening ++ source.tag ++ ':' :: raw ++ defaultMarker ++ rawDefault ++ ['}'])

/-- The canonical spelling of a token: one space before the key, and one around the marker. -/
def write (t : Token) : List Char :=
  opening ++ t.source.tag ++ [':', ' '] ++ t.key ++
    (match t.fallback with
      | none => []
      | some text => ' ' :: defaultMarker ++ ' ' :: text) ++ ['}']

end Token

/-- A token found in a text, with the text before and after it. -/
structure Placeholder where
  /-- The text before the token. -/
  before : List Char
  /-- The token. -/
  token : Token
  /-- The text after the token, which may hold further tokens. -/
  after : List Char
deriving DecidableEq, Repr

namespace Placeholder

/-- The text with `value` in the place of the token. -/
def substitute (p : Placeholder) (value : List Char) : List Char :=
  p.before ++ value ++ p.after

/-- The placeholder seen from one character further left. -/
def shift (c : Char) (p : Placeholder) : Placeholder := { p with before := c :: p.before }

@[simp] theorem before_shift (c : Char) (p : Placeholder) :
    (p.shift c).before = c :: p.before := rfl
@[simp] theorem token_shift (c : Char) (p : Placeholder) : (p.shift c).token = p.token := rfl
@[simp] theorem after_shift (c : Char) (p : Placeholder) : (p.shift c).after = p.after := rfl

end Placeholder

end ConfigResolver
