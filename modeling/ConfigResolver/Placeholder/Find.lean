import ConfigResolver.Placeholder.Basic
import ConfigResolver.Text.Bytes

/-!
# The leftmost placeholder of a text

`Token.match?` reads one token at the start of a text, `Placeholder.find` the leftmost token
anywhere in it. A candidate that turns out not to be a token hides nothing: the search goes on at
the next character, so a token may start inside a failed candidate.
-/

namespace ConfigResolver

namespace Token

/-- What follows the key: the closing brace, or a default and the closing brace. -/
def matchEnd? (s : List Char) : Option (Option (List Char) × List Char) :=
  match s with
  | '}' :: rest => some (none, rest)
  | _ =>
    match defaultMarker.isPrefixOf? s with
    | none => none
    | some rest =>
      match rest.dropWhile (· ≠ '}') with
      | [] => none
      | _ :: after => some (fallbackOf (rest.takeWhile (· ≠ '}')), after)

/-- Ends a raw key: the closing brace, or the mark that starts a default. -/
def endsKey (c : Char) : Bool := c == '}' || c == '!'

/-- The key and what follows it, after the colon. -/
def matchBody? (source : Source) (s : List Char) : Option (Token × List Char) :=
  match matchEnd? (s.dropWhile (!endsKey ·)) with
  | none => none
  | some (fallback, after) =>
    some (⟨source, Text.trim (s.takeWhile (!endsKey ·)), fallback⟩, after)

/-- Reads the token at the start of a text; answers the token and the rest of the text. -/
def match? (s : List Char) : Option (Token × List Char) :=
  match opening.isPrefixOf? s with
  | none => none
  | some rest =>
    match rest.dropWhile (· ≠ ':') with
    | [] => none
    | _ :: body =>
      match Source.ofTag? (rest.takeWhile (· ≠ ':')) with
      | none => none
      | some source => matchBody? source body

end Token

namespace Placeholder

/-- The leftmost placeholder of a text. -/
def find : List Char → Option Placeholder
  | [] => none
  | c :: s =>
    match Token.match? (c :: s) with
    | some (token, after) => some ⟨[], token, after⟩
    | none => (find s).map (shift c)

/-- Whether a text holds a placeholder. Without an opening the text is not searched. -/
def occurs (s : List Char) : Bool := Text.hasPart Token.opening s && (find s).isSome

@[simp] theorem find_nil : find [] = none := rfl

theorem find_of_match {c : Char} {s after : List Char} {t : Token}
    (h : Token.match? (c :: s) = some (t, after)) : find (c :: s) = some ⟨[], t, after⟩ := by
  simp [find, h]

theorem find_of_no_match {c : Char} {s : List Char} (h : Token.match? (c :: s) = none) :
    find (c :: s) = (find s).map (shift c) := by
  simp [find, h]

end Placeholder

end ConfigResolver
