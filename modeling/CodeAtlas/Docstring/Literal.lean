import CodeAtlas.Docstring.Cleaning
import CodeAtlas.Docstring.Escape

/-!
# String literals as docstrings

A docstring is written as one or more string literals side by side. Each is decoded, the texts
are joined, and only then is the indentation cleaned. A bytes literal or a format string
anywhere disqualifies the whole.
-/

namespace CodeAtlas.Docstring

/-- The delimiters of a literal, the longer ones first. -/
def quotes : List Text := ["\"\"\"".toList, "'''".toList, "\"".toList, "'".toList]

/-- The letters before the opening delimiter, in lower case. -/
def literalPrefix (literal : Text) : Text := Text.asciiLower (literal.takeWhile Char.isAlpha)

/-- The value of one literal, unless it is a bytes literal, a format string, or not delimited
at both ends. -/
def decode? (names : CharacterNames) (literal : Text) : Option Text :=
  let letters := literalPrefix literal
  if letters.has 'b' || letters.has 'f' then none
  else
    match Text.stripDelimiters (literal.dropWhile Char.isAlpha) quotes with
    | none => none
    | some body => some (if letters.has 'r' then body else unescape names body)

/-- The values of the literals, joined. -/
def decodeAll? (names : CharacterNames) : List Text → Option Text
  | [] => some []
  | l :: ls =>
    match decode? names l with
    | none => none
    | some s => (decodeAll? names ls).map (s ++ ·)

/-- The docstring that adjacent literals make; there is none when its text is empty. -/
def ofLiterals? (names : CharacterNames) (literals : List Text) : Option Text :=
  match decodeAll? names literals with
  | none => none
  | some s => if (clean s).isEmpty then none else some (clean s)

/-- The docstring that one literal makes. -/
def ofLiteral? (names : CharacterNames) (literal : Text) : Option Text :=
  ofLiterals? names [literal]

theorem ofLiterals?_ne_nil {names : CharacterNames} {ls : List Text} {s : Text}
    (h : ofLiterals? names ls = some s) : s ≠ [] := by
  unfold ofLiterals? at h
  split at h
  · simp at h
  · split at h
    · simp at h
    · next hne => cases h; simpa using hne

end CodeAtlas.Docstring
