import CodeAtlas.Text.Blank
import CodeAtlas.Text.Newline

/-!
# Headings of a Markdown text

A line is a heading when it begins with one or more `#`, then white space, then some text.
Every such line counts, also inside a code block.
-/

namespace CodeAtlas

/-- A heading with its level, its trimmed text and its line, the first line being 1. -/
structure Heading where
  /-- How many `#` the line begins with. -/
  level : Nat
  /-- The text after them, trimmed. -/
  text : Text
  /-- The line it stands on. -/
  line : Nat
  deriving DecidableEq, Repr

namespace Heading

/-- The heading that a line holds, if it holds one. -/
def ofLine? (line : Nat) (s : Text) : Option Heading :=
  let rest := s.dropWhile (· == '#')
  let level := (s.takeWhile (· == '#')).length
  if level = 0 then none
  else
    match rest with
    | [] => none
    | c :: _ =>
      if isBlank c then
        let text := Text.trim rest
        if text.isEmpty then none else some ⟨level, text, line⟩
      else none

/-- The headings of consecutive lines, the first of which has the given number. -/
def ofLines (line : Nat) : List Text → List Heading
  | [] => []
  | l :: ls =>
    match ofLine? line l with
    | some h => h :: ofLines (line + 1) ls
    | none => ofLines (line + 1) ls

/-- The headings of a Markdown text in line order. -/
def all (content : Text) : List Heading :=
  ofLines 1 (Text.lines (Text.normalizeNewlines content))

end Heading

end CodeAtlas
