import CodeAtlas.Text.Basic

/-!
# Formats of a directory tree

The three ways to show a tree, and the Markdown document that holds the text of one.
-/

namespace CodeAtlas

/-- How to show a directory tree. -/
inductive TreeFormat where
  /-- Indented lines. -/
  | text
  /-- Nested objects. -/
  | json
  /-- The indented lines in a fenced block under a heading. -/
  | markdown
  deriving DecidableEq, Repr

namespace TreeFormat

/-- The formats in the order in which they are offered. -/
def all : List TreeFormat := [.text, .json, .markdown]

/-- The name of a format. -/
def name : TreeFormat → Text
  | .text => "text".toList
  | .json => "json".toList
  | .markdown => "markdown".toList

/-- The format with the given name. -/
def ofName? (s : Text) : Option TreeFormat := all.find? (·.name == s)

end TreeFormat

/-- A tree as a fenced block under a heading that names the root. -/
def renderMarkdown (root tree : Text) : Text :=
  "## Directory Tree: ".toList ++ root ++ "\n\n```\n".toList ++ tree ++ "\n```".toList

end CodeAtlas
