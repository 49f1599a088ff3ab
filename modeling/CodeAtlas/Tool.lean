import CodeAtlas.Text.Basic

/-!
# Tools

The operations as the tools of a server, and sets of them.
-/

namespace CodeAtlas

/-- An operation that a server offers. -/
inductive Tool where
  /-- The tree under a directory. -/
  | dirTree
  /-- The outlines of Python files. -/
  | pythonOutline
  /-- The headings of Markdown files. -/
  | markdownOutline
  deriving DecidableEq, Repr

namespace Tool

/-- The tools in the order in which they are declared. -/
def all : List Tool := [.dirTree, .pythonOutline, .markdownOutline]

/-- The tools in the order of their names. -/
def byName : List Tool := [.dirTree, .markdownOutline, .pythonOutline]

/-- The name of a tool. -/
def name : Tool → Text
  | .dirTree => "dir_tree".toList
  | .pythonOutline => "python_outline".toList
  | .markdownOutline => "markdown_outline".toList

/-- The tool with the given name. -/
def ofName? (s : Text) : Option Tool := all.find? (·.name == s)

end Tool

/-- Which tools are turned on. -/
structure ToolSet where
  /-- Whether the tree is. -/
  dirTree : Bool
  /-- Whether the outlines are. -/
  pythonOutline : Bool
  /-- Whether the headings are. -/
  markdownOutline : Bool
  deriving DecidableEq, Repr

namespace ToolSet

/-- Whether a tool is turned on. -/
def has (s : ToolSet) : Tool → Bool
  | .dirTree => s.dirTree
  | .pythonOutline => s.pythonOutline
  | .markdownOutline => s.markdownOutline

/-- All tools. -/
def full : ToolSet := ⟨true, true, true⟩

/-- The set without the tool of the given name. -/
def without (s : ToolSet) (name : Text) : ToolSet :=
  match Tool.ofName? name with
  | some .dirTree => { s with dirTree := false }
  | some .pythonOutline => { s with pythonOutline := false }
  | some .markdownOutline => { s with markdownOutline := false }
  | none => s

/-- The tools turned on, in the order in which they are declared. -/
def enabled (s : ToolSet) : List Tool := Tool.all.filter s.has

theorem mem_enabled_iff {s : ToolSet} {t : Tool} : t ∈ s.enabled ↔ s.has t = true := by
  have hmem : t ∈ Tool.all := by cases t <;> decide
  rw [enabled, List.mem_filter]
  exact and_iff_right hmem

end ToolSet

end CodeAtlas
