import CodeAtlas.Heading
import CodeAtlas.Json.Basic
import CodeAtlas.Python.Outline

/-!
# Outlines as structured data

The value of an outline has every member, also one that is null or an empty list.
-/

namespace CodeAtlas

/-- The value of a heading. -/
def Heading.toJson (h : Heading) : Json :=
  .ofMembers [("level", .ofNat h.level), ("text", .str h.text), ("line", .ofNat h.line)]

namespace Python

/-- The value of an imported name. -/
def ImportEntry.toJson (i : ImportEntry) : Json :=
  .ofMembers [("name", .str i.name), ("line", .ofNat i.line)]

/-- The value of a function. -/
def FunctionEntry.toJson (f : FunctionEntry) : Json :=
  .ofMembers [("name", .str f.name), ("line", .ofNat f.line), ("docstring", .ofText? f.docstring)]

/-- The value of a class. -/
def ClassEntry.toJson (c : ClassEntry) : Json :=
  .ofMembers [("name", .str c.name), ("line", .ofNat c.line), ("docstring", .ofText? c.docstring),
    ("methods", .arr (c.methods.map FunctionEntry.toJson))]

/-- The value of an outline. -/
def Outline.toJson (o : Outline) : Json :=
  .ofMembers [("docstring", .ofText? o.docstring),
    ("imports", .arr (o.imports.map ImportEntry.toJson)),
    ("classes", .arr (o.classes.map ClassEntry.toJson)),
    ("functions", .arr (o.functions.map FunctionEntry.toJson))]

/-- The words for the error. -/
def OutlineError.message : OutlineError → Text
  | .malformed line => "invalid syntax (line ".toList ++ Text.ofNat line ++ [')']

end Python

end CodeAtlas
