import CodeAtlas.Json.Basic
import CodeAtlas.Tool

/-!
# The catalogue of tools

What a server tells about itself and about its tools: a description of each, and the schema of
its arguments.
-/

namespace CodeAtlas

/-- The name of the program. -/
def programName : String := "project-explorer"

/-- The version of the program. -/
def programVersion : String := "0.2.0"

/-- The version of the protocol that the server speaks. -/
def protocolVersion : Text := "2024-11-05".toList

/-- How the server wants to be used. -/
def instructions : String :=
  "Read-only project exploration. All paths must be absolute, exist on disk and contain " ++
  "no URL-encoding. Use dir_tree for an overview of a directory, python_outline for the " ++
  "imports, classes and functions of Python files, and markdown_outline for the headings " ++
  "of Markdown files."

namespace Tool

/-- What a tool is for. -/
def description : Tool → String
  | .dirTree =>
    "Returns a compact file and folder tree with depth limitation. Use it for a quick " ++
    "overview of a project's structure, not for reading file contents. The path must be " ++
    "absolute, exist on disk and contain no URL-encoding. Entries are sorted by name; " ++
    "directories end with '/' and each level is indented by two spaces."
  | .pythonOutline =>
    "Returns an outline for each Python file: module docstring, imports, classes with their " ++
    "methods, and top-level functions, each with its line number. Use it to understand code " ++
    "structure without reading whole files. Paths must be absolute, exist on disk and " ++
    "contain no URL-encoding."
  | .markdownOutline =>
    "Returns an outline for each Markdown file: headings with their level and line number. " ++
    "Use it for navigating documentation, not for reading full content. Paths must be " ++
    "absolute, exist on disk and contain no URL-encoding."

/-- The dialect of the schemas. -/
def schemaDialect : Json := .ofString "https://json-schema.org/draft/2020-12/schema"

/-- The schema of one name of a tree format. -/
def formatSchema (name about : String) : Json :=
  .ofMembers [("description", .ofString about), ("type", .ofString "string"),
    ("const", .ofString name)]

/-- The schema of the arguments of a tree. -/
def treeSchema : Json :=
  .ofMembers [("$schema", schemaDialect),
    ("$defs", .ofMembers [("TreeFormat", .ofMembers [
      ("description", .ofString "Rendering of a directory tree."),
      ("oneOf", .arr [
        formatSchema "text" "Indented plain text, one entry per line",
        formatSchema "json" "Nested objects with `name`, `type` and `children`",
        formatSchema "markdown" "The text tree inside a fenced block under a heading"])])]),
    ("type", .ofString "object"),
    ("properties", .ofMembers [
      ("root_path", .ofMembers [
        ("description",
          .ofString "Absolute path to the root directory, e.g. \"/home/user/project\""),
        ("type", .ofString "string")]),
      ("max_depth", .ofMembers [
        ("description", .ofString <|
          "Directory levels to descend below the root. " ++
          "0 lists only the root's entries."),
        ("type", .ofString "integer"),
        ("format", .ofString "int64"),
        ("default", .ofNat 1)]),
      ("output_format", .ofMembers [
        ("description",
          .ofString "Output format: \"text\" (default), \"json\" or \"markdown\""),
        ("$ref", .ofString "#/$defs/TreeFormat"),
        ("default", .ofString "text")])]),
    ("required", .arr [.ofString "root_path"])]

/-- The schema of arguments that are a list of paths. -/
def pathsSchema : Json :=
  .ofMembers [("$schema", schemaDialect),
    ("required", .arr [.ofString "paths"]),
    ("type", .ofString "object"),
    ("properties", .ofMembers [
      ("paths", .ofMembers [
        ("description", .ofString "Absolute paths of the files to outline"),
        ("type", .ofString "array"),
        ("items", .ofMembers [("type", .ofString "string")])])])]

/-- The schema of the arguments of a tool. -/
def schema : Tool → Json
  | .dirTree => treeSchema
  | .pythonOutline | .markdownOutline => pathsSchema

/-- The entry of a tool in the catalogue. -/
def toJson (t : Tool) : Json :=
  .ofMembers [("name", .str t.name), ("description", .ofString t.description),
    ("inputSchema", t.schema)]

end Tool

end CodeAtlas
