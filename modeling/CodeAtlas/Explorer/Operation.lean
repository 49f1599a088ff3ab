import CodeAtlas.Explorer.Encoding
import CodeAtlas.Explorer.PathCheck
import CodeAtlas.Json.Prune
import CodeAtlas.Tree.Format
import CodeAtlas.Tree.Walk

/-!
# Exploring

The three operations: a directory tree, the outlines of Python files, and the headings of
Markdown files. Each answers with a value and never fails. Where a path is refused or a file
cannot be outlined, an object with the member `error` stands in place of the result. The files
of one call are independent of one another; the answers come under their paths, in the order in
which the paths first occur.
-/

namespace CodeAtlas

/-- Why there is no result for a path. -/
inductive Failure where
  /-- The path is refused. -/
  | rejected (reason : PathRejection)
  /-- The file cannot be read. -/
  | unreadable (cause : Disk.ReadError)
  /-- The file has no outline. -/
  | noOutline (cause : Python.OutlineError)
  deriving DecidableEq, Repr

namespace Failure

/-- The words for the failure. -/
def message : Failure → Text
  | .rejected r => r.message
  | .unreadable e => e.message
  | .noOutline e => e.message

/-- The value that stands in place of a result. -/
def toJson (f : Failure) : Json := .ofMembers [("error", .str f.message)]

end Failure

namespace Disk

/-- The text of the file at a path that passes the check. -/
def fileText (d : Disk) (path : Text) : Except Failure Text :=
  match d.rejection? path with
  | some r => .error (.rejected r)
  | none =>
    match d.read path.utf8 with
    | .error e => .error (.unreadable e)
    | .ok s => .ok s

/-- The outline of the Python file at a path. -/
def pythonOutlineAt (d : Disk) (r : Python.Reader) (path : Text) :
    Except Failure Python.Outline :=
  match d.fileText path with
  | .error f => .error f
  | .ok s =>
    match Python.Outline.ofText r s with
    | .error e => .error (.noOutline e)
    | .ok o => .ok o

/-- The headings of the Markdown file at a path. -/
def headingsAt (d : Disk) (path : Text) : Except Failure (List Heading) :=
  (d.fileText path).map Heading.all

/-- How deep a directory tree goes unless something else is asked for. -/
def defaultDepth : Int := 1

/-- What one level of a directory tree is indented by. -/
def treeIndent : Text := [' ', ' ']

/-- The tree under a directory: a string, or for the format `json` an array of nodes. -/
def dirTree (d : Disk) (root : Text) (depth : Int) (format : TreeFormat) : Json :=
  match d.rejection? root with
  | some r => Failure.toJson (.rejected r)
  | none =>
    match format with
    | .text => .str (d.walkText treeIndent depth root.utf8)
    | .markdown => .str (renderMarkdown root (d.walkText treeIndent depth root.utf8))
    | .json => .arr (Node.allToJson (d.walkNodes depth root.utf8))

/-- What is reported for one Python file: its outline without empty parts. -/
def pythonReport (d : Disk) (r : Python.Reader) (path : Text) : Json :=
  match d.pythonOutlineAt r path with
  | .ok o => Json.prune o.toJson
  | .error f => f.toJson

/-- What is reported for one Markdown file: the list of its headings, or of one failure. -/
def markdownReport (d : Disk) (path : Text) : Json :=
  match d.headingsAt path with
  | .ok hs => .arr (hs.map Heading.toJson)
  | .error f => .arr [f.toJson]

/-- The answers to paths, each under its path. -/
def collect (answer : Text → Json) (paths : List Text) : List (Text × Json) :=
  paths.foldl (fun ms p => Json.insert p (answer p) ms) []

/-- The outlines of Python files, by path. -/
def pythonOutline (d : Disk) (r : Python.Reader) (paths : List Text) : Json :=
  .obj (collect (d.pythonReport r) paths)

/-- The headings of Markdown files, by path. -/
def markdownOutline (d : Disk) (paths : List Text) : Json := .obj (collect d.markdownReport paths)

end Disk

end CodeAtlas
