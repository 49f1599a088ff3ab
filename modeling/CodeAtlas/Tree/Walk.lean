import CodeAtlas.Text.Blank
import CodeAtlas.Tree.Entry
import CodeAtlas.Tree.Node

/-!
# Walking a directory tree

A walk lists the entries of a directory and, down to a depth, what lies below them, parents
before their children. Depth 0 lists the entries alone, and a negative depth nothing. The walk
comes in two forms, as indented lines and as nodes. Both show names as text; `rawNodes` has them
as they are on the disk.
-/

namespace CodeAtlas.Disk

/-- The lines of a walk to a depth; each begins with `lead`, and a level deeper with one more
`indent`. -/
def linesDown (d : Disk) (indent : Text) : Nat → Text → Bytes → List Text
  | 0, lead, path => (d.entries path).map fun e => lead ++ e.label
  | k + 1, lead, path =>
    (d.entries path).flatMap fun e =>
      (lead ++ e.label) ::
        (if e.isDirectory then linesDown d indent k (lead ++ indent) e.path else [])

/-- The nodes of a walk to a depth, with what names their entries. -/
def nodesDown {α : Type} (d : Disk) (naming : Entry → α) : Nat → Bytes → List (Node α)
  | 0, path =>
    (d.entries path).map fun e => if e.isDirectory then .closed (naming e) else .file (naming e)
  | k + 1, path =>
    (d.entries path).map fun e =>
      if e.isDirectory then .opened (naming e) (nodesDown d naming k e.path)
      else .file (naming e)

/-- The nodes of a walk, with what names their entries. -/
def nodesAs {α : Type} (d : Disk) (naming : Entry → α) (depth : Int) (root : Bytes) :
    List (Node α) :=
  match depth with
  | .ofNat k => d.nodesDown naming k root
  | .negSucc _ => []

/-- The lines of a walk. -/
def walkLines (d : Disk) (indent : Text) (depth : Int) (root : Bytes) : List Text :=
  match depth with
  | .ofNat k => d.linesDown indent k [] root
  | .negSucc _ => []

/-- The nodes of a walk. -/
def walkNodes (d : Disk) (depth : Int) (root : Bytes) : List (Node Text) :=
  d.nodesAs Entry.name depth root

/-- The nodes of a walk with their names on the disk. -/
def rawNodes (d : Disk) (depth : Int) (root : Bytes) : List (Node Bytes) :=
  d.nodesAs Entry.file depth root

/-- The lines of a walk as one text, without white space at its ends. -/
def walkText (d : Disk) (indent : Text) (depth : Int) (root : Bytes) : Text :=
  Text.trim (Text.unlines (d.walkLines indent depth root))

end CodeAtlas.Disk
