import CodeAtlas.Disk.Path

/-!
# The entries of a directory

A directory lists its entries sorted by the bytes of their names. An entry counts as a directory
when its path leads to one, so also a link to a directory.
-/

namespace CodeAtlas

/-- An entry of a directory. -/
structure Entry where
  /-- Its name on the disk. -/
  file : Bytes
  /-- The path of the directory continued by the name. -/
  path : Bytes
  /-- Whether the path leads to a directory. -/
  isDirectory : Bool
  deriving DecidableEq, Repr

namespace Entry

/-- The name as text. -/
def name (e : Entry) : Text := Text.shown e.file

/-- The name, followed by a slash if the entry is a directory. -/
def label (e : Entry) : Text := if e.isDirectory then e.name ++ ['/'] else e.name

end Entry

/-- Whether some bytes come before others, or are the same. -/
def precedes (s t : Bytes) : Bool := !decide (t < s)

namespace Disk

/-- The entry of a name that the directory at a path lists. -/
def entry (d : Disk) (path name : Bytes) : Entry :=
  ⟨name, joinPath path name, d.isDirectory (joinPath path name)⟩

/-- The entries of the directory that a path leads to, sorted by name; `none` when the path
leads to no directory that can be listed. -/
def entries? (d : Disk) (path : Bytes) : Option (List Entry) :=
  (d.names? path).map fun ns => ((ns.map Name.bytes).mergeSort precedes).map (d.entry path)

/-- The entries of a directory; none when it cannot be listed. -/
def entries (d : Disk) (path : Bytes) : List Entry := (d.entries? path).getD []

end Disk

end CodeAtlas
