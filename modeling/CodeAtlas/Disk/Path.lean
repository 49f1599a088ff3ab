import CodeAtlas.Disk.Basic

/-!
# Paths

A path is a sequence of bytes whose components are separated by slashes. It leads to a location,
from the root if it begins with a slash and else from the working directory: `.` stays, `..` goes
up and stops at the root, and a name goes down, through any symbolic link on the way. A slash at
the end asks for a directory.
-/

namespace CodeAtlas

/-- A component of a path. -/
inductive Component where
  /-- `.`. -/
  | stay
  /-- `..`. -/
  | up
  /-- The name of an item. -/
  | name (n : Name)
  /-- The slash at the end of a path. -/
  | close
  deriving DecidableEq

namespace Component

/-- The component that some bytes are. -/
def ofBytes? (s : Bytes) : Option Component :=
  if s = [dot] then some .stay
  else if s = [dot, dot] then some .up
  else if h : isName s = true then some (.name ⟨s, h⟩)
  else none

end Component

/-- Whether a path begins at the root. -/
def isAbsolute (path : Bytes) : Bool := path.head? == some slash

/-- The components of a path; `none` when it is empty or has a NUL. Slashes in a row count as
one. -/
def components? (path : Bytes) : Option (List Component) :=
  if path.isEmpty then none
  else
    let pieces := (Text.splitAt slash path).filter (!·.isEmpty)
    (pieces.mapM Component.ofBytes?).map fun cs =>
      if path.getLast? = some slash then cs ++ [.close] else cs

/-- The path of an item that the directory at a path lists. -/
def joinPath (path name : Bytes) : Bytes :=
  if path.isEmpty || path.getLast? == some slash then path ++ name else path ++ slash :: name

namespace Disk

/-- Whether a component can be taken from a location: there is a directory, and unless the path
ends with it, paths may lead through it. -/
def admits (d : Disk) (here : Location) : Component → Bool
  | .close => d.holdsDirectory here
  | _ => d.canSearch here

/-- The location that components lead to from the directory `here`. The last name need not be
there. At most `links` symbolic links are followed. -/
def walk (d : Disk) (links : Nat) (here : Location) : List Component → Option Location
  | [] => some here
  | c :: rest =>
    if d.admits here c then
      match c with
      | .stay => walk d links here rest
      | .close => walk d links here rest
      | .up => walk d links here.tail rest
      | .name n =>
        match d.item? (n :: here) with
        | none => if rest.isEmpty then some (n :: here) else none
        | some (.link target) =>
          match links, components? target with
          | k + 1, some cs =>
            walk d k (if isAbsolute target then [] else here) (cs ++ rest)
          | _, _ => none
        | some _ => walk d links (n :: here) rest
    else none
termination_by cs => (links, cs.length)

/-- How many symbolic links a path may lead through. -/
def maxLinks : Nat := 40

/-- A path must have fewer bytes than this. -/
def maxPathBytes : Nat := 4096

/-- The location where a path begins. -/
def start (d : Disk) (path : Bytes) : Location := if isAbsolute path then [] else d.base

/-- The location that a path leads to, whether or not there is something at its end. Paths that
are too long lead nowhere. -/
def locate? (d : Disk) (path : Bytes) : Option Location :=
  if path.length < maxPathBytes then (components? path).bind (d.walk maxLinks (d.start path))
  else none

/-- The item that a path leads to. -/
def find? (d : Disk) (path : Bytes) : Option Item := (d.locate? path).bind d.item?

/-- Whether a path leads to an item. -/
def contains (d : Disk) (path : Bytes) : Bool := (d.find? path).isSome

/-- Whether a path leads to a directory. -/
def isDirectory (d : Disk) (path : Bytes) : Bool := (d.locate? path).any d.holdsDirectory

/-- The names in the directory that a path leads to, if it can be listed. -/
def names? (d : Disk) (path : Bytes) : Option (List Name) :=
  ((d.locate? path).filter d.canList).map d.children

/-- Why a file cannot be read as text. -/
inductive ReadError where
  /-- There is nothing at the path. -/
  | missing
  /-- There is a directory at the path. -/
  | directory
  /-- What is at the path refuses to be read. -/
  | denied
  /-- The bytes are not UTF-8. -/
  | notText
  deriving DecidableEq, Repr

namespace ReadError

/-- The words for the cause. -/
def message : ReadError → Text
  | .missing => "No such file or directory (os error 2)".toList
  | .directory => "Is a directory (os error 21)".toList
  | .denied => "Permission denied (os error 13)".toList
  | .notText => "stream did not contain valid UTF-8".toList

end ReadError

/-- The text of the file that a path leads to. -/
def read (d : Disk) (path : Bytes) : Except ReadError Text :=
  match d.find? path with
  | some (.file true content) =>
    match String.fromUTF8? content with
    | some s => .ok s.toList
    | none => .error .notText
  | some (.directory true _) => .error .directory
  | some (.file false _) | some (.directory false _) => .error .denied
  | _ => .error .missing

end Disk

end CodeAtlas
