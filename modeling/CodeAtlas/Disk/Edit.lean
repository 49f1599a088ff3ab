import CodeAtlas.Disk.Path

/-!
# Editing a disk

Edits by path: making directories, files and links, and removing them. Missing directories on
the way to a new item are made. An edit that cannot be done has no result.
-/

namespace CodeAtlas

/-- A change to a disk. -/
inductive Edit where
  /-- A directory is to be there. -/
  | makeDirectory (path : Bytes)
  /-- A file is to be there with this content, in place of the file that was there. -/
  | writeFile (path : Bytes) (content : ByteArray)
  /-- A file is to be there; one that is there already stays as it is. -/
  | touchFile (path : Bytes)
  /-- A new symbolic link is to be there. -/
  | makeLink (path target : Bytes)
  /-- A file, a link, or a directory with all that it holds is to go. -/
  | remove (path : Bytes)

namespace Disk

/-- The disk with every directory that is missing on the way along some components, the first
of which have been dealt with. -/
def makeWay (d : Disk) (here : Location) (done : List Component) : List Component → Disk
  | [] => d
  | c :: rest =>
    let done := done ++ [c]
    match d.walk maxLinks here done with
    | none => d
    | some loc =>
      match d.item? loc with
      | none => makeWay (d.put loc (.directory true true)) here done rest
      | some _ => makeWay d here done rest

/-- The location that an item at the end of the components has itself, a link there not being
followed. -/
def place? (d : Disk) (here : Location) (cs : List Component) : Option Location :=
  match cs.getLast? with
  | some (.name n) =>
    match d.walk maxLinks here cs.dropLast with
    | some up => if d.canSearch up then some (n :: up) else none
    | none => none
  | _ => none

/-- The disk with a file at the end of the components, whose content depends on what was
there. -/
def updateFile? (d : Disk) (here : Location) (cs : List Component)
    (f : Option ByteArray → ByteArray) : Option Disk :=
  let d := d.makeWay here [] cs.dropLast
  match d.walk maxLinks here cs with
  | none => none
  | some loc =>
    match d.item? loc with
    | none => some (d.put loc (.file true (f none)))
    | some (.file readable old) => some (d.put loc (.file readable (f (some old))))
    | some _ => none

/-- The disk after an edit. -/
def edit? (d : Disk) : Edit → Option Disk
  | .makeDirectory path => do
    let cs ← components? path
    let d := d.makeWay (d.start path) [] cs
    let loc ← d.walk maxLinks (d.start path) cs
    if d.holdsDirectory loc then some d else none
  | .writeFile path content => do
    let cs ← components? path
    d.updateFile? (d.start path) cs fun _ => content
  | .touchFile path => do
    let cs ← components? path
    d.updateFile? (d.start path) cs (·.getD ByteArray.empty)
  | .makeLink path target => do
    let cs ← components? path
    let d := d.makeWay (d.start path) [] cs.dropLast
    let loc ← d.place? (d.start path) cs
    if (d.item? loc).isNone then some (d.put loc (.link target)) else none
  | .remove path => do
    let cs ← components? path
    let loc ← d.place? (d.start path) cs
    if (d.item? loc).isSome then some (d.erase loc) else none

end Disk

end CodeAtlas
