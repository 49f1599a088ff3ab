import CodeAtlas.Disk.Edit
import CodeAtlas.Json.Basic
import CodeAtlas.Text.Hex

/-!
# Disk images

A disk image is a list of edits, described by structured data, that make the disk when they are
done in order. An object with the member `dir`, `file`, `link` or `remove` is an edit of the path
under that member; a file has its content under `text`, or its bytes in hexadecimal digits under
`hex`, and a link its target under `to`.
-/

namespace CodeAtlas

/-- The bytes that pairs of hexadecimal digits stand for. -/
def bytesOfHex? : Text → Option (List UInt8)
  | [] => some []
  | a :: b :: s => do
    let n ← Text.hexValue? [a, b]
    let bs ← bytesOfHex? s
    some (n.toUInt8 :: bs)
  | [_] => none

/-- The content of a file that an object describes. -/
def fileContent? (j : Json) : Option ByteArray :=
  match j.field? "text", j.field? "hex" with
  | some (.str s), _ => some (String.ofList s).toUTF8
  | none, some (.str s) => (bytesOfHex? s).map fun bs => ByteArray.mk bs.toArray
  | _, _ => none

/-- The edit that an object describes, its path taken from the directory `base`. -/
def Edit.ofJson? (base : Text) (j : Json) : Option Edit :=
  let below (p : Text) : Bytes := joinPath base.utf8 p.utf8
  match j.field? "dir", j.field? "file", j.field? "link", j.field? "remove" with
  | some (.str p), none, none, none => some (.makeDirectory (below p))
  | none, some (.str p), none, none => (fileContent? j).map (.writeFile (below p))
  | none, none, some (.str p), none =>
    match j.field? "to" with
    | some (.str target) => some (.makeLink (below p) target.utf8)
    | _ => none
  | none, none, none, some (.str p) => some (.remove (below p))
  | _, _, _, _ => none

namespace Disk

/-- The disk after the edit that a value describes; a value that describes none, or one that
cannot be done, changes nothing. -/
def amend (base : Text) (d : Disk) (j : Json) : Disk :=
  ((Edit.ofJson? base j).bind d.edit?).getD d

/-- The disk that the values of an image make. -/
def amendAll (base : Text) (d : Disk) (image : List Json) : Disk :=
  image.foldl (amend base) d

end Disk

end CodeAtlas
