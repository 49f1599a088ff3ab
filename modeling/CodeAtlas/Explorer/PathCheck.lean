import CodeAtlas.Disk.Path
import CodeAtlas.Json.Basic

/-!
# Checking a path

A path is accepted when it has no percent sign, is absolute and leads to an item. The rules are
tried in this order, and the first one broken is the reason given. `Disk.validate` is the
check on its own, as one report.
-/

namespace CodeAtlas

/-- Why a path is refused. -/
inductive PathRejection where
  /-- It has a percent sign. -/
  | encoded
  /-- It is not absolute. -/
  | relative
  /-- It leads to nothing. -/
  | missing
  deriving DecidableEq, Repr

namespace PathRejection

/-- The words for the reason. -/
def message : PathRejection → Text
  | .encoded => "The path contains URL-encoding or invalid characters.".toList
  | .relative => "The path is not absolute.".toList
  | .missing => "The path does not exist on disk.".toList

end PathRejection

namespace Disk

/-- The reason to refuse a path, if there is one. -/
def rejection? (d : Disk) (path : Text) : Option PathRejection :=
  if Text.has '%' path then some .encoded
  else if !isAbsolute path.utf8 then some .relative
  else if !d.contains path.utf8 then some .missing
  else none

end Disk

/-- What the check of a path reports. -/
structure PathCheck where
  /-- Whether the path is accepted. -/
  valid : Bool
  /-- The words for the reason, if it is refused. -/
  reason : Option Text
  deriving DecidableEq, Repr

namespace PathCheck

/-- The report on a path that is refused for a reason, or accepted. -/
def ofRejection? : Option PathRejection → PathCheck
  | none => ⟨true, none⟩
  | some r => ⟨false, some r.message⟩

/-- The value of a report; an accepted path has no member `reason`. -/
def toJson (c : PathCheck) : Json :=
  match c.reason with
  | none => .ofMembers [("valid", .bool c.valid)]
  | some s => .ofMembers [("valid", .bool c.valid), ("reason", .str s)]

end PathCheck

/-- The report on a path. -/
def Disk.validate (d : Disk) (path : Text) : PathCheck := .ofRejection? (d.rejection? path)

end CodeAtlas
