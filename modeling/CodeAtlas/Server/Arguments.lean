import CodeAtlas.Explorer.Operation
import CodeAtlas.Json.Printer
import CodeAtlas.Text.Quoted
import CodeAtlas.Tool

/-!
# Arguments of a tool

The arguments of a tool come as an object. Its members are decoded in their order, members with
other names are skipped, and the first fault is the one reported; a member that is required and
absent is noticed at the end.
-/

namespace CodeAtlas

/-- A tool with its decoded arguments. -/
inductive ToolCall where
  /-- The tree under a root, down to a depth, in a format. -/
  | dirTree (root : Text) (depth : Int) (format : TreeFormat)
  /-- The outlines of files. -/
  | pythonOutline (paths : List Text)
  /-- The headings of files. -/
  | markdownOutline (paths : List Text)
  deriving DecidableEq, Repr

/-- Why arguments cannot be decoded. -/
inductive ArgumentError where
  /-- A required member is absent. -/
  | missingField (name : Text)
  /-- A value has the wrong type. -/
  | invalidType (value : Json) (expected : Text)
  /-- A value has the right type but cannot be used. -/
  | invalidValue (value : Json) (expected : Text)
  /-- No tree format has this name. -/
  | unknownFormat (name : Text)
  deriving Repr

namespace ArgumentError

/-- A word between back quotes, which stand at U+0060. -/
def code (s : Text) : Text := '\x60' :: (s ++ ['\x60'])

/-- What kind of value was found. -/
def describe : Json → Text
  | .null => "null".toList
  | .bool b => "boolean ".toList ++ code (Json.render (.bool b))
  | .num (.int i) => "integer ".toList ++ code (Text.ofInt i)
  | .num (.float x) => "floating point ".toList ++ code x.render
  | .str s => "string ".toList ++ Text.quoted s
  | .arr _ => "sequence".toList
  | .obj _ => "map".toList

/-- The words for the error. -/
def message : ArgumentError → Text
  | .missingField name => "missing field ".toList ++ code name
  | .invalidType v expected =>
    "invalid type: ".toList ++ describe v ++ ", expected ".toList ++ expected
  | .invalidValue v expected =>
    "invalid value: ".toList ++ describe v ++ ", expected ".toList ++ expected
  | .unknownFormat name =>
    "unknown variant ".toList ++ code name ++ ", expected one of ".toList ++
      Text.join [',', ' '] (TreeFormat.all.map fun f => code f.name)

end ArgumentError

namespace ToolCall

/-- A string. -/
def decodeString : Json → Except ArgumentError Text
  | .str s => .ok s
  | v => .error (.invalidType v "a string".toList)

/-- An integer of 64 bits with a sign. -/
def decodeInt : Json → Except ArgumentError Int
  | .num (.int i) =>
    if i < Nat.pow 2 63 then .ok i else .error (.invalidValue (.num (.int i)) "i64".toList)
  | v => .error (.invalidType v "i64".toList)

/-- An array of strings. -/
def decodeStrings : Json → Except ArgumentError (List Text)
  | .arr es => es.mapM decodeString
  | v => .error (.invalidType v "a sequence".toList)

/-- The tree format of a name. -/
def decodeFormatName (s : Text) : Except ArgumentError TreeFormat :=
  match TreeFormat.ofName? s with
  | some f => .ok f
  | none => .error (.unknownFormat s)

/-- A tree format: its name, or an object with the name as its one key and null under it. -/
def decodeFormat : Json → Except ArgumentError TreeFormat
  | .str s => decodeFormatName s
  | .obj [(s, v)] => do
    let f ← decodeFormatName s
    match v with
    | .null => pure f
    | v => .error (.invalidType v "unit".toList)
  | .obj ms => .error (.invalidValue (.obj ms) "map with a single key".toList)
  | v => .error (.invalidType v "string or map".toList)

/-- A member that has to be there. -/
def require {α : Type} (name : String) : Option α → Except ArgumentError α
  | some a => .ok a
  | none => .error (.missingField name.toList)

/-- The arguments of a tree, as far as they have been decoded. -/
structure TreeArguments where
  /-- The root. -/
  root : Option Text
  /-- The depth. -/
  depth : Option Int
  /-- The format. -/
  format : Option TreeFormat

/-- The arguments of a tree after one more member. -/
def TreeArguments.member (a : TreeArguments) (m : Text × Json) :
    Except ArgumentError TreeArguments :=
  if m.1 = "root_path".toList then (decodeString m.2).map fun r => { a with root := some r }
  else if m.1 = "max_depth".toList then (decodeInt m.2).map fun d => { a with depth := some d }
  else if m.1 = "output_format".toList then
    (decodeFormat m.2).map fun f => { a with format := some f }
  else .ok a

/-- The paths after one more member. -/
def pathsMember (a : Option (List Text)) (m : Text × Json) :
    Except ArgumentError (Option (List Text)) :=
  if m.1 = "paths".toList then (decodeStrings m.2).map some else .ok a

/-- The paths that the members of an object name. -/
def decodePaths (ms : List (Text × Json)) : Except ArgumentError (List Text) := do
  require "paths" (← ms.foldlM pathsMember none)

/-- The call of a tool with the members of an object as arguments. -/
def decode (tool : Tool) (ms : List (Text × Json)) : Except ArgumentError ToolCall :=
  match tool with
  | .dirTree => do
    let a ← ms.foldlM TreeArguments.member ⟨none, none, none⟩
    let root ← require "root_path" a.root
    pure (.dirTree root (a.depth.getD Disk.defaultDepth) (a.format.getD .text))
  | .pythonOutline => (decodePaths ms).map .pythonOutline
  | .markdownOutline => (decodePaths ms).map .markdownOutline

/-- What a call answers. -/
def run (d : Disk) (r : Python.Reader) : ToolCall → Json
  | .dirTree root depth format => d.dirTree root depth format
  | .pythonOutline paths => d.pythonOutline r paths
  | .markdownOutline paths => d.markdownOutline paths

end ToolCall

end CodeAtlas
