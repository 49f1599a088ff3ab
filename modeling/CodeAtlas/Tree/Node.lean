import CodeAtlas.Json.Basic

/-!
# Nodes of a directory tree

A node is a file, a directory that was not looked into, or a directory with its nodes. Names are
texts, or what names on a disk are; `map` turns the ones into the others. `lines` lays nodes out
one below the other; `cut` forgets what lies deeper than a level.
-/

namespace CodeAtlas

/-- A node of a directory tree. -/
inductive Node (α : Type) where
  /-- A file. -/
  | file (name : α)
  /-- A directory that was not looked into. -/
  | closed (name : α)
  /-- A directory with what it holds. -/
  | opened (name : α) (children : List (Node α))
  deriving Repr

namespace Node

variable {α β : Type}

mutual

/-- The node with its names turned into others. -/
def map (f : α → β) : Node α → Node β
  | .file name => .file (f name)
  | .closed name => .closed (f name)
  | .opened name children => .opened (f name) (mapAll f children)

/-- All nodes with their names turned into others. -/
def mapAll (f : α → β) : List (Node α) → List (Node β)
  | [] => []
  | n :: ns => map f n :: mapAll f ns

end

mutual

/-- The lines of a node, the first of which begins with `lead`; a level deeper they begin with
one more `indent`. -/
def lines (indent lead : Text) : Node Text → List Text
  | .file name => [lead ++ name]
  | .closed name => [lead ++ (name ++ ['/'])]
  | .opened name children =>
    (lead ++ (name ++ ['/'])) :: linesOfAll indent (lead ++ indent) children

/-- The lines of nodes one after another. -/
def linesOfAll (indent lead : Text) : List (Node Text) → List Text
  | [] => []
  | n :: ns => lines indent lead n ++ linesOfAll indent lead ns

end

mutual

/-- The node with the directories at a level closed, its own level being 0. -/
def cut (level : Nat) : Node α → Node α
  | .file name => .file name
  | .closed name => .closed name
  | .opened name children =>
    match level with
    | 0 => .closed name
    | k + 1 => .opened name (cutAll k children)

/-- All nodes with the directories at a level closed. -/
def cutAll (level : Nat) : List (Node α) → List (Node α)
  | [] => []
  | n :: ns => cut level n :: cutAll level ns

end

mutual

/-- The value that describes a node; a directory that was not looked into has no member
`children`. -/
def toJson : Node Text → Json
  | .file name => .ofMembers [("type", .ofString "file"), ("name", .str name)]
  | .closed name => .ofMembers [("type", .ofString "directory"), ("name", .str name)]
  | .opened name children =>
    .ofMembers [("type", .ofString "directory"), ("name", .str name),
      ("children", .arr (allToJson children))]

/-- The values that describe nodes. -/
def allToJson : List (Node Text) → List Json
  | [] => []
  | n :: ns => toJson n :: allToJson ns

end

end Node

end CodeAtlas
