import CodeAtlas.Explorer.Operation

/-!
# The two forms of a walk agree

A walk as lines and a walk as nodes are two recursions, one with a growing lead in front of its
lines and one with nested lists. Laying the nodes out gives the lines (`linesDown_eq`), and every
line can be told from the level of its node alone (`Node.linesOfAll_eq`). The value of nodes can
be read back into the same list (`Node.listing_allToJson`), so the formats of a directory tree
show the same nodes in the same order.
-/

namespace CodeAtlas

/-! ### Nodes one after another -/

/-- A node as it is listed: its level, its name, and whether it is a directory. -/
structure Listed where
  /-- How many directories it lies in below the root. -/
  level : Nat
  /-- Its name. -/
  name : Text
  /-- Whether it is a directory. -/
  isDirectory : Bool
  deriving DecidableEq, Repr

namespace Listed

/-- What the line of a node at the given level begins with. -/
def margin (indent : Text) (level : Nat) : Text := (List.replicate level indent).flatten

/-- The line of a listed node. -/
def line (indent : Text) (l : Listed) : Text :=
  margin indent l.level ++ (if l.isDirectory then l.name ++ ['/'] else l.name)

/-- The text of listed nodes, one on a line, without white space at its ends. -/
def layOut (indent : Text) (ls : List Listed) : Text :=
  Text.trim (Text.unlines (ls.map (line indent)))

theorem margin_succ (indent : Text) (level : Nat) :
    margin indent (level + 1) = margin indent level ++ indent := by
  simp [margin, List.replicate_succ']

end Listed

namespace Node

mutual

/-- A node at the given level and all nodes below it, parents before their children. -/
def listing (level : Nat) : Node Text → List Listed
  | .file name => [⟨level, name, false⟩]
  | .closed name => [⟨level, name, true⟩]
  | .opened name children => ⟨level, name, true⟩ :: listingOfAll (level + 1) children

/-- Nodes at the given level one after another, each with all nodes below it. -/
def listingOfAll (level : Nat) : List (Node Text) → List Listed
  | [] => []
  | n :: ns => listing level n ++ listingOfAll level ns

end

mutual

theorem lines_eq (indent : Text) :
    ∀ (n : Node Text) (level : Nat),
      lines indent (Listed.margin indent level) n = (listing level n).map (Listed.line indent)
  | .file name, level => rfl
  | .closed name, level => rfl
  | .opened name children, level => by
    rw [lines, listing, List.map_cons, ← Listed.margin_succ, linesOfAll_eq indent children]
    rfl

/-- The lead that grows with the recursion is the indentation that belongs to the level. -/
theorem linesOfAll_eq (indent : Text) :
    ∀ (ns : List (Node Text)) (level : Nat),
      linesOfAll indent (Listed.margin indent level) ns =
        (listingOfAll level ns).map (Listed.line indent)
  | [], level => rfl
  | n :: ns, level => by
    rw [linesOfAll, listingOfAll, List.map_append, lines_eq indent n, linesOfAll_eq indent ns]

end

theorem linesOfAll_eq_flatMap (indent lead : Text) (ns : List (Node Text)) :
    linesOfAll indent lead ns = ns.flatMap (lines indent lead) := by
  induction ns with
  | nil => rfl
  | cons n ns ih => rw [linesOfAll, ih, List.flatMap_cons]

end Node

/-! ### Values that describe nodes -/

namespace Json

/-- What the members of an object say of a node itself. -/
def listed (level : Nat) (j : Json) : Listed :=
  ⟨level,
    match j.field? "name" with
    | some (.str name) => name
    | _ => [],
    match j.field? "type" with
    | some (.str type) => type == "directory".toList
    | _ => false⟩

mutual

/-- The nodes that a value describes, read in the order in which they stand there. -/
def listing (level : Nat) : Json → List Listed
  | .obj ms => listed level (.obj ms) :: listingOfMembers (level + 1) ms
  | .arr js => listingOfAll level js
  | _ => []

/-- The nodes that the values of members describe. -/
def listingOfMembers (level : Nat) : List (Text × Json) → List Listed
  | [] => []
  | (_, j) :: ms => listing level j ++ listingOfMembers level ms

/-- The nodes that values describe. -/
def listingOfAll (level : Nat) : List Json → List Listed
  | [] => []
  | j :: js => listing level j ++ listingOfAll level js

end

end Json

namespace Node

mutual

theorem listing_toJson : ∀ (n : Node Text) (level : Nat), n.toJson.listing level = n.listing level
  | .file name, level => by
    simp [toJson, Json.ofMembers, Json.listing, Json.listingOfMembers, listing, Json.listed,
      Json.field?, Json.find?, Json.ofString]
  | .closed name, level => by
    simp [toJson, Json.ofMembers, Json.listing, Json.listingOfMembers, listing, Json.listed,
      Json.field?, Json.find?, Json.ofString]
  | .opened name children, level => by
    simp [toJson, Json.ofMembers, Json.listing, Json.listingOfMembers, listing, Json.listed,
      Json.field?, Json.find?, Json.ofString, listing_allToJson children]

/-- The value of nodes lists the same nodes. -/
theorem listing_allToJson :
    ∀ (ns : List (Node Text)) (level : Nat),
      Json.listingOfAll level (allToJson ns) = listingOfAll level ns
  | [], level => by rw [allToJson, listingOfAll, Json.listingOfAll]
  | n :: ns, level => by
    rw [allToJson, listingOfAll, Json.listingOfAll, listing_toJson n, listing_allToJson ns]

end

end Node

/-! ### The walks -/

namespace Disk

variable (d : Disk) (indent : Text)

/-- At every depth the nodes laid out are the lines. -/
theorem linesDown_eq (k : Nat) (lead : Text) (path : Bytes) :
    d.linesDown indent k lead path =
      Node.linesOfAll indent lead (d.nodesDown Entry.name k path) := by
  rw [Node.linesOfAll_eq_flatMap]
  induction k generalizing lead path with
  | zero =>
    rw [linesDown, nodesDown, List.flatMap_map, List.map_eq_flatMap]
    congr 1
    funext e
    by_cases he : e.isDirectory = true
    · simp [Entry.label, he, Node.lines]
    · simp [Entry.label, he, Node.lines]
  | succ k ih =>
    rw [linesDown, nodesDown, List.flatMap_map]
    congr 1
    funext e
    by_cases he : e.isDirectory = true
    · simp [Entry.label, he, Node.lines, ih, Node.linesOfAll_eq_flatMap]
    · simp [Entry.label, he, Node.lines]

theorem walkLines_eq (depth : Int) (root : Bytes) :
    d.walkLines indent depth root =
      (Node.listingOfAll 0 (d.walkNodes depth root)).map (Listed.line indent) := by
  rw [← Node.linesOfAll_eq]
  cases depth with
  | ofNat k => exact d.linesDown_eq indent k [] root
  | negSucc k => rfl

/-- The text of a walk is the text of its nodes, one after another. -/
theorem walkText_eq (depth : Int) (root : Bytes) :
    d.walkText indent depth root =
      Listed.layOut indent (Node.listingOfAll 0 (d.walkNodes depth root)) := by
  rw [walkText, walkLines_eq]
  rfl

/-- A walk as text is its nodes laid out by their levels, whatever the indentation. So the two
forms of text of an accepted root are made of the nodes that its third form, read from front to
back, describes; and these are the nodes of the walk. -/
theorem walk_forms_agree (depth : Int) :
    (∀ path : Bytes, d.walkText indent depth path =
        Listed.layOut indent (Node.listingOfAll 0 (d.walkNodes depth path))) ∧
      ∀ root : Text,
        match d.rejection? root with
        | some r => ∀ format, d.dirTree root depth format = Failure.toJson (.rejected r)
        | none =>
          (d.dirTree root depth .json).listing 0 =
              Node.listingOfAll 0 (d.walkNodes depth root.utf8) ∧
            d.dirTree root depth .text =
              .str (Listed.layOut treeIndent ((d.dirTree root depth .json).listing 0)) ∧
            d.dirTree root depth .markdown =
              .str (renderMarkdown root
                (Listed.layOut treeIndent ((d.dirTree root depth .json).listing 0))) := by
  refine ⟨d.walkText_eq indent depth, fun root => ?_⟩
  cases h : d.rejection? root with
  | some r => exact fun format => by simp only [dirTree, h]
  | none =>
    have hl : (d.dirTree root depth .json).listing 0 =
        Node.listingOfAll 0 (d.walkNodes depth root.utf8) := by
      simp only [dirTree, h, Json.listing]
      exact Node.listing_allToJson _ 0
    refine ⟨hl, ?_, ?_⟩
    · rw [hl]
      simp only [dirTree, h, walkText_eq]
    · rw [hl]
      simp only [dirTree, h, walkText_eq]

end Disk

end CodeAtlas
