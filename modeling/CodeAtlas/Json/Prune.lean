import CodeAtlas.Json.Basic

/-!
# Pruning empty values

A value is empty when it is null, false, the empty string, or a container without children.
`prune` takes every empty member and element out of a value, from the leaves up, so that a
container emptied on the way goes too. The value itself always stays. A value is live when
something in it is not empty.
-/

namespace CodeAtlas.Json

/-- Null, false, and whatever holds nothing. -/
def isEmpty : Json → Bool
  | .null => true
  | .bool b => !b
  | .num _ => false
  | .str s => s.isEmpty
  | .arr es => es.isEmpty
  | .obj ms => ms.isEmpty

mutual

/-- The value without its empty children. -/
def prune : Json → Json
  | .arr es => .arr (pruneElements es)
  | .obj ms => .obj (pruneMembers ms)
  | .null => .null
  | .bool b => .bool b
  | .num n => .num n
  | .str s => .str s

/-- The pruned elements that are not empty. -/
def pruneElements : List Json → List Json
  | [] => []
  | e :: es =>
    if isEmpty (prune e) then pruneElements es else prune e :: pruneElements es

/-- The members whose pruned value is not empty. -/
def pruneMembers : List (Text × Json) → List (Text × Json)
  | [] => []
  | (k, v) :: ms =>
    if isEmpty (prune v) then pruneMembers ms else (k, prune v) :: pruneMembers ms

end

mutual

/-- Whether a value carries information: a number, true, a text that is not empty, or a
container with a live child. -/
def isLive : Json → Bool
  | .null => false
  | .bool b => b
  | .num _ => true
  | .str s => !s.isEmpty
  | .arr es => anyElementLive es
  | .obj ms => anyMemberLive ms

/-- Whether some element is live. -/
def anyElementLive : List Json → Bool
  | [] => false
  | e :: es => isLive e || anyElementLive es

/-- Whether some member's value is live. -/
def anyMemberLive : List (Text × Json) → Bool
  | [] => false
  | (_, v) :: ms => isLive v || anyMemberLive ms

end

/-- One deletion: an empty element or member, at any depth, is taken out. -/
inductive Deletes : Json → Json → Prop where
  /-- An empty element goes. -/
  | element {before after : List Json} {e : Json} : isEmpty e = true →
      Deletes (.arr (before ++ e :: after)) (.arr (before ++ after))
  /-- An empty member goes. -/
  | member {before after : List (Text × Json)} {k : Text} {v : Json} : isEmpty v = true →
      Deletes (.obj (before ++ (k, v) :: after)) (.obj (before ++ after))
  /-- A deletion inside an element. -/
  | inElement {before after : List Json} {e e' : Json} : Deletes e e' →
      Deletes (.arr (before ++ e :: after)) (.arr (before ++ e' :: after))
  /-- A deletion inside a member. -/
  | inMember {before after : List (Text × Json)} {k : Text} {v v' : Json} : Deletes v v' →
      Deletes (.obj (before ++ (k, v) :: after)) (.obj (before ++ (k, v') :: after))

end CodeAtlas.Json
