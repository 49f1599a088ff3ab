import CodeAtlas.Json.Binary64

/-!
# Structured data

Values made of null, booleans, numbers, strings, arrays and objects. An object is a list of
members in order; `insert` keeps the place of a key that is already there and replaces its
value.
-/

namespace CodeAtlas

/-- A number is an integer of at most 64 bits or a binary floating-point number. -/
inductive JsonNumber where
  /-- An integer. -/
  | int (value : Int)
  /-- A floating-point number. -/
  | float (value : Binary64)
  deriving DecidableEq, Repr

/-- A structured value. -/
inductive Json where
  /-- The null value. -/
  | null
  /-- A boolean. -/
  | bool (value : Bool)
  /-- A number. -/
  | num (value : JsonNumber)
  /-- A string. -/
  | str (value : Text)
  /-- An array. -/
  | arr (elements : List Json)
  /-- An object, with its members in order. -/
  | obj (members : List (Text × Json))
  deriving Repr

namespace Json

/-- A string value. -/
def ofString (s : String) : Json := .str s.toList

/-- An integer value. -/
def ofNat (n : Nat) : Json := .num (.int n)

/-- An object given by its members, the keys as string literals. -/
def ofMembers (ms : List (String × Json)) : Json := .obj (ms.map fun m => (m.1.toList, m.2))

/-- A null in place of an absent text. -/
def ofText? : Option Text → Json
  | none => .null
  | some s => .str s

/-- Members with one more: a key that is there keeps its place and takes the new value. -/
def insert {α : Type} (key : Text) (value : α) : List (Text × α) → List (Text × α)
  | [] => [(key, value)]
  | m :: ms => if m.1 = key then (key, value) :: ms else m :: insert key value ms

/-- The value of the first member with the given key. -/
def find? {α : Type} (key : Text) : List (Text × α) → Option α
  | [] => none
  | m :: ms => if m.1 = key then some m.2 else find? key ms

/-- The member of an object with the given key. -/
def field? (key : String) : Json → Option Json
  | .obj ms => find? key.toList ms
  | _ => none

end Json

end CodeAtlas
