import CodeAtlas.Text.Bytes

/-!
# Disks

A disk is a table of items, each at a location; no location occurs twice. The root directory is
always there. An item is a directory, a file with its bytes, or a symbolic link with the path
it points to. Names are bytes, as paths are, and need not be text. A directory may refuse to be
listed, or to let paths through to what is in it, and a file to be read.
-/

namespace CodeAtlas

/-- The byte that separates the components of a path. -/
def slash : UInt8 := 0x2F

/-- The byte of a full stop. -/
def dot : UInt8 := 0x2E

/-- Whether some bytes can name an item: they are not empty, not `.` or `..`, and have no slash
and no NUL. -/
def isName (s : Bytes) : Bool :=
  !s.isEmpty && s != [dot] && s != [dot, dot] && s.all fun b => b != slash && b != 0

/-- The name of an item within its directory. -/
structure Name where
  /-- The name as bytes. -/
  bytes : Bytes
  /-- It can be a name. -/
  valid : isName bytes = true
  deriving DecidableEq

theorem Name.ext_bytes {m n : Name} (h : m.bytes = n.bytes) : m = n := by
  cases m
  cases n
  cases h
  rfl

/-- A place on a disk: the names from the item up to the root. -/
abbrev Location := List Name

/-- What can be at a location. -/
inductive Item where
  /-- A directory; it can be listed, or not, and paths may lead through it, or not. -/
  | directory (listable searchable : Bool)
  /-- A file with its bytes; it can be read, or not. -/
  | file (readable : Bool) (content : ByteArray)
  /-- A symbolic link. -/
  | link (target : Bytes)

/-- A disk: its items with their locations, and where relative paths begin. -/
structure Disk where
  /-- The items in the order in which the disk lists them. -/
  items : List (Location × Item)
  /-- No location occurs twice. -/
  distinct : (items.map Prod.fst).Nodup
  /-- The working directory. -/
  base : Location

namespace Disk

/-- The disk with nothing but the root directory. -/
def empty : Disk := ⟨[], List.nodup_nil, []⟩

/-- The item at a location. -/
def item? (d : Disk) : Location → Option Item
  | [] => some (.directory true true)
  | n :: up => d.items.lookup (n :: up)

/-- Whether there is a directory at the location. -/
def holdsDirectory (d : Disk) (loc : Location) : Bool :=
  match d.item? loc with
  | some (.directory _ _) => true
  | _ => false

/-- Whether there is a directory at the location that can be listed. -/
def canList (d : Disk) (loc : Location) : Bool :=
  match d.item? loc with
  | some (.directory listable _) => listable
  | _ => false

/-- Whether there is a directory at the location that paths may lead through. -/
def canSearch (d : Disk) (loc : Location) : Bool :=
  match d.item? loc with
  | some (.directory _ searchable) => searchable
  | _ => false

/-- The name of an item as its directory `up` lists it. -/
def childName? (up : Location) : Location → Option Name
  | [] => none
  | n :: loc => if loc = up then some n else none

/-- The names in the directory at a location, in the order in which the disk lists them. -/
def children (d : Disk) (up : Location) : List Name :=
  d.items.filterMap fun i => childName? up i.1

theorem childName?_eq_some_iff {up loc : Location} {n : Name} :
    childName? up loc = some n ↔ loc = n :: up := by
  cases loc with
  | nil => simp [childName?]
  | cons m loc =>
    by_cases h : loc = up
    · simp [childName?, h]
    · simp [childName?, h]

/-- A directory lists the names of the items right below it. -/
theorem mem_children {d : Disk} {up : Location} {n : Name} :
    n ∈ d.children up ↔ n :: up ∈ d.items.map Prod.fst := by
  simp only [children, List.mem_filterMap, List.mem_map, childName?_eq_some_iff]

/-- A directory lists no name twice. -/
theorem children_nodup (d : Disk) (up : Location) : (d.children up).Nodup := by
  have h := d.distinct
  rw [List.Nodup, List.pairwise_map] at h
  rw [children, List.Nodup, List.pairwise_filterMap]
  refine h.imp fun {a b} hab m hm n hn hmn => hab ?_
  rw [childName?_eq_some_iff.mp hm, childName?_eq_some_iff.mp hn, hmn]

/-- The disk with an item put at a location, in place of what was there. -/
def put (d : Disk) (loc : Location) (item : Item) : Disk where
  items := d.items.filter (fun i => i.1 != loc) ++ [(loc, item)]
  distinct := by
    rw [List.map_append, List.nodup_append]
    refine ⟨(List.filter_sublist.map _).nodup d.distinct, by simp, ?_⟩
    intro a ha b hb
    obtain ⟨i, hi, rfl⟩ := List.mem_map.mp ha
    rw [List.map_cons, List.map_nil, List.mem_singleton] at hb
    subst hb
    simpa using (List.mem_filter.mp hi).2
  base := d.base

/-- The disk without the item at a location and everything below it. -/
def erase (d : Disk) (loc : Location) : Disk where
  items := d.items.filter fun i => !loc.isSuffixOf i.1
  distinct := (List.filter_sublist.map _).nodup d.distinct
  base := d.base

end Disk

end CodeAtlas
