import CodeAtlas.Proofs.Basic
import CodeAtlas.Tree.Entry

/-!
# What a directory lists

The entries of a directory are the items right in it, each once and in the order of the bytes of
their names. The order in which a disk enumerates its items has no part in it: disks with the
same items in another order lead every path to the same place and list the same entries
(`entries_eq_of_perm`).
-/

namespace CodeAtlas

/-! ### Sorting names -/

theorem precedes_iff {s t : Bytes} : precedes s t = true ↔ List.le s t := by
  simp [precedes, List.le]

theorem precedes_trans (r s t : Bytes) (h : precedes r s = true) (h' : precedes s t = true) :
    precedes r t = true :=
  precedes_iff.mpr (List.le_trans (precedes_iff.mp h) (precedes_iff.mp h'))

theorem precedes_total (s t : Bytes) : (precedes s t || precedes t s) = true := by
  rw [Bool.or_eq_true, precedes_iff, precedes_iff]
  exact List.le_total s t

/-- Different names that are sorted increase byte by byte. -/
theorem pairwise_lt_mergeSort {ss : List Bytes} (h : ss.Nodup) :
    (ss.mergeSort precedes).Pairwise (· < ·) := by
  have hs := List.pairwise_mergeSort precedes_trans precedes_total ss
  have hn : (ss.mergeSort precedes).Nodup := (List.mergeSort_perm ss precedes).nodup_iff.mpr h
  refine (hs.and hn).imp fun {s t} hst => ?_
  rcases List.le_iff_lt_or_eq.mp (precedes_iff.mp hst.1) with hlt | rfl
  · exact hlt
  · exact absurd rfl hst.2

/-- Sorting does not depend on the order before. -/
theorem mergeSort_eq_of_perm {ss ts : List Bytes} (h : ss.Perm ts) :
    ss.mergeSort precedes = ts.mergeSort precedes := by
  have hp : (ss.mergeSort precedes).Perm (ts.mergeSort precedes) :=
    ((List.mergeSort_perm ss precedes).trans h).trans (List.mergeSort_perm ts precedes).symm
  refine hp.eq_of_pairwise ?_ (List.pairwise_mergeSort precedes_trans precedes_total ss)
    (List.pairwise_mergeSort precedes_trans precedes_total ts)
  intro s t _ _ hst hts
  exact List.le_antisymm (precedes_iff.mp hst) (precedes_iff.mp hts)

/-! ### Names -/

theorem ne_nil_of_isName {name : Bytes} (h : isName name = true) : name ≠ [] := by
  rintro rfl
  cases h

theorem slash_not_mem_of_isName {name : Bytes} (h : isName name = true) : slash ∉ name := by
  intro hm
  simp only [isName, Bool.and_eq_true, List.all_eq_true, bne_iff_ne] at h
  exact (h.2 _ hm).1 rfl

namespace Disk

/-! ### Entries -/

/-- Whether a path leads to a directory that can be listed. -/
def IsListable (d : Disk) (path : Bytes) : Prop :=
  ∃ loc, d.locate? path = some loc ∧ d.canList loc = true

/-- Whether a path leads to a directory that can be listed and has an item of the given name
right in it. -/
def IsEntry (d : Disk) (path name : Bytes) : Prop :=
  ∃ loc n, d.locate? path = some loc ∧ d.canList loc = true ∧
    n :: loc ∈ d.items.map Prod.fst ∧ n.bytes = name

variable {d d' : Disk}

theorem names?_eq_some_iff {path : Bytes} {ns : List Name} :
    d.names? path = some ns ↔
      ∃ loc, d.locate? path = some loc ∧ d.canList loc = true ∧ d.children loc = ns := by
  simp only [names?, Option.map_eq_some_iff, Option.filter_eq_some_iff, and_assoc]

theorem isEntry_iff {path name : Bytes} :
    d.IsEntry path name ↔ ∃ ns, d.names? path = some ns ∧ name ∈ ns.map Name.bytes := by
  constructor
  · rintro ⟨loc, n, hl, hi, hn, rfl⟩
    exact ⟨d.children loc, names?_eq_some_iff.mpr ⟨loc, hl, hi, rfl⟩,
      List.mem_map_of_mem (mem_children.mpr hn)⟩
  · rintro ⟨ns, hns, hname⟩
    obtain ⟨loc, hl, hi, rfl⟩ := names?_eq_some_iff.mp hns
    obtain ⟨n, hn, rfl⟩ := List.mem_map.mp hname
    exact ⟨loc, n, hl, hi, mem_children.mp hn, rfl⟩

/-- Only items of a directory are entries, so they have names. -/
theorem IsEntry.isName {path name : Bytes} (h : d.IsEntry path name) : isName name = true := by
  obtain ⟨_, n, -, -, -, rfl⟩ := h
  exact n.valid

/-- The entries of a directory are the items right in it. -/
theorem mem_entries {path : Bytes} {e : Entry} :
    e ∈ d.entries path ↔ ∃ name, d.IsEntry path name ∧ d.entry path name = e := by
  simp only [isEntry_iff, entries, entries?]
  cases d.names? path with
  | none => simp
  | some ns => simp

theorem entries_eq_nil {path : Bytes} (h : ¬ d.IsListable path) : d.entries path = [] := by
  have hn : d.names? path = none := by
    rw [Option.eq_none_iff_forall_ne_some]
    intro ns hns
    obtain ⟨loc, hl, hi, -⟩ := names?_eq_some_iff.mp hns
    exact h ⟨loc, hl, hi⟩
  rw [entries, entries?, hn]
  rfl

/-- The names of the entries of a directory increase byte by byte. -/
theorem pairwise_entries (d : Disk) (path : Bytes) :
    ((d.entries path).map Entry.file).Pairwise (· < ·) := by
  rw [entries, entries?]
  cases hns : d.names? path with
  | none => exact List.Pairwise.nil
  | some ns =>
    obtain ⟨loc, -, -, rfl⟩ := names?_eq_some_iff.mp hns
    have hnodup : ((d.children loc).map Name.bytes).Nodup :=
      List.pairwise_map.mpr ((d.children_nodup loc).imp fun hne h => hne (Name.ext_bytes h))
    have hmap (ss : List Bytes) : (ss.map (d.entry path)).map Entry.file = ss := by
      rw [List.map_map]
      exact List.map_id ss
    simp only [Option.map_some, Option.getD_some, hmap]
    exact pairwise_lt_mergeSort hnodup

/-! ### The order of enumeration -/

/-- One component of a path. -/
theorem walk_cons (d : Disk) (links : Nat) (here : Location) (c : Component)
    (rest : List Component) :
    d.walk links here (c :: rest) =
      if d.admits here c then
        match c with
        | .stay => d.walk links here rest
        | .close => d.walk links here rest
        | .up => d.walk links here.tail rest
        | .name n =>
          match d.item? (n :: here) with
          | none => if rest.isEmpty then some (n :: here) else none
          | some (.link target) =>
            match links, components? target with
            | k + 1, some cs => d.walk k (if isAbsolute target then [] else here) (cs ++ rest)
            | _, _ => none
          | some _ => d.walk links (n :: here) rest
      else none := by
  exact (walk.eq_def d links here (c :: rest)).trans rfl

theorem item?_eq_of_perm (h : d.items.Perm d'.items) : d.item? = d'.item? := by
  funext loc
  cases loc with
  | nil => rfl
  | cons n up =>
    refine Option.ext fun item => ?_
    rw [item?, item?, lookup_eq_some_iff_mem d.distinct, lookup_eq_some_iff_mem d'.distinct]
    exact h.mem_iff

section Items

variable (h : d.item? = d'.item?)
include h

theorem canSearch_eq_of_item? : d.canSearch = d'.canSearch := by
  funext loc
  rw [canSearch, canSearch, h]

theorem canList_eq_of_item? : d.canList = d'.canList := by
  funext loc
  rw [canList, canList, h]

theorem holdsDirectory_eq_of_item? : d.holdsDirectory = d'.holdsDirectory := by
  funext loc
  rw [holdsDirectory, holdsDirectory, h]

/-- Where components lead depends on what is at which location, and on nothing else. -/
theorem walk_eq_of_item? (links : Nat) (here : Location) (cs : List Component) :
    d.walk links here cs = d'.walk links here cs := by
  have ha (here : Location) (c : Component) : d.admits here c = d'.admits here c := by
    unfold admits
    rw [canSearch_eq_of_item? h, holdsDirectory_eq_of_item? h]
  fun_induction Disk.walk d links here cs with
  | case1 links here => rw [walk.eq_def]
  | case2 links here rest hh ih =>
    rw [walk_cons d', ← ha, if_pos hh]
    exact ih
  | case3 links here rest hh ih =>
    rw [walk_cons d', ← ha, if_pos hh]
    exact ih
  | case4 links here rest hh ih =>
    rw [walk_cons d', ← ha, if_pos hh]
    exact ih
  | case5 links here rest n hn hr hh =>
    rw [walk_cons d', ← ha, if_pos hh]
    simp only [← h, hn, if_pos hr]
  | case6 links here rest n hn hr hh =>
    rw [walk_cons d', ← ha, if_pos hh]
    simp only [← h, hn, if_neg hr]
  | case7 here rest n target hn k cs hcs hh ih =>
    rw [walk_cons d', ← ha, if_pos hh]
    simp only [← h, hn, hcs]
    exact ih
  | case8 links here rest n target hn hcs hh =>
    rw [walk_cons d', ← ha, if_pos hh]
    simp only [← h, hn]
  | case9 links here rest n item hi hn hh ih =>
    rw [walk_cons d', ← ha, if_pos hh]
    simp only [← h, hn]
    exact ih
  | case10 links here c rest hh => rw [walk_cons d', ← ha, if_neg hh]

end Items

section Perm

variable (h : d.items.Perm d'.items) (hbase : d.base = d'.base)
include h hbase

theorem locate?_eq_of_perm (path : Bytes) : d.locate? path = d'.locate? path := by
  have hstart : d.start path = d'.start path := by rw [start, start, hbase]
  have hw : d.walk maxLinks (d'.start path) = d'.walk maxLinks (d'.start path) :=
    funext fun cs => walk_eq_of_item? (item?_eq_of_perm h) maxLinks _ cs
  rw [locate?, locate?, hstart, hw]

theorem isDirectory_eq_of_perm (path : Bytes) : d.isDirectory path = d'.isDirectory path := by
  rw [isDirectory, isDirectory, locate?_eq_of_perm h hbase,
    holdsDirectory_eq_of_item? (item?_eq_of_perm h)]

/-- Disks with the same items in another order list the same entries. -/
theorem entries_eq_of_perm (path : Bytes) : d.entries path = d'.entries path := by
  have he : d.entry path = d'.entry path := by
    funext name
    rw [entry, entry, isDirectory_eq_of_perm h hbase]
  have hc (loc : Location) :
      ((d.children loc).map Name.bytes).mergeSort precedes =
        ((d'.children loc).map Name.bytes).mergeSort precedes :=
    mergeSort_eq_of_perm ((h.filterMap _).map _)
  rw [entries, entries, entries?, entries?, names?, names?, locate?_eq_of_perm h hbase, he,
    canList_eq_of_item? (item?_eq_of_perm h), Option.map_map, Option.map_map]
  simp only [Function.comp_def, hc]

end Perm

end Disk

end CodeAtlas
