import CodeAtlas.Proofs.Disk.Resolution
import CodeAtlas.Proofs.Text.Bytes
import CodeAtlas.Tree.Walk
import Mathlib

/-!
# A walk is exact

The nodes of a walk, seen as chains of names from the root down, are the chains that the disk
has, as far as the depth reaches: every one of them, each once, in order, and with the right
kind (`walkNodes_exact`). Links may lead anywhere, also back up, since the depth bounds the walk.

The names here are those on the disk. Shown as text, different ones may be the same and out of
order; and a chain goes on only as long as the system resolves its path, which it does not through
any number of links (`walkNodes_repeats_and_ends`).
-/

namespace CodeAtlas

/-! ### The places of nodes -/

/-- A place in a tree: the names from the root down to a node, and what the node is. -/
structure Place (α : Type) where
  /-- The names, the last of which is that of the node. -/
  chain : List α
  /-- Whether the node is a directory. -/
  isDirectory : Bool
  /-- Whether the node says what it holds. -/
  isOpened : Bool
  deriving DecidableEq, Repr

/-- The same place seen from the directory above. -/
def Place.under {α : Type} (name : α) (p : Place α) : Place α :=
  { p with chain := name :: p.chain }

namespace Node

variable {α β : Type}

/-- The name of a node. -/
def name : Node α → α
  | .file name => name
  | .closed name => name
  | .opened name _ => name

mutual

/-- The places of a node and of all nodes below it. -/
def places : Node α → List (Place α)
  | .file name => [⟨[name], false, false⟩]
  | .closed name => [⟨[name], true, false⟩]
  | .opened name children => ⟨[name], true, true⟩ :: (placesOfAll children).map (Place.under name)

/-- The places of nodes and of all nodes below them. -/
def placesOfAll : List (Node α) → List (Place α)
  | [] => []
  | n :: ns => places n ++ placesOfAll ns

end

mutual

/-- The names in every list of nodes below a node. -/
def rows : Node α → List (List α)
  | .file _ => []
  | .closed _ => []
  | .opened _ children => children.map name :: rowsOfAll children

/-- The names in every list of nodes below some nodes. -/
def rowsOfAll : List (Node α) → List (List α)
  | [] => []
  | n :: ns => rows n ++ rowsOfAll ns

end

/-- The names in every list of nodes that are siblings. -/
def siblings (ns : List (Node α)) : List (List α) := ns.map name :: rowsOfAll ns

theorem mem_placesOfAll {p : Place α} {ns : List (Node α)} :
    p ∈ placesOfAll ns ↔ ∃ n ∈ ns, p ∈ n.places := by
  induction ns with
  | nil => simp [placesOfAll]
  | cons n ns ih => simp [placesOfAll, ih]

theorem mem_rowsOfAll {row : List α} {ns : List (Node α)} :
    row ∈ rowsOfAll ns ↔ ∃ n ∈ ns, row ∈ n.rows := by
  induction ns with
  | nil => simp [rowsOfAll]
  | cons n ns ih => simp [rowsOfAll, ih]

/-- The chain of a place begins with the name of its topmost node. -/
theorem head?_chain {n : Node α} {p : Place α} (h : p ∈ n.places) :
    p.chain.head? = some n.name := by
  cases n with
  | file name => rw [List.mem_singleton.mp h]; rfl
  | closed name => rw [List.mem_singleton.mp h]; rfl
  | opened name children =>
    rcases List.mem_cons.mp h with rfl | h
    · rfl
    · obtain ⟨q, -, rfl⟩ := List.mem_map.mp h
      rfl

theorem chain_ne_nil {p : Place α} {ns : List (Node α)} (h : p ∈ placesOfAll ns) :
    p.chain ≠ [] := by
  obtain ⟨n, -, hp⟩ := mem_placesOfAll.mp h
  intro hc
  have hh := head?_chain hp
  rw [hc] at hh
  cases hh

mutual

theorem nodup_places : ∀ n : Node α, (∀ row ∈ n.rows, row.Nodup) →
    (n.places.map Place.chain).Nodup
  | .file name, _ => by simp [places]
  | .closed name, _ => by simp [places]
  | .opened name children, h => by
    have hc : ((placesOfAll children).map Place.chain).Nodup := by
      refine nodup_placesOfAll children (h _ (List.mem_cons_self ..)) fun row hr => ?_
      exact h row (List.mem_cons_of_mem _ hr)
    have hm : ((placesOfAll children).map (Place.under name)).map Place.chain =
        ((placesOfAll children).map Place.chain).map (name :: ·) := by
      simp [Function.comp_def, Place.under]
    rw [places, List.map_cons, hm, List.nodup_cons]
    constructor
    · intro hn
      simp only [List.mem_map] at hn
      obtain ⟨_, ⟨p, hp, rfl⟩, hpn⟩ := hn
      exact chain_ne_nil hp (List.cons.inj hpn).2
    · exact List.pairwise_map.mpr (hc.imp fun hne he => hne (List.cons.inj he).2)

/-- Where siblings have different names, no chain of names occurs twice. -/
theorem nodup_placesOfAll : ∀ ns : List (Node α), (ns.map name).Nodup →
    (∀ row ∈ rowsOfAll ns, row.Nodup) → ((placesOfAll ns).map Place.chain).Nodup
  | [], _, _ => List.Pairwise.nil
  | n :: ns, hn, h => by
    obtain ⟨hne, hns⟩ := List.nodup_cons.mp hn
    rw [placesOfAll, List.map_append, List.nodup_append]
    refine ⟨nodup_places n fun row hr => h row (List.mem_append_left _ hr),
      nodup_placesOfAll ns hns fun row hr => h row (List.mem_append_right _ hr), ?_⟩
    intro c hc c' hc' hcc
    obtain ⟨p, hp, rfl⟩ := List.mem_map.mp hc
    obtain ⟨q, hq, rfl⟩ := List.mem_map.mp hc'
    obtain ⟨m, hm, hqm⟩ := mem_placesOfAll.mp hq
    have hnm : n.name = m.name :=
      Option.some.inj ((head?_chain hp).symm.trans ((congrArg _ hcc).trans (head?_chain hqm)))
    exact hne (hnm ▸ List.mem_map_of_mem hm)

end

/-! ### Names turned into others -/

theorem mapAll_eq_map (f : α → β) (ns : List (Node α)) : mapAll f ns = ns.map (map f) := by
  induction ns with
  | nil => rfl
  | cons n ns ih => rw [mapAll, ih, List.map_cons]

end Node

namespace Disk

/-- Whether the disk has a chain of names down from the directory at a path: each is that of an
entry there, and all but the last lead to directories. -/
def IsChain (d : Disk) (path : Bytes) : List Bytes → Prop
  | [] => False
  | name :: rest =>
    d.IsEntry path name ∧
      (rest = [] ∨
        d.isDirectory (joinPath path name) = true ∧ IsChain d (joinPath path name) rest)

variable (d : Disk)

/-! ### One level of a walk -/

theorem mem_placesOfAll_map {f : Entry → Node Bytes} {path : Bytes} {p : Place Bytes} :
    p ∈ Node.placesOfAll ((d.entries path).map f) ↔
      ∃ name, d.IsEntry path name ∧ p ∈ (f (d.entry path name)).places := by
  simp only [Node.mem_placesOfAll, List.mem_map, mem_entries]
  constructor
  · rintro ⟨_, ⟨_, ⟨name, hn, rfl⟩, rfl⟩, hp⟩
    exact ⟨name, hn, hp⟩
  · rintro ⟨name, hn, hp⟩
    exact ⟨_, ⟨_, ⟨name, hn, rfl⟩, rfl⟩, hp⟩

theorem mem_nodesDown_zero {path : Bytes} {p : Place Bytes} :
    p ∈ Node.placesOfAll (d.nodesDown Entry.file 0 path) ↔
      ∃ name, d.IsEntry path name ∧ p = ⟨[name], d.isDirectory (joinPath path name), false⟩ := by
  rw [nodesDown, mem_placesOfAll_map]
  refine exists_congr fun name => and_congr_right fun _ => ?_
  cases hd : d.isDirectory (joinPath path name) <;> simp [entry, hd, Node.places]

theorem mem_nodesDown_succ {k : Nat} {path : Bytes} {p : Place Bytes} :
    p ∈ Node.placesOfAll (d.nodesDown Entry.file (k + 1) path) ↔
      ∃ name, d.IsEntry path name ∧
        (p = ⟨[name], d.isDirectory (joinPath path name), d.isDirectory (joinPath path name)⟩ ∨
          d.isDirectory (joinPath path name) = true ∧
            ∃ q ∈ Node.placesOfAll (d.nodesDown Entry.file k (joinPath path name)),
              q.under name = p) := by
  rw [nodesDown, mem_placesOfAll_map]
  refine exists_congr fun name => and_congr_right fun _ => ?_
  cases hd : d.isDirectory (joinPath path name) <;> simp [entry, hd, Node.places]

/-! ### Whole walks -/

theorem IsChain.ne_nil {path : Bytes} {c : List Bytes} (h : d.IsChain path c) : c ≠ [] := by
  rintro rfl
  exact h

/-- The places of a walk are the chains that it reaches, each with the kind of its last item. -/
theorem mem_nodesDown {k : Nat} {path : Bytes} {c : List Bytes} {isDirectory isOpened : Bool} :
    ⟨c, isDirectory, isOpened⟩ ∈ Node.placesOfAll (d.nodesDown Entry.file k path) ↔
      d.IsChain path c ∧ c.length ≤ k + 1 ∧
        isDirectory = d.isDirectory (c.foldl joinPath path) ∧
        isOpened = (isDirectory && decide (c.length ≤ k)) := by
  induction k generalizing path c isDirectory isOpened with
  | zero =>
    rw [mem_nodesDown_zero]
    constructor
    · rintro ⟨name, hn, he⟩
      cases he
      exact ⟨⟨hn, .inl rfl⟩, Nat.le_refl 1, rfl, by simp⟩
    · rintro ⟨hc, hl, rfl, rfl⟩
      cases c with
      | nil => exact hc.elim
      | cons name rest =>
        obtain rfl : rest = [] := List.eq_nil_of_length_eq_zero (by simpa using hl)
        exact ⟨name, hc.1, by simp⟩
  | succ k ih =>
    rw [mem_nodesDown_succ]
    constructor
    · rintro ⟨name, hn, he | ⟨hd, ⟨rest, isDirectory, isOpened⟩, hq, he⟩⟩
      · cases he
        exact ⟨⟨hn, .inl rfl⟩, by simp, rfl, by simp⟩
      · obtain ⟨hc, hl, hq, ho⟩ := ih.mp hq
        cases he
        exact ⟨⟨hn, .inr ⟨hd, hc⟩⟩, by simpa using hl, hq, by simpa using ho⟩
    · rintro ⟨hc, hl, rfl, rfl⟩
      cases c with
      | nil => exact hc.elim
      | cons name rest =>
        obtain ⟨hn, rfl | ⟨hd, hrest⟩⟩ := hc
        · exact ⟨name, hn, .inl (by simp)⟩
        · refine ⟨name, hn, .inr ⟨hd, ⟨rest, _, _⟩, ih.mpr ⟨hrest, ?_, rfl, rfl⟩, ?_⟩⟩
          · simpa using hl
          · simp [Place.under]

/-- The names of the nodes right below a path are those of its entries. -/
theorem map_name_nodesDown (k : Nat) (path : Bytes) :
    (d.nodesDown Entry.file k path).map Node.name = (d.entries path).map Entry.file := by
  have hmap (f : Entry → Node Bytes) (hf : ∀ e, (f e).name = e.file) :
      ((d.entries path).map f).map Node.name = (d.entries path).map Entry.file := by
    rw [List.map_map]
    exact List.map_congr_left fun e _ => hf e
  cases k with
  | zero => exact hmap _ fun e => by split <;> rfl
  | succ k => exact hmap _ fun e => by split <;> rfl

theorem pairwise_map_name (k : Nat) (path : Bytes) :
    ((d.nodesDown Entry.file k path).map Node.name).Pairwise (· < ·) :=
  d.map_name_nodesDown k path ▸ d.pairwise_entries path

/-- The names of siblings increase byte by byte. -/
theorem pairwise_siblings (k : Nat) (path : Bytes) :
    ∀ row ∈ Node.siblings (d.nodesDown Entry.file k path), row.Pairwise (· < ·) := by
  intro row hr
  induction k generalizing path with
  | zero =>
    rcases List.mem_cons.mp hr with rfl | hr
    · exact d.pairwise_map_name 0 path
    · obtain ⟨n, hn, hr⟩ := Node.mem_rowsOfAll.mp hr
      obtain ⟨e, -, rfl⟩ := List.mem_map.mp hn
      cases he : e.isDirectory <;> simp [he, Node.rows] at hr
  | succ k ih =>
    rcases List.mem_cons.mp hr with rfl | hr
    · exact d.pairwise_map_name (k + 1) path
    · obtain ⟨n, hn, hr⟩ := Node.mem_rowsOfAll.mp hr
      obtain ⟨e, -, rfl⟩ := List.mem_map.mp hn
      cases he : e.isDirectory with
      | false => simp [he, Node.rows] at hr
      | true =>
        rw [he, if_pos rfl] at hr
        exact ih e.path hr

theorem nodup_nodesDown (k : Nat) (path : Bytes) :
    ((Node.placesOfAll (d.nodesDown Entry.file k path)).map Place.chain).Nodup := by
  have hrow : ∀ row ∈ Node.siblings (d.nodesDown Entry.file k path), row.Nodup := fun row hr =>
    (d.pairwise_siblings k path row hr).imp fun {s t} hlt (he : s = t) =>
      List.lt_irrefl _ (he ▸ hlt)
  exact Node.nodup_placesOfAll _ (hrow _ (List.mem_cons_self ..)) fun row hr =>
    hrow row (List.mem_cons_of_mem _ hr)

theorem nodesDown_eq_of_perm {d d' : Disk} (h : d.items.Perm d'.items) (hbase : d.base = d'.base)
    (k : Nat) (path : Bytes) :
    d.nodesDown Entry.file k path = d'.nodesDown Entry.file k path := by
  induction k generalizing path with
  | zero => rw [nodesDown, nodesDown, entries_eq_of_perm h hbase]
  | succ k ih =>
    rw [nodesDown, nodesDown, entries_eq_of_perm h hbase]
    exact List.map_congr_left fun e _ => by rw [ih]

theorem nodesDown_eq_nil {path : Bytes} (h : ¬ d.IsListable path) (k : Nat) :
    d.nodesDown Entry.file k path = [] := by
  cases k <;> rw [nodesDown, entries_eq_nil h] <;> rfl

/-- Naming the entries otherwise gives the same nodes with other names. -/
theorem nodesDown_comp {α β : Type} (f : α → β) (naming : Entry → α) (k : Nat) (path : Bytes) :
    d.nodesDown (f ∘ naming) k path = Node.mapAll f (d.nodesDown naming k path) := by
  rw [Node.mapAll_eq_map]
  induction k generalizing path with
  | zero =>
    rw [nodesDown, nodesDown, List.map_map]
    refine List.map_congr_left fun e _ => ?_
    cases he : e.isDirectory <;> simp [he, Node.map]
  | succ k ih =>
    rw [nodesDown, nodesDown, List.map_map]
    refine List.map_congr_left fun e _ => ?_
    cases he : e.isDirectory <;> simp [he, Node.map, Node.mapAll_eq_map, ih]

/-- A walk shows its names as text and is otherwise the walk with the names on the disk. -/
theorem walkNodes_eq_mapAll (depth : Int) (root : Bytes) :
    d.walkNodes depth root = Node.mapAll Text.shown (d.rawNodes depth root) := by
  cases depth with
  | ofNat k => exact d.nodesDown_comp Text.shown Entry.file k root
  | negSucc k => rfl

/-- The nodes of a walk are exactly the chains of names that the disk has below the root, as far
as the depth reaches, and each is there once. A node is a directory if its path leads to one, and
then says what it holds unless the depth ends with it. Siblings are in the order of the bytes of
their names. A negative depth, and a root that cannot be listed, give no nodes, and the order in
which the disk enumerates its items changes nothing. All this is said of the names on the disk;
the walk shows them as text, those that encode one as that. -/
theorem walkNodes_exact (depth : Int) (root : Bytes) :
    d.walkNodes depth root = Node.mapAll Text.shown (d.rawNodes depth root) ∧
      (∀ name, Text.shown (Text.utf8 name) = name) ∧
      (∀ c, c ∈ (Node.placesOfAll (d.rawNodes depth root)).map Place.chain ↔
        d.IsChain root c ∧ (c.length : Int) ≤ depth + 1) ∧
      ((Node.placesOfAll (d.rawNodes depth root)).map Place.chain).Nodup ∧
      (∀ p ∈ Node.placesOfAll (d.rawNodes depth root),
        p.isDirectory = d.isDirectory (p.chain.foldl joinPath root) ∧
          (p.isOpened = true ↔ p.isDirectory = true ∧ (p.chain.length : Int) ≤ depth)) ∧
      (∀ row ∈ Node.siblings (d.rawNodes depth root), row.Pairwise (· < ·)) ∧
      (depth < 0 ∨ ¬ d.IsListable root → d.rawNodes depth root = []) ∧
      ∀ d' : Disk, d.items.Perm d'.items → d.base = d'.base →
        d'.rawNodes depth root = d.rawNodes depth root := by
  refine ⟨d.walkNodes_eq_mapAll depth root, Text.shown_utf8, ?_⟩
  cases depth with
  | ofNat k =>
    rw [rawNodes, nodesAs]
    refine ⟨fun c => ?_, d.nodup_nodesDown k root, fun p hp => ?_, d.pairwise_siblings k root,
      ?_, fun d' h hbase => (nodesDown_eq_of_perm h hbase k root).symm⟩
    · rw [List.mem_map, Int.ofNat_eq_natCast]
      constructor
      · rintro ⟨⟨c, _, _⟩, hp, rfl⟩
        obtain ⟨hc, hl, -, -⟩ := (mem_nodesDown d).mp hp
        exact ⟨hc, Int.ofNat_le.mpr hl⟩
      · rintro ⟨hc, hl⟩
        exact ⟨⟨c, _, _⟩, (mem_nodesDown d).mpr ⟨hc, Int.ofNat_le.mp hl, rfl, rfl⟩, rfl⟩
    · obtain ⟨c, isDirectory, isOpened⟩ := p
      obtain ⟨-, -, hd, ho⟩ := (mem_nodesDown d).mp hp
      refine ⟨hd, ?_⟩
      rw [ho, Bool.and_eq_true, decide_eq_true_iff, Int.ofNat_eq_natCast, Int.ofNat_le]
    · rintro (hk | hr)
      · exact absurd hk (Int.not_lt.mpr (Int.natCast_nonneg k))
      · exact d.nodesDown_eq_nil hr k
  | negSucc k =>
    rw [rawNodes, nodesAs]
    refine ⟨fun c => ?_, List.Pairwise.nil, fun p hp => ?_, fun row hr => ?_, fun _ => rfl,
      fun d' _ _ => rfl⟩
    · constructor
      · exact fun hc => absurd hc List.not_mem_nil
      · rintro ⟨hc, hl⟩
        have hpos : 0 < c.length := List.length_pos_iff.mpr hc.ne_nil
        omega
    · exact absurd hp List.not_mem_nil
    · rw [List.mem_singleton.mp hr]
      exact List.Pairwise.nil

/-! ### What a walk does not keep -/

/-- Whether the disk has a chain of names down from a directory, the links on the way being
followed in any number: each is that of an item there, and all but the last lead to directories. -/
def LeadsDown (d : Disk) (here : Location) : List Name → Prop
  | [] => False
  | n :: rest =>
    n ∈ d.children here ∧
      (rest = [] ∨ ∃ loc, d.Leads here [.name n] loc ∧ d.holdsDirectory loc = true ∧
        LeadsDown d loc rest)

/-- Through a link to its own directory a chain goes down as far as one likes. -/
theorem leadsDown_replicate {here : Location} {n : Name} (hn : n ∈ d.children here)
    (hd : d.holdsDirectory here = true) (hl : d.Leads here [.name n] here) (k : Nat) :
    d.LeadsDown here (List.replicate (k + 1) n) := by
  induction k with
  | zero => exact ⟨hn, .inl rfl⟩
  | succ k ih => exact ⟨hn, .inr ⟨here, hl, hd, ih⟩⟩

set_option maxRecDepth 2000 in
/-- Two files named by bytes that encode no text are shown under the same name, so that a chain is
there twice and names do not increase. And a link to its own directory goes down 42 times, but the
walk to that depth has no such chain: the system follows the link 40 times in one path. -/
theorem walkNodes_repeats_and_ends :
    (let d := (empty.put [⟨[0xFE], by decide⟩] (.file true ByteArray.empty)).put
        [⟨[0xFF], by decide⟩] (.file true ByteArray.empty);
      ¬ ((Node.placesOfAll (d.walkNodes 0 [slash])).map Place.chain).Nodup ∧
        ¬ ∀ row ∈ Node.siblings (d.walkNodes 0 [slash]),
          row.Pairwise fun s t => Text.utf8 s < Text.utf8 t) ∧
      let a : Name := ⟨Text.utf8 ['a'], by decide⟩
      let d := empty.put [a] (.link [dot])
      d.LeadsDown [] (List.replicate 42 a) ∧
        List.replicate 42 ['a'] ∉
          (Node.placesOfAll (d.walkNodes 41 [slash])).map Place.chain := by
  refine ⟨?_, ?_⟩
  · intro d
    have hnodes : d.walkNodes 0 [slash] = [.file ['�'], .file ['�']] := by cbv
    rw [hnodes]
    exact ⟨by decide, by decide⟩
  · intro a d
    have hlink : d.Leads [] [.name a] [] := ⟨1, by cbv⟩
    have hlisted : a ∈ d.children [] := List.mem_singleton_self a
    refine ⟨d.leadsDown_replicate hlisted rfl hlink 41, fun h => ?_⟩
    have hlengths : (Node.placesOfAll (d.walkNodes 41 [slash])).map (·.chain.length) =
        List.range' 1 41 := by cbv
    obtain ⟨p, hp, hchain⟩ := List.mem_map.mp h
    have hmem : p.chain.length ∈ List.range' 1 41 := hlengths ▸ List.mem_map_of_mem hp
    rw [hchain] at hmem
    exact absurd hmem (by decide)

end Disk

end CodeAtlas
