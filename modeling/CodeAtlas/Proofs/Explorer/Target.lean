import CodeAtlas.Proofs.Disk.Resolution
import CodeAtlas.Proofs.Explorer.Batch
import CodeAtlas.Proofs.Tree.Agreement
import CodeAtlas.Proofs.Tree.Exactness
import CodeAtlas.Python.Recovery

/-!
# Only the target of a path matters

A walk continues the path of its root by the names it comes to, and resolves the growing path
again at every level. Where the limits on the length of a path and on its links are not reached,
two spellings of a root stay together all the way down (`nodesDown_eq_of_locate?`), and below every
directory that a walk comes to, through links or not, stands what a walk from there has
(`below?_rawNodes`). The outlines of a file only read the item that the path leads to. So paths
with the same target are answered alike (`answers_eq_of_target`).
-/

namespace CodeAtlas

namespace Node

variable {α : Type} [BEq α]

/-- The nodes that a chain of directories leads down to. -/
def below? (ns : List (Node α)) : List α → Option (List (Node α))
  | [] => some ns
  | name :: rest =>
    match ns.find? fun n => n.name == name with
    | some (.opened _ children) => below? children rest
    | _ => none

end Node

namespace Disk

variable {d : Disk} {p q : Bytes}

/-! ### Limits of a walk -/

/-- Whether no path that a walk to a depth comes to reaches the limits. -/
def StaysWithinLimits (d : Disk) (depth : Int) (root : Bytes) : Prop :=
  ∀ c, d.IsChain root c → (c.length : Int) ≤ depth + 1 → d.IsWithinLimits (c.foldl joinPath root)

theorem IsChain.append {c c' : List Bytes} (h : d.IsChain p c)
    (hd : d.isDirectory (c.foldl joinPath p) = true) (h' : d.IsChain (c.foldl joinPath p) c') :
    d.IsChain p (c ++ c') := by
  induction c generalizing p with
  | nil => exact h.elim
  | cons name rest ih =>
    obtain ⟨hn, rfl | ⟨hname, hrest⟩⟩ := h
    · exact ⟨hn, .inr ⟨hd, h'⟩⟩
    · exact ⟨hn, .inr ⟨hname, ih hrest hd h'⟩⟩

/-- Below a directory that a walk comes to, fewer levels are left. -/
theorem StaysWithinLimits.below {depth : Int} {c : List Bytes} (h : d.StaysWithinLimits depth p)
    (hc : d.IsChain p c) (hd : d.isDirectory (c.foldl joinPath p) = true) :
    d.StaysWithinLimits (depth - c.length) (c.foldl joinPath p) := by
  intro c' hc' hl
  rw [← List.foldl_append]
  refine h _ (hc.append hd hc') ?_
  rw [List.length_append]
  omega

theorem StaysWithinLimits.below_entry {k : Nat} {name : Bytes}
    (h : d.StaysWithinLimits (k + 1 : Nat) p) (hn : d.IsEntry p name)
    (hd : d.isDirectory (joinPath p name) = true) : d.StaysWithinLimits k (joinPath p name) := by
  have hb := h.below (c := [name]) ⟨hn, .inl rfl⟩ hd
  rwa [List.length_singleton, Int.natCast_succ, Int.natCast_one, Int.add_sub_cancel] at hb

/-- A walk reaches no limits if there is something at every place it comes to. -/
theorem staysWithinLimits_of_places {depth : Int}
    (h : ((Node.placesOfAll (d.rawNodes depth p)).all fun s =>
      (d.locate? (s.chain.foldl joinPath p)).isSome) = true) :
    d.StaysWithinLimits depth p := by
  intro c hc hl
  obtain ⟨k, rfl⟩ : ∃ k : Nat, depth = Int.ofNat k := by
    have hpos : 0 < c.length := List.length_pos_iff.mpr hc.ne_nil
    exact ⟨depth.toNat, by simp; omega⟩
  have hm : ∃ s ∈ Node.placesOfAll (d.rawNodes (Int.ofNat k) p), s.chain = c := by
    refine ⟨⟨c, _, _⟩, (mem_nodesDown d).mpr ⟨hc, ?_, rfl, rfl⟩, rfl⟩
    simpa using Int.ofNat_le.mp hl
  obtain ⟨s, hs, rfl⟩ := hm
  exact isWithinLimits_of_locate? (List.all_eq_true.mp h s hs)

/-! ### Walks -/

theorem names?_eq_of_locate? (h : d.locate? p = d.locate? q) : d.names? p = d.names? q := by
  rw [names?, names?, h]

theorem isDirectory_eq_of_locate? (h : d.locate? p = d.locate? q) :
    d.isDirectory p = d.isDirectory q := by
  rw [isDirectory, isDirectory, h]

/-- Paths with the same target have entries of the same names. -/
theorem exists_entries_eq_map (h : d.locate? p = d.locate? q) :
    ∃ names : List Bytes, (∀ name ∈ names, d.IsEntry p name ∧ d.IsEntry q name) ∧
      d.entries p = names.map (d.entry p) ∧ d.entries q = names.map (d.entry q) := by
  have hns := names?_eq_of_locate? h
  cases hq : d.names? q with
  | none =>
    exact ⟨[], by simp, by simp [entries, entries?, hns, hq], by simp [entries, entries?, hq]⟩
  | some ns =>
    refine ⟨(ns.map Name.bytes).mergeSort precedes, fun name hm => ?_,
      by simp [entries, entries?, hns, hq], by simp [entries, entries?, hq]⟩
    rw [List.mem_mergeSort] at hm
    exact ⟨isEntry_iff.mpr ⟨ns, hns.trans hq, hm⟩, isEntry_iff.mpr ⟨ns, hq, hm⟩⟩

theorem locate?_joinPath_of_isEntry {depth : Int} (hdepth : 0 ≤ depth) {name : Bytes}
    (hp : d.StaysWithinLimits depth p) (hq : d.StaysWithinLimits depth q)
    (h : d.locate? p = d.locate? q) (hpn : d.IsEntry p name) (hqn : d.IsEntry q name) :
    d.locate? (joinPath p name) = d.locate? (joinPath q name) := by
  have hlength : (([name] : List Bytes).length : Int) ≤ depth + 1 := by
    rw [List.length_singleton]
    omega
  have hpl := hp [name] ⟨hpn, .inl rfl⟩ hlength
  have hql := hq [name] ⟨hqn, .inl rfl⟩ hlength
  obtain ⟨loc, n, hloc, -, -, rfl⟩ := hpn
  exact locate?_joinPath_eq n hloc (h ▸ hloc) hpl hql

/-- Paths with the same target have the same nodes below them. -/
theorem nodesDown_eq_of_locate? (k : Nat) (h : d.locate? p = d.locate? q)
    (hp : d.StaysWithinLimits k p) (hq : d.StaysWithinLimits k q) :
    d.nodesDown Entry.file k p = d.nodesDown Entry.file k q := by
  induction k generalizing p q with
  | zero =>
    obtain ⟨names, hnames, hep, heq⟩ := exists_entries_eq_map h
    rw [nodesDown, nodesDown, hep, heq, List.map_map, List.map_map]
    refine List.map_congr_left fun name hname => ?_
    obtain ⟨hpn, hqn⟩ := hnames name hname
    have hjoin := locate?_joinPath_of_isEntry (Int.natCast_nonneg 0) hp hq h hpn hqn
    cases hd : d.isDirectory (joinPath q name) <;>
      simp [entry, isDirectory_eq_of_locate? hjoin, hd]
  | succ k ih =>
    obtain ⟨names, hnames, hep, heq⟩ := exists_entries_eq_map h
    rw [nodesDown, nodesDown, hep, heq, List.map_map, List.map_map]
    refine List.map_congr_left fun name hname => ?_
    obtain ⟨hpn, hqn⟩ := hnames name hname
    have hjoin := locate?_joinPath_of_isEntry (Int.natCast_nonneg (k + 1)) hp hq h hpn hqn
    have hdir := isDirectory_eq_of_locate? hjoin
    cases hd : d.isDirectory (joinPath q name) with
    | false => simp [entry, hdir, hd]
    | true =>
      have hbelow := ih hjoin (hp.below_entry hpn (hdir.trans hd)) (hq.below_entry hqn hd)
      simp [entry, hdir, hd, hbelow]

theorem rawNodes_eq_of_locate? {depth : Int} (h : d.locate? p = d.locate? q)
    (hp : d.StaysWithinLimits depth p) (hq : d.StaysWithinLimits depth q) :
    d.rawNodes depth p = d.rawNodes depth q := by
  cases depth with
  | ofNat k => exact nodesDown_eq_of_locate? k h hp hq
  | negSucc k => rfl

/-- An entry is found under its name. -/
theorem find?_map_entries {f : Entry → Node Bytes} (hf : ∀ e, (f e).name = e.file) {name : Bytes}
    (h : d.IsEntry p name) :
    ((d.entries p).map f).find? (fun n => n.name == name) = some (f (d.entry p name)) := by
  cases hfind : ((d.entries p).map f).find? fun n => n.name == name with
  | none =>
    have hmem : f (d.entry p name) ∈ (d.entries p).map f :=
      List.mem_map_of_mem (mem_entries.mpr ⟨name, h, rfl⟩)
    have hne := List.find?_eq_none.mp hfind _ hmem
    rw [hf] at hne
    exact absurd (beq_self_eq_true name) hne
  | some n =>
    obtain ⟨e, he, rfl⟩ := List.mem_map.mp (List.mem_of_find?_eq_some hfind)
    obtain ⟨name', -, rfl⟩ := mem_entries.mp he
    have hname := List.find?_some hfind
    rw [hf, beq_iff_eq] at hname
    obtain rfl : name' = name := hname
    rfl

/-- Below a directory that a walk comes to stands what a walk from there has, with the levels that
are left. -/
theorem below?_nodesDown {k : Nat} {c : List Bytes} (hc : d.IsChain p c) (hl : c.length ≤ k)
    (hd : d.isDirectory (c.foldl joinPath p) = true) :
    Node.below? (d.nodesDown Entry.file k p) c =
      some (d.nodesDown Entry.file (k - c.length) (c.foldl joinPath p)) := by
  induction c generalizing k p with
  | nil => exact hc.elim
  | cons name rest ih =>
    obtain ⟨k, rfl⟩ : ∃ m, k = m + 1 := ⟨k - 1, by simp at hl; omega⟩
    have hname : d.isDirectory (joinPath p name) = true := by
      obtain ⟨-, rfl | ⟨hname, -⟩⟩ := hc
      · exact hd
      · exact hname
    have hfind : (d.nodesDown Entry.file (k + 1) p).find? (fun n => n.name == name) =
        some (.opened name (d.nodesDown Entry.file k (joinPath p name))) := by
      rw [nodesDown, find?_map_entries (fun e => by split <;> rfl) hc.1]
      simp [entry, hname]
    have hlength : k + 1 - (name :: rest).length = k - rest.length := by simp
    rw [Node.below?, hfind, hlength, List.foldl_cons]
    obtain ⟨-, rfl | ⟨-, hrest⟩⟩ := hc
    · rfl
    · exact ih hrest (by simpa using hl) hd

theorem below?_rawNodes {depth : Int} {c : List Bytes} (hc : d.IsChain p c)
    (hl : (c.length : Int) ≤ depth) (hd : d.isDirectory (c.foldl joinPath p) = true) :
    Node.below? (d.rawNodes depth p) c =
      some (d.rawNodes (depth - c.length) (c.foldl joinPath p)) := by
  obtain ⟨k, rfl⟩ : ∃ k : Nat, depth = Int.ofNat k := ⟨depth.toNat, by simp; omega⟩
  have hk : c.length ≤ k := Int.ofNat_le.mp hl
  have hsub : Int.ofNat k - c.length = Int.ofNat (k - c.length) := (Int.ofNat_sub hk).symm
  rw [rawNodes, nodesAs, below?_nodesDown hc hk hd, hsub]
  rfl

/-! ### Answers -/

section Answers

variable {r : Python.Reader} {p q : Text} (hp : d.rejection? p = none) (hq : d.rejection? q = none)
  (h : d.locate? p.utf8 = d.locate? q.utf8)

include hp hq h

theorem fileText_eq_of_target : d.fileText p = d.fileText q := by
  have hread : d.read p.utf8 = d.read q.utf8 := by
    rw [read, read, find?, find?, h]
  rw [fileText, fileText, hp, hq, hread]

theorem pythonReport_eq_of_target : d.pythonReport r p = d.pythonReport r q := by
  rw [pythonReport, pythonReport, pythonOutlineAt, pythonOutlineAt,
    fileText_eq_of_target hp hq h]

theorem markdownReport_eq_of_target : d.markdownReport p = d.markdownReport q := by
  rw [markdownReport, markdownReport, headingsAt, headingsAt, fileText_eq_of_target hp hq h]

/-- Two paths that pass the check and lead to the same place are answered alike, as far as no limit
is reached: they have the same directory tree at every depth, except that a Markdown tree names
its root, and the same outlines, whatever other paths these are asked for with. Below each directory
that the walk comes to stands what a walk from any other path to that directory has, with the levels
that are left; the names on the disk say which directory that is. -/
theorem answers_eq_of_target :
    (∀ depth, d.StaysWithinLimits depth p.utf8 → d.StaysWithinLimits depth q.utf8 →
      d.dirTree p depth .text = d.dirTree q depth .text ∧
        d.dirTree p depth .json = d.dirTree q depth .json ∧
        (∃ tree, d.dirTree p depth .markdown = .str (renderMarkdown p tree) ∧
          d.dirTree q depth .markdown = .str (renderMarkdown q tree)) ∧
        ∀ c t, d.IsChain p.utf8 c → (c.length : Int) ≤ depth →
          d.isDirectory (c.foldl joinPath p.utf8) = true →
          d.locate? t = d.locate? (c.foldl joinPath p.utf8) →
          d.StaysWithinLimits (depth - c.length) t →
          Node.below? (d.rawNodes depth p.utf8) c = some (d.rawNodes (depth - c.length) t)) ∧
      (∀ depth path, d.walkNodes depth path = Node.mapAll Text.shown (d.rawNodes depth path)) ∧
      ∀ ps qs, p ∈ ps → q ∈ qs →
        (∃ report, (d.pythonOutline r ps).under? p = some report ∧
          (d.pythonOutline r qs).under? q = some report) ∧
        ∃ report, (d.markdownOutline ps).under? p = some report ∧
          (d.markdownOutline qs).under? q = some report := by
  refine ⟨fun depth hpl hql => ?_, d.walkNodes_eq_mapAll, fun ps qs hps hqs =>
    ⟨⟨d.pythonReport r q, ?_, find?_collect (d.pythonReport r) hqs⟩, d.markdownReport q, ?_,
      find?_collect d.markdownReport hqs⟩⟩
  · have hnodes : d.walkNodes depth p.utf8 = d.walkNodes depth q.utf8 := by
      rw [walkNodes_eq_mapAll, walkNodes_eq_mapAll, rawNodes_eq_of_locate? h hpl hql]
    have htext : d.walkText treeIndent depth p.utf8 = d.walkText treeIndent depth q.utf8 := by
      rw [walkText_eq, walkText_eq, hnodes]
    refine ⟨?_, ?_, ⟨d.walkText treeIndent depth p.utf8, ?_, ?_⟩, fun c t hc hl hd ht htl => ?_⟩
    · simp only [dirTree, hp, hq, htext]
    · simp only [dirTree, hp, hq, hnodes]
    · simp only [dirTree, hp]
    · simp only [dirTree, hq, htext]
    · rw [below?_rawNodes hc hl hd, rawNodes_eq_of_locate? ht htl (hpl.below hc hd)]
  · rw [← pythonReport_eq_of_target hp hq h]
    exact find?_collect (d.pythonReport r) hps
  · rw [← markdownReport_eq_of_target hp hq h]
    exact find?_collect d.markdownReport hps

end Answers

/-- A directory with a link to itself, by its own path and by one that goes through the link and
back up. Under the link stands what the directory has, one level less deep. -/
theorem answers_eq_of_target_cycle :
    let a : Name := ⟨Text.utf8 ['a'], by decide⟩
    let d := ((empty.put [a] (.directory true true)).put
      [⟨Text.utf8 ['l'], by decide⟩, a] (.link [dot])).put
      [⟨Text.utf8 ['f'], by decide⟩, a] (.file true ByteArray.empty)
    let p := ['/', 'a']
    let q := ['/', 'a', '/', 'l', '/', '.', '.', '/', 'a', '/']
    let l := Text.utf8 ['l']
    let r := Python.Reader.standard
    d.rejection? p = none ∧ d.rejection? q = none ∧
      d.locate? (Text.utf8 p) = d.locate? (Text.utf8 q) ∧
      d.StaysWithinLimits 2 (Text.utf8 p) ∧ d.StaysWithinLimits 2 (Text.utf8 q) ∧
      d.dirTree p 2 .text = d.dirTree q 2 .text ∧
      d.IsChain (Text.utf8 p) [l] ∧ d.StaysWithinLimits 1 (Text.utf8 p) ∧
      Node.below? (d.rawNodes 2 (Text.utf8 p)) [l] = some (d.rawNodes 1 (Text.utf8 p)) ∧
      ∃ report, (d.pythonOutline r [p]).under? p = some report ∧
        (d.pythonOutline r [p, q]).under? q = some report := by
  intro a d p q l r
  have hp : d.rejection? p = none := by cbv
  have hq : d.rejection? q = none := by cbv
  have h : d.locate? (Text.utf8 p) = d.locate? (Text.utf8 q) := by cbv
  have hpl : d.StaysWithinLimits 2 (Text.utf8 p) := staysWithinLimits_of_places (by cbv)
  have hql : d.StaysWithinLimits 2 (Text.utf8 q) := staysWithinLimits_of_places (by cbv)
  have hpl' : d.StaysWithinLimits 1 (Text.utf8 p) := staysWithinLimits_of_places (by cbv)
  have hc : d.IsChain (Text.utf8 p) [l] :=
    ⟨isEntry_iff.mpr ⟨_, by cbv, by decide⟩, .inl rfl⟩
  obtain ⟨htrees, -, houtlines⟩ := answers_eq_of_target (r := r) hp hq h
  obtain ⟨htext, -, -, hbelow⟩ := htrees 2 hpl hql
  exact ⟨hp, hq, h, hpl, hql, htext, hc, hpl',
    hbelow [l] (Text.utf8 p) hc (by decide) (by cbv) (by cbv) hpl',
    (houtlines [p] [p, q] (by simp) (by simp)).1⟩

end Disk

end CodeAtlas
