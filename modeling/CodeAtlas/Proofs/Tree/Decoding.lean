import CodeAtlas.Proofs.Disk.Listing
import CodeAtlas.Proofs.Text.Bytes
import CodeAtlas.Proofs.Text.Splitting
import CodeAtlas.Proofs.Tree.Agreement
import Mathlib

/-!
# A tree can be read back from its text

The text of a walk says by leading spaces how deep a node lies and by a slash at the end that it
is a directory. Where no name has a line end or white space at its ends, that is enough: each line
gives its node back (`Listed.ofLine_line`), the nodes one after another give the nested ones back
(`Node.ofListing_nodesDown`), and so walks with the same text have the same nodes
(`walkText_eq_iff`).
-/

namespace CodeAtlas

/-! ### Lines -/

/-- Whether a text can be the name of an item as it is shown. -/
structure IsShownName (name : Text) : Prop where
  /-- Something is shown. -/
  ne_nil : name ≠ []
  /-- No slash is shown. -/
  noSlash : '/' ∉ name

/-- Names are shown as texts that are not empty and have no slash, whatever their bytes are. -/
theorem isShownName_shown {name : Bytes} (h : isName name = true) :
    IsShownName (Text.shown name) :=
  ⟨Text.shown_ne_nil (ne_nil_of_isName h), Text.slash_not_mem_shown (slash_not_mem_of_isName h)⟩

/-- Whether a name can be told from the white space around it. -/
structure IsLegible (name : Text) : Prop where
  /-- It stays on one line. -/
  oneLine : '\n' ∉ name
  /-- It does not begin with white space. -/
  head : ∀ c ∈ name.head?, isBlank c = false
  /-- It does not end with white space. -/
  last : ∀ c ∈ name.getLast?, isBlank c = false

instance (name : Text) : Decidable (IsLegible name) :=
  decidable_of_iff
    ('\n' ∉ name ∧ name.head?.any isBlank = false ∧ name.getLast?.any isBlank = false) <| by
  rw [Option.any_eq_false, Option.any_eq_false]
  exact ⟨fun h => ⟨h.1, h.2.1, h.2.2⟩, fun h => ⟨h.oneLine, h.head, h.last⟩⟩

namespace Listed

/-- The name of a listed node, with a slash behind it if it is a directory. -/
def label (l : Listed) : Text := if l.isDirectory then l.name ++ ['/'] else l.name

/-- The node that a line stands for where a level is two spaces. -/
def ofLine (line : Text) : Listed :=
  let label := line.dropWhile (· == ' ')
  let isDirectory := label.getLast? == some '/'
  ⟨(line.length - label.length) / 2, if isDirectory then label.dropLast else label, isDirectory⟩

/-- The nodes that the lines of a text stand for. -/
def ofText (s : Text) : List Listed := if s.isEmpty then [] else (Text.lines s).map ofLine

theorem margin_treeIndent (level : Nat) :
    margin Disk.treeIndent level = List.replicate (level * 2) ' ' := by
  have hindent : Disk.treeIndent = List.replicate 2 ' ' := rfl
  rw [margin, hindent, List.flatten_replicate_replicate]

theorem line_eq (l : Listed) :
    line Disk.treeIndent l = List.replicate (l.level * 2) ' ' ++ l.label := by
  rw [line, margin_treeIndent, label]

section Line

variable {l : Listed} (hn : IsShownName l.name)

include hn

theorem label_ne_nil : l.label ≠ [] := by
  unfold label
  split
  · exact List.append_ne_nil_of_right_ne_nil _ (List.cons_ne_nil _ _)
  · exact hn.ne_nil

theorem line_ne_nil : line Disk.treeIndent l ≠ [] := by
  rw [line_eq]
  exact List.append_ne_nil_of_right_ne_nil _ (label_ne_nil hn)

theorem getLast?_line : (line Disk.treeIndent l).getLast? = l.label.getLast? := by
  rw [line_eq, List.getLast?_append, List.getLast?_eq_some_getLast (label_ne_nil hn)]
  rfl

theorem getLast?_label_eq_slash : (l.label.getLast? == some '/') = l.isDirectory := by
  unfold label
  cases l.isDirectory with
  | true => simp
  | false =>
    rw [if_neg Bool.false_ne_true, beq_eq_false_iff_ne]
    exact fun h => hn.noSlash (List.mem_of_getLast? h)

theorem isBlank_head?_label (hl : IsLegible l.name) : ∀ c ∈ l.label.head?, isBlank c = false := by
  have hh : l.label.head? = l.name.head? := by
    obtain ⟨c, s, hs⟩ := List.exists_cons_of_ne_nil hn.ne_nil
    unfold label
    split
    · rw [hs]
      rfl
    · rfl
  exact hh ▸ hl.head

theorem head?_label_ne_space (hl : IsLegible l.name) : ∀ c ∈ l.label.head?, c ≠ ' ' := by
  rintro c hc rfl
  exact absurd (isBlank_head?_label hn hl _ hc) (by decide)

/-- A line gives the node back that it was made of. -/
theorem ofLine_line (hl : IsLegible l.name) : ofLine (line Disk.treeIndent l) = l := by
  have hdrop : (line Disk.treeIndent l).dropWhile (· == ' ') = l.label := by
    rw [line_eq, Text.dropWhile_run (head?_label_ne_space hn hl)]
  have hlevel : ((line Disk.treeIndent l).length - l.label.length) / 2 = l.level := by
    rw [line_eq, List.length_append, List.length_replicate]
    omega
  have hname : (if l.isDirectory then l.label.dropLast else l.label) = l.name := by
    unfold label
    cases l.isDirectory with
    | true => exact List.dropLast_concat
    | false => rfl
  unfold ofLine
  simp only [hdrop, getLast?_label_eq_slash hn, hlevel, hname]

end Line

theorem isBlank_getLast?_label {l : Listed} (hl : IsLegible l.name) :
    ∀ c ∈ l.label.getLast?, isBlank c = false := by
  unfold label
  split
  · rw [List.getLast?_concat]
    rintro c ⟨⟩
    decide
  · exact hl.last

theorem newline_not_mem_line {l : Listed} (hl : IsLegible l.name) :
    '\n' ∉ line Disk.treeIndent l := by
  rw [line_eq, List.mem_append, not_or]
  refine ⟨fun h => absurd (List.eq_of_mem_replicate h) (by decide), ?_⟩
  unfold label
  split
  · rw [List.mem_append, not_or]
    exact ⟨hl.oneLine, by decide⟩
  · exact hl.oneLine

section Text

variable {ls : List Listed} (hn : ∀ l ∈ ls, IsShownName l.name)
  (hl : ∀ l ∈ ls, IsLegible l.name)

include hn

/-- The text of nodes, the first of which is at level 0, begins with the name of that one. -/
theorem head?_unlines {l : Listed} (h : ls.head? = some l) (h0 : l.level = 0) :
    (Text.unlines (ls.map (line Disk.treeIndent))).head? = l.label.head? := by
  obtain ⟨rest, rfl⟩ := List.head?_eq_some_iff.mp h
  have hl : l ∈ l :: rest := List.mem_cons_self ..
  rw [List.map_cons, Text.unlines, Text.head?_join (line_ne_nil (hn l hl)), line_eq, h0]
  rfl

/-- It ends as the last of them does. -/
theorem getLast?_unlines {l : Listed} (h : ls.getLast? = some l) :
    (Text.unlines (ls.map (line Disk.treeIndent))).getLast? = l.label.getLast? := by
  have hl := hn l (List.mem_of_getLast? h)
  have hmap : (ls.map (line Disk.treeIndent)).getLast? = some (line Disk.treeIndent l) := by
    rw [List.getLast?_map, h]
    rfl
  rw [Text.unlines, Text.getLast?_join hmap (line_ne_nil hl), getLast?_line hl]

include hl

/-- Trimming takes nothing from the text of nodes, the first of which is at level 0, so its lines
are those of the nodes. -/
theorem lines_layOut (hne : ls ≠ []) (h0 : ∀ l ∈ ls.head?, l.level = 0) :
    Text.lines (layOut Disk.treeIndent ls) = ls.map (line Disk.treeIndent) := by
  obtain ⟨l, rest, rfl⟩ := List.exists_cons_of_ne_nil hne
  have hmem : l ∈ l :: rest := List.mem_cons_self ..
  have hhead := head?_unlines hn (List.head?_cons ..) (h0 l rfl)
  have hlast := getLast?_unlines hn (List.getLast?_eq_some_getLast hne)
  have htrim : layOut Disk.treeIndent (l :: rest) =
      Text.unlines ((l :: rest).map (line Disk.treeIndent)) :=
    Text.trim_eq_self (hhead ▸ isBlank_head?_label (hn l hmem) (hl l hmem))
      (hlast ▸ isBlank_getLast?_label (hl _ (List.getLast_mem hne)))
  rw [htrim]
  refine Text.splitAt_join (mt List.map_eq_nil_iff.mp hne) fun k hk => ?_
  obtain ⟨m, hm, rfl⟩ := List.mem_map.mp hk
  exact newline_not_mem_line (hl m hm)

/-- The text of listed nodes gives them back, if the first of them is at level 0. -/
theorem ofText_layOut (h0 : ∀ l ∈ ls.head?, l.level = 0) :
    ofText (layOut Disk.treeIndent ls) = ls := by
  by_cases hne : ls = []
  · rw [hne]
    rfl
  · have hlines := lines_layOut hn hl hne h0
    have hempty : (layOut Disk.treeIndent ls).isEmpty = false := by
      rw [Bool.eq_false_iff, ne_eq, List.isEmpty_iff]
      intro hnil
      have hmem : [] ∈ ls.map (line Disk.treeIndent) := by
        rw [← hlines, hnil]
        exact List.mem_singleton_self _
      obtain ⟨l, hl', hline⟩ := List.mem_map.mp hmem
      exact line_ne_nil (hn l hl') hline
    rw [ofText, hempty, if_neg Bool.false_ne_true, hlines, List.map_map]
    calc ls.map (ofLine ∘ line Disk.treeIndent)
      _ = ls.map id := List.map_congr_left fun m hm => ofLine_line (hn m hm) (hl m hm)
      _ = ls := List.map_id ls

end Text

end Listed

/-! ### Nested nodes -/

namespace Node

/-- The nodes that listed nodes make when a walk to the given depth has listed them: those behind
a directory with a higher level are below it. -/
def ofListing : Nat → List Listed → List (Node Text)
  | 0, ls => ls.map fun l => if l.isDirectory then .closed l.name else .file l.name
  | _ + 1, [] => []
  | k + 1, l :: ls =>
    (if l.isDirectory then .opened l.name (ofListing k (ls.takeWhile (l.level < ·.level)))
      else .file l.name) :: ofListing (k + 1) (ls.dropWhile (l.level < ·.level))
termination_by k ls => (k, ls.length)
decreasing_by
  · exact Prod.Lex.left _ _ (Nat.lt_succ_self k)
  · exact Prod.Lex.right _ (Nat.lt_succ_of_le (List.dropWhile_sublist _).length_le)

mutual

theorem level_le_of_mem_listing :
    ∀ (n : Node Text) (level : Nat), ∀ l ∈ listing level n, level ≤ l.level
  | .file name, level => by simp [listing]
  | .closed name, level => by simp [listing]
  | .opened name children, level => by
    rw [listing, List.forall_mem_cons]
    exact ⟨Nat.le_refl level, fun l hl =>
      Nat.le_of_succ_le (level_le_of_mem_listingOfAll children (level + 1) l hl)⟩

/-- No node below nodes at a level has a lower level. -/
theorem level_le_of_mem_listingOfAll :
    ∀ (ns : List (Node Text)) (level : Nat), ∀ l ∈ listingOfAll level ns, level ≤ l.level
  | [], level => nofun
  | n :: ns, level => by
    rw [listingOfAll, List.forall_mem_append]
    exact ⟨level_le_of_mem_listing n level, level_le_of_mem_listingOfAll ns level⟩

end

theorem level_of_head?_listingOfAll {ns : List (Node Text)} {level : Nat} :
    ∀ l ∈ (listingOfAll level ns).head?, l.level = level := by
  cases ns with
  | nil => nofun
  | cons n ns =>
    rw [listingOfAll]
    cases n <;> rintro l ⟨⟩ <;> rfl

theorem mem_listingOfAll {level : Nat} {l : Listed} {ns : List (Node Text)} :
    l ∈ listingOfAll level ns ↔ ∃ n ∈ ns, l ∈ n.listing level := by
  induction ns with
  | nil => simp [listingOfAll]
  | cons n ns ih => simp [listingOfAll, ih]

/-- Among nodes that come one after another, those below the first one end where the second one
begins. -/
theorem ofListing_cons (k level : Nat) (name : Text) (isDirectory : Bool) {inner : List Listed}
    (hi : ∀ l ∈ inner, level < l.level) (ns : List (Node Text)) :
    ofListing (k + 1) (⟨level, name, isDirectory⟩ :: (inner ++ listingOfAll level ns)) =
      (if isDirectory then .opened name (ofListing k inner) else .file name) ::
        ofListing (k + 1) (listingOfAll level ns) := by
  have hi' : ∀ l ∈ inner, decide (level < l.level) = true := fun l hl => decide_eq_true (hi l hl)
  have hns : ∀ l ∈ (listingOfAll level ns).head?, decide (level < l.level) = false := by
    intro l hl
    rw [level_of_head?_listingOfAll l hl]
    exact decide_eq_false (Nat.lt_irrefl level)
  rw [ofListing, Text.takeWhile_append_of_head? hi' hns, Text.dropWhile_append_of_head? hi' hns]

/-- The nodes that the text of a walk to the given depth stands for. -/
def ofText (depth : Int) (s : Text) : List (Node Text) :=
  match depth with
  | .ofNat k => ofListing k (Listed.ofText s)
  | .negSucc _ => []

end Node

namespace Disk

variable (d : Disk)

/-- The nodes of a walk, listed, give the nodes back. -/
theorem ofListing_nodesDown (k level : Nat) (path : Bytes) :
    Node.ofListing k (Node.listingOfAll level (d.nodesDown Entry.name k path)) =
      d.nodesDown Entry.name k path := by
  induction k generalizing level path with
  | zero =>
    rw [nodesDown, Node.ofListing]
    induction d.entries path with
    | nil => rfl
    | cons e es ih =>
      rw [List.map_cons, Node.listingOfAll, List.map_append, ih]
      cases he : e.isDirectory <;> rfl
  | succ k ihk =>
    rw [nodesDown]
    induction d.entries path with
    | nil => rw [List.map_nil, Node.listingOfAll, Node.ofListing]
    | cons e es ih =>
      rw [List.map_cons, Node.listingOfAll]
      generalize (es.map fun e : Entry =>
        if e.isDirectory then Node.opened e.name (d.nodesDown Entry.name k e.path)
        else .file e.name) = ns at ih ⊢
      cases he : e.isDirectory with
      | false =>
        have h := Node.ofListing_cons k level e.name false (List.forall_mem_nil _) ns
        rwa [ih] at h
      | true =>
        have h := Node.ofListing_cons k level e.name true
          (Node.level_le_of_mem_listingOfAll (d.nodesDown Entry.name k e.path) (level + 1)) ns
        rwa [ih, ihk] at h

/-- Entries have names. -/
theorem isShownName_of_mem_entries {path : Bytes} {e : Entry} (h : e ∈ d.entries path) :
    IsShownName e.name := by
  obtain ⟨name, hname, rfl⟩ := mem_entries.mp h
  exact isShownName_shown hname.isName

theorem isShownName_of_mem_listing {k level : Nat} {path : Bytes} :
    ∀ l ∈ Node.listingOfAll level (d.nodesDown Entry.name k path), IsShownName l.name := by
  intro l hl
  induction k generalizing level path with
  | zero =>
    rw [nodesDown, Node.mem_listingOfAll] at hl
    obtain ⟨n, hn, hl⟩ := hl
    obtain ⟨e, he, rfl⟩ := List.mem_map.mp hn
    have hname := d.isShownName_of_mem_entries he
    split at hl <;> exact List.mem_singleton.mp hl ▸ hname
  | succ k ih =>
    rw [nodesDown, Node.mem_listingOfAll] at hl
    obtain ⟨n, hn, hl⟩ := hl
    obtain ⟨e, he, rfl⟩ := List.mem_map.mp hn
    have hname := d.isShownName_of_mem_entries he
    split at hl
    · rcases List.mem_cons.mp hl with rfl | hl
      · exact hname
      · exact ih hl
    · exact List.mem_singleton.mp hl ▸ hname

/-- Whether every name that a walk comes to can be told from the white space around it. -/
def HasLegibleNames (depth : Int) (root : Bytes) : Prop :=
  ∀ l ∈ Node.listingOfAll 0 (d.walkNodes depth root), IsLegible l.name

variable {d} {depth : Int} {root : Bytes}

/-- The text of a walk through legible names gives the nodes of the walk back. -/
theorem ofText_walkText (h : d.HasLegibleNames depth root) :
    Node.ofText depth (d.walkText treeIndent depth root) = d.walkNodes depth root := by
  cases depth with
  | negSucc k => rfl
  | ofNat k =>
    have hlisting : Listed.ofText (d.walkText treeIndent (.ofNat k) root) =
        Node.listingOfAll 0 (d.nodesDown Entry.name k root) := by
      rw [walkText_eq]
      exact Listed.ofText_layOut d.isShownName_of_mem_listing h Node.level_of_head?_listingOfAll
    rw [Node.ofText, hlisting]
    exact d.ofListing_nodesDown k 0 root

/-- Walks through legible names have the same text just when they have the same nodes, on whatever
disks and from whatever roots: the text gives the nodes back. -/
theorem walkText_eq_iff {d' : Disk} {root' : Bytes} (h : d.HasLegibleNames depth root)
    (h' : d'.HasLegibleNames depth root') :
    (d.walkText treeIndent depth root = d'.walkText treeIndent depth root' ↔
        d.walkNodes depth root = d'.walkNodes depth root') ∧
      Node.ofText depth (d.walkText treeIndent depth root) = d.walkNodes depth root := by
  refine ⟨⟨fun ht => ?_, fun hn => ?_⟩, ofText_walkText h⟩
  · rw [← ofText_walkText h, ← ofText_walkText h', ht]
  · rw [walkText_eq, walkText_eq, hn]

/-- A link up to the root and a directory of the same name have the same text and the same nodes,
each where the walk ends. -/
theorem walkText_eq_iff_link_directory :
    let a : Name := ⟨Text.utf8 ['a'], by decide⟩
    let b : Name := ⟨Text.utf8 ['b', ' ', 'c'], by decide⟩
    let d := (empty.put [a] (.directory true true)).put [b, a] (.link [dot, dot])
    let d' := ((empty.put [b] (.directory true true)).put [a, b] (.directory true true)).put
      [b, a, b] (.directory true true)
    let root := Text.utf8 ['/']
    let root' := Text.utf8 ['/', 'b', ' ', 'c']
    d.HasLegibleNames 1 root ∧ d'.HasLegibleNames 1 root' ∧
      d.walkText treeIndent 1 root = d'.walkText treeIndent 1 root' ∧
      d.walkNodes 1 root = d'.walkNodes 1 root' := by
  intro a b d d' root root'
  have hl : Node.listingOfAll 0 (d.walkNodes 1 root) =
      [⟨0, ['a'], true⟩, ⟨1, ['b', ' ', 'c'], true⟩] := by cbv
  have hl' : Node.listingOfAll 0 (d'.walkNodes 1 root') =
      [⟨0, ['a'], true⟩, ⟨1, ['b', ' ', 'c'], true⟩] := by cbv
  have h : d.HasLegibleNames 1 root := by
    rw [HasLegibleNames, hl]
    decide
  have h' : d'.HasLegibleNames 1 root' := by
    rw [HasLegibleNames, hl']
    decide
  have ht : d.walkText treeIndent 1 root = d'.walkText treeIndent 1 root' := by
    rw [walkText_eq, walkText_eq, hl, hl']
  exact ⟨h, h', ht, (walkText_eq_iff h h').1.mp ht⟩

end Disk

end CodeAtlas
