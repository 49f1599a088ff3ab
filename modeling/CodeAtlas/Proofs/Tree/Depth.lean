import CodeAtlas.Proofs.Tree.Decoding

/-!
# Walks to different depths

The nodes of a walk are those of any deeper walk with the directories at its depth closed
(`Disk.cutAll_nodesDown`), and closing directories at a level leaves of the listed nodes those up to
that level (`Node.listingOfAll_cutAll`). So the lines of a walk are those of a deeper one that stand
for nodes no deeper than the walk goes, in their order and with the same indentation
(`Disk.walk_cut_of_le`).
-/

namespace CodeAtlas

/-! ### Closing the directories at a level -/

namespace Node

theorem cutAll_eq_map {α : Type} (level : Nat) (ns : List (Node α)) :
    cutAll level ns = ns.map (cut level) := by
  induction ns with
  | nil => rfl
  | cons n ns ih => rw [cutAll, ih, List.map_cons]

/-- Nodes below a level are all left out of those up to the level. -/
theorem filter_listingOfAll_succ (level : Nat) (ns : List (Node Text)) :
    (listingOfAll (level + 1) ns).filter (·.level ≤ level) = [] := by
  rw [List.filter_eq_nil_iff]
  intro l hl
  have hlevel : level + 1 ≤ l.level := level_le_of_mem_listingOfAll ns (level + 1) l hl
  rw [decide_eq_true_iff]
  omega

mutual

theorem listing_cut :
    ∀ (n : Node Text) (k level : Nat),
      listing level (cut k n) = (listing level n).filter (·.level ≤ level + k)
  | .file name, k, level => by simp [cut, listing]
  | .closed name, k, level => by simp [cut, listing]
  | .opened name children, 0, level => by
    rw [cut, listing, listing, List.filter_cons_of_pos (by simp), Nat.add_zero,
      filter_listingOfAll_succ]
  | .opened name children, k + 1, level => by
    have hlevel : level + 1 + k = level + (k + 1) := by omega
    rw [cut, listing, listing, List.filter_cons_of_pos (by simp), listingOfAll_cutAll children,
      hlevel]

/-- Of the listed nodes those stay that are at most `k` levels deeper than the first. -/
theorem listingOfAll_cutAll :
    ∀ (ns : List (Node Text)) (k level : Nat),
      listingOfAll level (cutAll k ns) = (listingOfAll level ns).filter (·.level ≤ level + k)
  | [], k, level => rfl
  | n :: ns, k, level => by
    rw [cutAll, listingOfAll, listingOfAll, List.filter_append, listing_cut n,
      listingOfAll_cutAll ns]

end

end Node

namespace Disk

variable (d : Disk)

/-! ### Walks -/

section Cut

variable {α : Type} (naming : Entry → α)

/-- A walk closes the directories at its depth, where a deeper one says what they hold. -/
theorem cutAll_nodesDown {k m : Nat} (h : k ≤ m) (path : Bytes) :
    Node.cutAll k (d.nodesDown naming m path) = d.nodesDown naming k path := by
  rw [Node.cutAll_eq_map]
  induction k generalizing m path with
  | zero =>
    cases m with
    | zero =>
      rw [nodesDown, List.map_map]
      refine List.map_congr_left fun e _ => ?_
      cases he : e.isDirectory <;> simp [he, Node.cut]
    | succ m =>
      rw [nodesDown, nodesDown, List.map_map]
      refine List.map_congr_left fun e _ => ?_
      cases he : e.isDirectory <;> simp [he, Node.cut]
  | succ k ih =>
    obtain ⟨m, rfl⟩ : ∃ n, m = n + 1 := ⟨m - 1, by omega⟩
    rw [nodesDown, nodesDown, List.map_map]
    refine List.map_congr_left fun e _ => ?_
    have hbelow : Node.cutAll k (d.nodesDown naming m e.path) = d.nodesDown naming k e.path := by
      rw [Node.cutAll_eq_map]
      exact ih (Nat.le_of_succ_le_succ h) e.path
    cases he : e.isDirectory <;> simp [he, Node.cut, hbelow]

end Cut

variable {depth depth' : Int}

theorem walkNodes_of_le (h : depth ≤ depth') (root : Bytes) :
    d.walkNodes depth root =
      if depth < 0 then [] else Node.cutAll depth.toNat (d.walkNodes depth' root) := by
  by_cases hneg : depth < 0
  · obtain ⟨k, rfl⟩ := Int.eq_negSucc_of_lt_zero hneg
    rw [if_pos hneg, walkNodes, nodesAs]
  · obtain ⟨k, rfl⟩ := Int.eq_ofNat_of_zero_le (Int.not_lt.mp hneg)
    obtain ⟨m, rfl⟩ := Int.eq_ofNat_of_zero_le (Int.le_trans (Int.natCast_nonneg k) h)
    rw [if_neg hneg, Int.toNat_natCast]
    exact (d.cutAll_nodesDown Entry.name (Int.ofNat_le.mp h) root).symm

/-- The nodes that a walk lists are those of a deeper one up to its depth. -/
theorem listing_walkNodes_of_le (h : depth ≤ depth') (root : Bytes) :
    Node.listingOfAll 0 (d.walkNodes depth root) =
      (Node.listingOfAll 0 (d.walkNodes depth' root)).filter fun l => (l.level : Int) ≤ depth := by
  rw [d.walkNodes_of_le h]
  by_cases hneg : depth < 0
  · rw [if_pos hneg, eq_comm]
    refine List.filter_eq_nil_iff.mpr fun l _ => ?_
    rw [decide_eq_true_iff]
    omega
  · rw [if_neg hneg, Node.listingOfAll_cutAll]
    refine List.filter_congr fun l _ => decide_eq_decide.mpr ?_
    omega

/-- A walk is any deeper walk cut off: its nodes are those of the deeper one with the directories at
its depth closed, and its lines are the lines of the deeper one for nodes no deeper than that. So a
greater depth takes no line away and changes none; a negative one gives nothing. -/
theorem walk_cut_of_le (h : depth ≤ depth') (indent : Text) (root : Bytes) :
    d.walkNodes depth root =
        (if depth < 0 then [] else Node.cutAll depth.toNat (d.walkNodes depth' root)) ∧
      d.walkLines indent depth' root =
        (Node.listingOfAll 0 (d.walkNodes depth' root)).map (Listed.line indent) ∧
      d.walkLines indent depth root =
        ((Node.listingOfAll 0 (d.walkNodes depth' root)).filter fun l =>
          (l.level : Int) ≤ depth).map (Listed.line indent) ∧
      (d.walkLines indent depth root).Sublist (d.walkLines indent depth' root) := by
  have hdeep := d.walkLines_eq indent depth' root
  have hlines := d.walkLines_eq indent depth root
  rw [d.listing_walkNodes_of_le h] at hlines
  refine ⟨d.walkNodes_of_le h root, hdeep, hlines, ?_⟩
  rw [hlines, hdeep]
  exact List.filter_sublist.map _

/-- A link leads back up, so the walk goes on as deep as it is let. To depth 1 it ends at the link;
to depth 3 it comes to the directory and the link once more. -/
theorem walk_cut_of_le_cycle :
    let a : Name := ⟨Text.utf8 ['a'], by decide⟩
    let b : Name := ⟨Text.utf8 ['b'], by decide⟩
    let d := (empty.put [a] (.directory true true)).put [b, a] (.link [dot, dot])
    (1 : Int) ≤ 3 ∧
      d.walkLines treeIndent 3 [slash] =
        ["a/".toList, "  b/".toList, "    a/".toList, "      b/".toList] ∧
      d.walkNodes 1 [slash] = Node.cutAll 1 (d.walkNodes 3 [slash]) ∧
      d.walkLines treeIndent 1 [slash] = ["a/".toList, "  b/".toList] := by
  intro a b d
  have hle : (1 : Int) ≤ 3 := by decide
  obtain ⟨hnodes, hdeep, hlines, -⟩ := d.walk_cut_of_le hle treeIndent [slash]
  have hlisted : Node.listingOfAll 0 (d.walkNodes 3 [slash]) =
      [⟨0, ['a'], true⟩, ⟨1, ['b'], true⟩, ⟨2, ['a'], true⟩, ⟨3, ['b'], true⟩] := by cbv
  rw [hlisted] at hdeep hlines
  exact ⟨hle, hdeep.trans (by decide), hnodes, hlines.trans (by decide)⟩

end Disk

end CodeAtlas
