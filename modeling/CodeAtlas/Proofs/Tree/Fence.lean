import CodeAtlas.Proofs.Heading.Extraction
import CodeAtlas.Proofs.Tree.Decoding

/-!
# Trees in a fenced block

A Markdown document with a heading and a fenced block is read line by line, and the block ends at
the first line that closes it (`FencedBlock.ofDocument?`). A tree shown in Markdown is such a
document (`FencedBlock.ofDocument?_renderMarkdown`), and its block is the whole tree just when no
line of the tree closes a block. Where the names in the tree can be told from the white space around
them, the lines that do are those of files at most one directory down that are named by three
backticks or more (`Listed.closesFence_line_iff`).
-/

namespace CodeAtlas

/-! ### Lines that close a block -/

/-- Whether a line closes a fenced block: at most three spaces, then three backticks or more, and
then nothing but spaces and tabs. -/
def ClosesFence (l : Text) : Prop :=
  ∃ i n padding, i ≤ 3 ∧ 3 ≤ n ∧ (∀ c ∈ padding, c = ' ' ∨ c = '\t') ∧
    l = List.replicate i ' ' ++ (List.replicate n '\x60' ++ padding)

theorem head?_backticks_ne {n : Nat} (hn : 3 ≤ n) (s : Text) :
    ∀ c ∈ (List.replicate n '\x60' ++ s).head?, c ≠ ' ' := by
  obtain ⟨n, rfl⟩ : ∃ m, n = m + 1 := ⟨n - 1, by omega⟩
  rintro c ⟨⟩
  decide

/-- The parts of a line that closes a block are found from front to back. -/
theorem closesFence_iff {l : Text} :
    ClosesFence l ↔ (l.takeWhile (· == ' ')).length ≤ 3 ∧
      3 ≤ ((l.dropWhile (· == ' ')).takeWhile (· == '\x60')).length ∧
      ∀ c ∈ (l.dropWhile (· == ' ')).dropWhile (· == '\x60'), c = ' ' ∨ c = '\t' := by
  constructor
  · rintro ⟨i, n, padding, hi, hn, hpadding, rfl⟩
    have hspaces := head?_backticks_ne hn padding
    have hbackticks : ∀ c ∈ padding.head?, c ≠ '\x60' := by
      intro c hc
      rcases hpadding c (List.mem_of_head? hc) with rfl | rfl <;> decide
    rw [Text.takeWhile_run hspaces, Text.dropWhile_run hspaces, Text.takeWhile_run hbackticks,
      Text.dropWhile_run hbackticks, List.length_replicate, List.length_replicate]
    exact ⟨hi, hn, hpadding⟩
  · rintro ⟨hi, hn, hpadding⟩
    refine ⟨_, _, _, hi, hn, hpadding, ?_⟩
    rw [Text.run_append_dropWhile, Text.run_append_dropWhile]

instance : DecidablePred ClosesFence := fun _ => decidable_of_iff _ closesFence_iff.symm

/-- Whether a block goes on past a line. -/
def staysOpen (l : Text) : Bool := ¬ ClosesFence l

theorem staysOpen_iff {l : Text} : staysOpen l = true ↔ ¬ ClosesFence l := decide_eq_true_iff

/-! ### Documents with a fenced block -/

/-- The line that opens a block. -/
def fence : Text := "```".toList

/-- A fence also closes a block. -/
theorem staysOpen_fence : staysOpen fence = false := by
  have hcloses : ClosesFence fence := ⟨0, 3, [], by decide, by decide, nofun, by decide⟩
  rw [Bool.eq_false_iff, ne_eq, staysOpen_iff, not_not]
  exact hcloses

/-- A fenced block under a heading. -/
structure FencedBlock where
  /-- The heading. -/
  heading : Heading
  /-- The lines of the block. -/
  content : List Text
  /-- The lines behind the one that closes the block. -/
  after : List Text
  deriving DecidableEq

namespace FencedBlock

/-- The block of a document that begins with a heading, a blank line and a fence, if a line closes
it. Line feeds end the lines. -/
def ofDocument? (s : Text) : Option FencedBlock :=
  match Text.lines s with
  | first :: blank :: opening :: ls =>
    match Heading.ofLine? 1 first, ls.dropWhile staysOpen with
    | some heading, _ :: after =>
      if (∀ c ∈ blank, c = ' ' ∨ c = '\t') ∧ opening = fence then
        some ⟨heading, ls.takeWhile staysOpen, after⟩
      else none
    | _, _ => none
  | _ => none

/-- Whether a text is what the block holds, and nothing comes behind the block. -/
def HoldsJust (b : FencedBlock) (s : Text) : Prop := Text.unlines b.content = s ∧ b.after = []

/-- The heading over the tree of a root. -/
def treeHeading (root : Text) : Heading :=
  ⟨2, Text.trim ("Directory Tree: ".toList ++ root), 1⟩

theorem ofLine?_treeHeading (root : Text) :
    Heading.ofLine? 1 ("## Directory Tree: ".toList ++ root) = some (treeHeading root) := by
  have hline : "## Directory Tree: ".toList =
      List.replicate 2 '#' ++ ' ' :: "Directory Tree: ".toList := by decide +kernel
  have hmem : 'D' ∈ (treeHeading root).text := by
    rw [treeHeading, Text.mem_trim (by decide)]
    exact List.mem_append_left _ (by decide +kernel)
  have hheld : Heading.HeldBy ("## Directory Tree: ".toList ++ root) (treeHeading root) := by
    refine ⟨Nat.succ_pos 1, List.ne_nil_of_mem hmem, ' ' :: ("Directory Tree: ".toList ++ root), ?_,
      ⟨' ', rfl, by decide⟩, ?_⟩
    · rw [hline, List.append_assoc]
      rfl
    · exact congrArg Text.trimEnd (Text.trimStart_append_of_allBlank (s := [' ']) (by decide))
  exact hheld.ofLine?_eq

section Rendered

variable {root : Text} (hroot : '\n' ∉ root) (tree : Text)

include hroot

theorem lines_renderMarkdown :
    Text.lines (renderMarkdown root tree) =
      ("## Directory Tree: ".toList ++ root) :: [] :: fence :: (Text.lines tree ++ [fence]) := by
  have hfirst : '\n' ∉ "## Directory Tree: ".toList ++ root := by
    rw [List.mem_append, not_or]
    exact ⟨by decide +kernel, hroot⟩
  have hfence : '\n' ∉ fence := by decide +kernel
  have hopen : "\n\n```\n".toList = '\n' :: '\n' :: (fence ++ ['\n']) := by decide +kernel
  have hclose : "\n```".toList = '\n' :: fence := by decide +kernel
  have hdocument : renderMarkdown root tree =
      ("## Directory Tree: ".toList ++ root) ++
        '\n' :: ([] ++ '\n' :: (fence ++ '\n' :: (tree ++ '\n' :: fence))) := by
    unfold renderMarkdown
    -- rewriting would compare the three literals character by character
    generalize "## Directory Tree: ".toList = title
    rw [hopen, hclose]
    simp only [List.append_assoc, List.cons_append, List.nil_append]
  rw [hdocument, Text.lines, Text.splitAt_append_cons, Text.splitAt_append_cons,
    Text.splitAt_append_cons, Text.splitAt_append_cons, Text.splitAt_eq_singleton hfirst,
    Text.splitAt_eq_singleton hfence]
  rfl

/-- The block of a tree is as much of the tree as stands before the first line that closes it; all
that stands behind that line, up to the fence at the end, comes after the block. -/
theorem ofDocument?_renderMarkdown :
    ofDocument? (renderMarkdown root tree) =
      some ⟨treeHeading root, (Text.lines tree).takeWhile staysOpen,
        ((Text.lines tree).dropWhile staysOpen ++ [fence]).tail⟩ := by
  simp only [ofDocument?, lines_renderMarkdown hroot, ofLine?_treeHeading,
    Text.takeWhile_concat staysOpen_fence, Text.dropWhile_concat staysOpen_fence]
  cases (Text.lines tree).dropWhile staysOpen with
  | nil => simp
  | cons k rest => simp

variable {tree}

/-- The block of a tree is the whole tree just when no line of the tree closes it. -/
theorem holdsJust_iff {b : FencedBlock} (hb : ofDocument? (renderMarkdown root tree) = some b) :
    b.HoldsJust tree ↔ ∀ l ∈ Text.lines tree, ¬ ClosesFence l := by
  rw [ofDocument?_renderMarkdown hroot] at hb
  obtain rfl := Option.some.inj hb
  simp only [← staysOpen_iff]
  constructor
  · rintro ⟨-, hafter⟩
    rw [← List.dropWhile_eq_nil_iff]
    cases hrest : (Text.lines tree).dropWhile staysOpen with
    | nil => rfl
    | cons k rest =>
      rw [hrest] at hafter
      exact absurd hafter (List.append_ne_nil_of_right_ne_nil rest (List.cons_ne_nil _ _))
  · intro hopen
    refine ⟨?_, ?_⟩
    · rw [List.takeWhile_eq_self_iff.mpr hopen, Text.unlines_lines]
    · rw [List.dropWhile_eq_nil_iff.mpr hopen]
      rfl

end Rendered

end FencedBlock

/-! ### Listed nodes -/

namespace Listed

/-- Whether a listed node is a file named by three backticks or more, and at most one directory
down: two directories down there are four spaces before it. -/
def IsFence (l : Listed) : Prop :=
  l.isDirectory = false ∧ l.level ≤ 1 ∧ 3 ≤ l.name.length ∧ ∀ c ∈ l.name, c = '\x60'
  deriving Decidable

/-- The slash behind the name of a directory, and a name that ends in anything but backticks, keep a
line from closing a block. -/
theorem eq_name_of_label_eq {l : Listed} (hl : IsLegible l.name) {n : Nat} {padding : Text}
    (hpadding : ∀ c ∈ padding, c = ' ' ∨ c = '\t')
    (h : l.label = List.replicate n '\x60' ++ padding) :
    l.isDirectory = false ∧ l.name = List.replicate n '\x60' := by
  have hfile : l.isDirectory = false := by
    rw [Bool.eq_false_iff]
    intro hdir
    have hslash : '/' ∈ l.label := by
      rw [label, if_pos hdir]
      exact List.mem_append_right _ (List.mem_singleton_self _)
    rw [h, List.mem_append] at hslash
    rcases hslash with hslash | hslash
    · exact absurd (List.eq_of_mem_replicate hslash) (by decide)
    · rcases hpadding _ hslash with hc | hc <;> exact absurd hc (by decide)
  rw [label, hfile, if_neg Bool.false_ne_true] at h
  have hnone : padding = [] := by
    rw [← List.getLast?_eq_none_iff, Option.eq_none_iff_forall_ne_some]
    intro c hc
    have hb := hl.last c (by rw [h, List.getLast?_append, hc]; rfl)
    rcases hpadding c (List.mem_of_getLast? hc) with rfl | rfl <;> exact absurd hb (by decide)
  exact ⟨hfile, by rw [h, hnone, List.append_nil]⟩

theorem closesFence_line_iff {l : Listed} (hn : IsShownName l.name) (hl : IsLegible l.name) :
    ClosesFence (line Disk.treeIndent l) ↔ l.IsFence := by
  rw [line_eq]
  constructor
  · rintro ⟨i, n, padding, hi, hn', hpadding, he⟩
    obtain ⟨hlevel, hlabel⟩ := Text.run_append_inj (head?_label_ne_space hn hl)
      (head?_backticks_ne hn' padding) he
    obtain ⟨hfile, hname⟩ := eq_name_of_label_eq hl hpadding hlabel
    rw [IsFence, hname, List.length_replicate]
    exact ⟨hfile, by omega, hn', fun c hc => List.eq_of_mem_replicate hc⟩
  · rintro ⟨hfile, hlevel, hlong, hname⟩
    refine ⟨l.level * 2, l.name.length, [], by omega, hlong, nofun, ?_⟩
    rw [label, hfile, if_neg Bool.false_ne_true, ← List.eq_replicate_of_mem hname, List.append_nil]

end Listed

namespace Disk

variable {d : Disk} {depth : Int}

theorem isShownName_of_mem_walkNodes {root : Bytes} :
    ∀ l ∈ Node.listingOfAll 0 (d.walkNodes depth root), IsShownName l.name := by
  cases depth with
  | ofNat k => exact d.isShownName_of_mem_listing
  | negSucc k => exact List.forall_mem_nil _

/-- Through legible names, no line of a tree closes a block just when no file of the tree is named
like a fence where that counts. -/
theorem closesFence_walkText_iff {root : Bytes} (h : d.HasLegibleNames depth root) :
    (∀ l ∈ Text.lines (d.walkText treeIndent depth root), ¬ ClosesFence l) ↔
      ∀ l ∈ Node.listingOfAll 0 (d.walkNodes depth root), ¬ l.IsFence := by
  rw [walkText_eq]
  by_cases hne : Node.listingOfAll 0 (d.walkNodes depth root) = []
  · have hempty : ¬ ClosesFence [] := by decide
    rw [hne]
    exact ⟨fun _ => List.forall_mem_nil _, fun _ l hl => List.mem_singleton.mp hl ▸ hempty⟩
  · rw [Listed.lines_layOut isShownName_of_mem_walkNodes h hne Node.level_of_head?_listingOfAll,
      List.forall_mem_map]
    refine forall₂_congr fun l hl => not_congr ?_
    exact Listed.closesFence_line_iff (isShownName_of_mem_walkNodes l hl) (h l hl)

/-- A tree in Markdown reads as a heading with the root and one closed block, which goes as far as
the first line of the tree that closes it. So the block is the tree as text, with nothing behind it,
just when no line of the tree closes a block; and where the names can be told from the white space
around them, when there is no file at most one directory down that is named by three backticks or
more. -/
theorem dirTree_markdown_block {root : Text} (haccepted : d.rejection? root = none)
    (hroot : '\n' ∉ root) (depth : Int) :
    ∃ tree document block, d.dirTree root depth .text = .str tree ∧
      d.dirTree root depth .markdown = .str document ∧
      FencedBlock.ofDocument? document = some block ∧
      block.heading = FencedBlock.treeHeading root ∧
      block.content = (Text.lines tree).takeWhile staysOpen ∧
      (block.HoldsJust tree ↔ ∀ l ∈ Text.lines tree, ¬ ClosesFence l) ∧
      (d.HasLegibleNames depth root.utf8 →
        (block.HoldsJust tree ↔
          ∀ l ∈ Node.listingOfAll 0 (d.walkNodes depth root.utf8), ¬ l.IsFence)) := by
  have hblock :=
    FencedBlock.ofDocument?_renderMarkdown hroot (d.walkText treeIndent depth root.utf8)
  have hholds := FencedBlock.holdsJust_iff hroot hblock
  refine ⟨_, _, _, by simp only [dirTree, haccepted], by simp only [dirTree, haccepted], hblock,
    rfl, rfl, hholds, fun hlegible => ?_⟩
  rw [hholds, closesFence_walkText_iff hlegible]

/-- Two backticks, a directory with three and a file with three that is two directories down close
no block. -/
theorem dirTree_markdown_block_backticks :
    let two : Name := ⟨Text.utf8 ['\x60', '\x60'], by decide⟩
    let three : Name := ⟨Text.utf8 ['\x60', '\x60', '\x60'], by decide⟩
    let d := (((empty.put [three] (.directory true true)).put
      [two, three] (.directory true true)).put [three, two, three]
      (.file true ByteArray.empty)).put [two] (.file true ByteArray.empty)
    let root : Text := ['/']
    let tree := "``\n```/\n  ``/\n    ```".toList
    d.rejection? root = none ∧ '\n' ∉ root ∧ d.HasLegibleNames 2 root.utf8 ∧
      d.dirTree root 2 .text = .str tree ∧
      ∃ document block, d.dirTree root 2 .markdown = .str document ∧
        FencedBlock.ofDocument? document = some block ∧ block.HoldsJust tree := by
  intro two three d root tree
  have haccepted : d.rejection? root = none := by cbv
  have hroot : '\n' ∉ root := by decide
  have hlisted : Node.listingOfAll 0 (d.walkNodes 2 root.utf8) =
      [⟨0, ['\x60', '\x60'], false⟩, ⟨0, ['\x60', '\x60', '\x60'], true⟩,
        ⟨1, ['\x60', '\x60'], true⟩, ⟨2, ['\x60', '\x60', '\x60'], false⟩] := by cbv
  have hlegible : d.HasLegibleNames 2 root.utf8 := by
    rw [HasLegibleNames, hlisted]
    decide
  have htree : d.dirTree root 2 .text = .str tree := by cbv
  obtain ⟨tree', document, block, htext, hdocument, hblock, -, -, -, hholds⟩ :=
    dirTree_markdown_block haccepted hroot 2
  obtain rfl : tree' = tree := Json.str.inj (htext.symm.trans htree)
  refine ⟨haccepted, hroot, hlegible, htree, document, block, hdocument, hblock,
    (hholds hlegible).mpr ?_⟩
  rw [hlisted]
  decide

/-- A file named by three backticks closes the block before anything is in it. -/
theorem dirTree_markdown_block_closed_early :
    let d := empty.put [⟨Text.utf8 ['\x60', '\x60', '\x60'], by decide⟩]
      (.file true ByteArray.empty)
    let root : Text := ['/']
    d.rejection? root = none ∧ '\n' ∉ root ∧ d.dirTree root 0 .text = .str fence ∧
      ∃ document block, d.dirTree root 0 .markdown = .str document ∧
        FencedBlock.ofDocument? document = some block ∧
        block.content = [] ∧ block.after = [fence] ∧ ¬ block.HoldsJust fence := by
  intro d root
  have haccepted : d.rejection? root = none := by cbv
  have hroot : '\n' ∉ root := by decide
  have htree : d.walkText treeIndent 0 root.utf8 = fence := by cbv
  have hlines : Text.lines fence = [fence] := by decide
  have hcloses : ¬ staysOpen fence = true := Bool.eq_false_iff.mp staysOpen_fence
  have hblock := FencedBlock.ofDocument?_renderMarkdown hroot fence
  rw [hlines, List.takeWhile_cons_of_neg hcloses, List.dropWhile_cons_of_neg hcloses] at hblock
  exact ⟨haccepted, hroot, by simp only [dirTree, haccepted, htree], _, _,
    by simp only [dirTree, haccepted, htree], hblock, rfl, rfl, fun h => List.cons_ne_nil _ _ h.2⟩

end Disk

end CodeAtlas
