import CodeAtlas.Docstring.Cleaning
import CodeAtlas.Proofs.Text.Cutting
import CodeAtlas.Proofs.Text.Tabs
import Mathlib

/-!
# What cleaning takes off a docstring

The margin is the least indentation, in bytes, of the lines that hold text, so it does not reach
into the text of any line. What a line loses is therefore white space only: just the bytes of the
margin, or all white space in front where the margin ends inside a character (`movesLeft_dedent`).
Dropping the empty lines at the ends loses nothing either. So a cleaned docstring has the text of
the docstring, in order, and nothing else is gone but white space (`clean_keeps_text`).
-/

namespace CodeAtlas.Docstring

open Text (byteSize allBlank trimStart dropBytes?_eq_some_iff dropBytes?_eq_none_iff)

variable {m : Nat} {l : Text} {ls : List Text}

/-! ### The margin -/

theorem margin?_eq_min? (ls : List Text) :
    margin? ls = ((ls.filter fun l => !allBlank l).map indentBytes).min? := by
  induction ls with
  | nil => rfl
  | cons l ls ih =>
    by_cases hl : allBlank l = true
    · rw [margin?, if_pos hl, ih, List.filter_cons_of_neg (by simp [hl])]
    · rw [margin?, if_neg hl, ih, List.filter_cons_of_pos (by simp [hl]), List.map_cons,
        List.min?_cons]
      cases ((ls.filter fun l => !allBlank l).map indentBytes).min? <;> rfl

/-- The margin is no wider than the indentation of a line that holds text. -/
theorem margin?_le (h : margin? ls = some m) (hl : l ∈ ls) (hb : allBlank l ≠ true) :
    m ≤ indentBytes l := by
  rw [margin?_eq_min?] at h
  have hmem : indentBytes l ∈ (ls.filter fun l => !allBlank l).map indentBytes :=
    List.mem_map_of_mem (List.mem_filter.mpr ⟨hl, by simp [hb]⟩)
  exact (List.min?_eq_some_iff.mp h).2 _ hmem

/-- The margin does not reach into the text of a line. -/
theorem allBlank_or_margin?_le (h : margin? ls = some m) (hl : l ∈ ls) :
    allBlank l = true ∨ m ≤ indentBytes l := by
  by_cases hb : allBlank l = true
  · exact .inl hb
  · exact .inr (margin?_le h hl hb)

theorem margin?_ne_none (hl : l ∈ ls) (hb : allBlank l ≠ true) : margin? ls ≠ none := by
  rw [margin?_eq_min?, ne_eq, List.min?_eq_none_iff, List.map_eq_nil_iff, List.filter_eq_nil_iff]
  intro h
  exact h l hl (by simp [hb])

/-! ### One line -/

/-- Whether one text is another one without some white space in front. -/
def LosesBlank (l k : Text) : Prop := ∃ indent, allBlank indent = true ∧ l = indent ++ k

theorem losesBlank_trimStart (l : Text) : LosesBlank l (trimStart l) :=
  ⟨l.takeWhile isBlank, List.all_takeWhile, List.takeWhile_append_dropWhile.symm⟩

/-- How a line loses a margin of so many bytes. -/
inductive MovesLeft (m : Nat) : Text → Text → Prop where
  /-- White space of just so many bytes goes. -/
  | cut {indent l : Text} : allBlank indent = true → byteSize indent = m →
      MovesLeft m (indent ++ l) l
  /-- No beginning of the line has so many bytes, and all white space in front goes. -/
  | whole {l : Text} : (∀ p, p <+: l → byteSize p ≠ m) → MovesLeft m l (trimStart l)

theorem MovesLeft.losesBlank {k : Text} (h : MovesLeft m l k) : LosesBlank l k := by
  cases h with
  | cut hb hm => exact ⟨_, hb, rfl⟩
  | whole h => exact losesBlank_trimStart l

/-- A beginning of a line that is no longer than its indentation is white space. -/
theorem allBlank_of_byteSize_le {p : Text} (hp : p <+: l) (h : byteSize p ≤ indentBytes l) :
    allBlank p = true := by
  have hw : l.takeWhile isBlank <+: l := List.takeWhile_prefix isBlank
  rcases List.prefix_or_prefix_of_prefix hp hw with hpw | hwp
  · have hall : (l.takeWhile isBlank).all isBlank = true := List.all_takeWhile
    rw [allBlank, List.all_eq_true]
    exact fun c hc => List.all_eq_true.mp hall c (hpw.subset hc)
  · -- The indentation is then a beginning of `p` with no fewer bytes, and so is all of `p`.
    obtain ⟨rest, rfl⟩ := hwp
    rw [Text.byteSize_append, indentBytes] at h
    have hrest : rest = [] := Text.byteSize_eq_zero_iff.mp (by omega)
    rw [hrest, List.append_nil]
    exact List.all_takeWhile

/-- A margin that does not reach into the text of a line takes white space only. -/
theorem movesLeft_dedent (h : allBlank l = true ∨ m ≤ indentBytes l) :
    MovesLeft m l (dedent m l) := by
  unfold dedent
  cases hd : Text.dropBytes? m l with
  | none => exact .whole (dropBytes?_eq_none_iff.mp hd)
  | some k =>
    obtain ⟨p, rfl, hp⟩ := dropBytes?_eq_some_iff.mp hd
    refine .cut ?_ hp
    rcases h with hb | hle
    · rw [allBlank, List.all_append, Bool.and_eq_true] at hb
      exact hb.1
    · exact allBlank_of_byteSize_le (List.prefix_append p k) (hp ▸ hle)

theorem indentBytes_eq_length (hone : ∀ c ∈ l.takeWhile isBlank, c.utf8Size = 1) :
    indentBytes l = (l.takeWhile isBlank).length := Text.byteSize_eq_length hone

/-- Where white space has one byte for each character, as many characters as the margin has bytes
have just these bytes. -/
theorem byteSize_take (hone : ∀ c ∈ l.takeWhile isBlank, c.utf8Size = 1)
    (h : m ≤ indentBytes l) : byteSize (l.take m) = m := by
  rw [indentBytes_eq_length hone] at h
  have htake : l.take m = (l.takeWhile isBlank).take m := by
    conv_lhs => rw [← List.takeWhile_append_dropWhile (p := isBlank) (l := l)]
    exact List.take_append_of_le_length h
  rw [htake, Text.byteSize_eq_length fun c hc => hone c (List.mem_of_mem_take hc),
    List.length_take, Nat.min_eq_left h]

/-- There a margin of bytes is a margin of characters. -/
theorem dedent_eq_drop (hone : ∀ c ∈ l.takeWhile isBlank, c.utf8Size = 1)
    (h : allBlank l = true ∨ m ≤ indentBytes l) : dedent m l = l.drop m := by
  by_cases hle : m ≤ indentBytes l
  · have hcut : Text.dropBytes? m l = some (l.drop m) :=
      dropBytes?_eq_some_iff.mpr ⟨_, (List.take_append_drop m l).symm, byteSize_take hone hle⟩
    rw [dedent, hcut, Option.getD_some]
  · -- The line is white space and shorter than the margin, so nothing is left of it.
    have hb : allBlank l = true := h.resolve_right hle
    have hall : l.takeWhile isBlank = l := by
      rw [List.takeWhile_eq_self_iff]
      exact List.all_eq_true.mp hb
    have hlength := indentBytes_eq_length hone
    have hno : Text.dropBytes? m l = none := by
      rw [dropBytes?_eq_none_iff]
      rintro p ⟨k, rfl⟩ hp
      rw [indentBytes, hall, Text.byteSize_append] at hle
      omega
    rw [hall] at hlength
    rw [dedent, hno, Option.getD_none, (Text.trimStart_eq_nil_iff l).mpr hb,
      List.drop_of_length_le (by omega)]

/-! ### All lines -/

theorem forall₂_dedentAll (ls : List Text) : List.Forall₂ LosesBlank ls (dedentAll ls) := by
  cases ls with
  | nil => exact .nil
  | cons first rest =>
    refine .cons (losesBlank_trimStart first) ?_
    cases hm : margin? rest with
    | none => exact List.forall₂_same.mpr fun l _ => ⟨[], rfl, rfl⟩
    | some m =>
      rw [List.forall₂_map_right_iff, List.forall₂_same]
      exact fun l hl => (movesLeft_dedent (allBlank_or_margin?_le hm hl)).losesBlank

/-- The lines are those that stay, with empty ones before and after. -/
theorem exists_dropEmptyEnds (ls : List Text) :
    ∃ before after, ls = before ++ (dropEmptyEnds ls ++ after) ∧ (∀ l ∈ before, l = []) ∧
      ∀ l ∈ after, l = [] := by
  have hempty (ks : List Text) : ∀ l ∈ ks.takeWhile List.isEmpty, l = [] := fun l hl =>
    List.isEmpty_iff.mp (List.mem_takeWhile_imp hl)
  let kept := (ls.reverse.dropWhile List.isEmpty).reverse
  refine ⟨kept.takeWhile List.isEmpty, (ls.reverse.takeWhile List.isEmpty).reverse, ?_,
    hempty kept, fun l hl => hempty _ l (List.mem_reverse.mp hl)⟩
  have hends : kept ++ (ls.reverse.takeWhile List.isEmpty).reverse = ls := by
    rw [← List.reverse_append, List.takeWhile_append_dropWhile, List.reverse_reverse]
  have hkept : kept.takeWhile List.isEmpty ++ dropEmptyEnds ls = kept :=
    List.takeWhile_append_dropWhile
  rw [← List.append_assoc, hkept, hends]

theorem mem_of_mem_dropEmptyEnds (h : l ∈ dropEmptyEnds ls) : l ∈ ls := by
  obtain ⟨before, after, hall, -, -⟩ := exists_dropEmptyEnds ls
  rw [hall]
  exact List.mem_append_right _ (List.mem_append_left _ h)

theorem head?_dropWhile_isEmpty (h : (ls.dropWhile List.isEmpty).head? = some l) : l ≠ [] := by
  have hl := List.head?_dropWhile_not List.isEmpty ls
  rw [h] at hl
  exact List.isEmpty_eq_false_iff.mp hl

theorem head?_dropEmptyEnds (h : (dropEmptyEnds ls).head? = some l) : l ≠ [] :=
  head?_dropWhile_isEmpty h

theorem getLast?_dropEmptyEnds (h : (dropEmptyEnds ls).getLast? = some l) : l ≠ [] := by
  have hkept : ((ls.reverse.dropWhile List.isEmpty).reverse).getLast? = some l := by
    rw [← List.takeWhile_append_dropWhile (p := List.isEmpty)
      (l := (ls.reverse.dropWhile List.isEmpty).reverse), List.getLast?_append]
    rw [dropEmptyEnds] at h
    rw [h, Option.some_or]
  rw [List.getLast?_reverse] at hkept
  exact head?_dropWhile_isEmpty hkept

/-! ### The text of a docstring -/

/-- The characters of a text that are not white space. -/
def ink (s : Text) : Text := s.filter fun c => !isBlank c

theorem ink_append (s t : Text) : ink (s ++ t) = ink s ++ ink t := List.filter_append ..

theorem ink_of_allBlank {s : Text} (h : allBlank s = true) : ink s = [] := by
  rw [allBlank, List.all_eq_true] at h
  exact List.filter_eq_nil_iff.mpr fun c hc => by simp [h c hc]

theorem ink_unlines (ls : List Text) : ink (Text.unlines ls) = ls.flatMap ink := by
  induction ls with
  | nil => rfl
  | cons l ls ih =>
    cases ls with
    | nil => exact (List.append_nil _).symm
    | cons k ls =>
      have hfeed : ink ('\n' :: Text.unlines (k :: ls)) = ink (Text.unlines (k :: ls)) :=
        List.filter_cons_of_neg (by decide)
      rw [Text.unlines_cons_cons, ink_append, hfeed, ih]
      exact List.flatMap_cons.symm

theorem ink_expandFrom (size column : Nat) (s : Text) :
    ink (Text.expandFrom size column s) = ink s :=
  Text.filter_expandFrom (by decide) (by decide)

theorem LosesBlank.ink_eq {k : Text} (h : LosesBlank l k) : ink k = ink l := by
  obtain ⟨indent, hb, rfl⟩ := h
  rw [ink_append, ink_of_allBlank hb, List.nil_append]

theorem flatMap_ink_eq {ks : List Text} (h : List.Forall₂ LosesBlank ls ks) :
    ks.flatMap ink = ls.flatMap ink := by
  induction h with
  | nil => rfl
  | cons hl _ ih => rw [List.flatMap_cons, List.flatMap_cons, hl.ink_eq, ih]

theorem flatMap_ink_of_empty (h : ∀ l ∈ ls, l = []) : ls.flatMap ink = [] :=
  List.flatMap_eq_nil_iff.mpr fun l hl => by rw [h l hl]; rfl

/-! ### The lines of a cleaned docstring -/

/-- The lines of a docstring, with its tabs expanded. -/
def expandedLines (doc : Text) : List Text := Text.lines (Text.expandFrom 8 0 doc)

/-- These lines without their indentation. -/
def cleanedLines (doc : Text) : List Text := dedentAll (expandedLines doc)

theorem clean_eq (doc : Text) : clean doc = Text.unlines (dropEmptyEnds (cleanedLines doc)) := rfl

theorem exists_losesBlank_of_mem {ks : List Text} {k : Text} (h : List.Forall₂ LosesBlank ls ks)
    (hk : k ∈ ks) : ∃ l ∈ ls, LosesBlank l k := by
  induction h with
  | nil => cases hk
  | cons hl _ ih =>
    rcases List.mem_cons.mp hk with rfl | hk
    · exact ⟨_, List.mem_cons_self .., hl⟩
    · obtain ⟨l, hmem, hl⟩ := ih hk
      exact ⟨l, List.mem_cons_of_mem _ hmem, hl⟩

/-- A cleaned line has neither a line feed nor a tab. -/
theorem not_mem_cleanedLines {doc k : Text} (hk : k ∈ cleanedLines doc) : '\n' ∉ k ∧ '\t' ∉ k := by
  obtain ⟨l, hl, indent, -, rfl⟩ := exists_losesBlank_of_mem (forall₂_dedentAll _) hk
  have hfeed := Text.not_mem_of_mem_splitAt hl
  have htab : '\t' ∉ indent ++ k := fun h =>
    Text.tab_not_mem_expandFrom (Text.mem_of_mem_splitAt hl h)
  rw [List.mem_append, not_or] at hfeed htab
  exact ⟨hfeed.2, htab.2⟩

/-- The lines of a cleaned docstring are the cleaned lines, but for empty ones at the ends. -/
theorem lines_clean {doc : Text} (h : dropEmptyEnds (cleanedLines doc) ≠ []) :
    Text.lines (clean doc) = dropEmptyEnds (cleanedLines doc) := by
  have hfeed : ∀ l ∈ dropEmptyEnds (cleanedLines doc), '\n' ∉ l := fun l hl =>
    (not_mem_cleanedLines (mem_of_mem_dropEmptyEnds hl)).1
  exact Text.splitAt_join h hfeed

theorem tab_not_mem_clean (doc : Text) : '\t' ∉ clean doc := by
  intro h
  obtain ⟨l, hl, ht⟩ := Text.exists_mem_of_mem_unlines h (by decide)
  exact (not_mem_cleanedLines (mem_of_mem_dropEmptyEnds hl)).2 ht

theorem ink_clean (doc : Text) : ink (clean doc) = ink doc := by
  obtain ⟨before, after, hall, hbefore, hafter⟩ := exists_dropEmptyEnds (cleanedLines doc)
  calc
    ink (clean doc) = (dropEmptyEnds (cleanedLines doc)).flatMap ink := ink_unlines _
    _ = (cleanedLines doc).flatMap ink := by
      conv_rhs => rw [hall, List.flatMap_append, List.flatMap_append,
        flatMap_ink_of_empty hbefore, flatMap_ink_of_empty hafter, List.append_nil, List.nil_append]
    _ = (expandedLines doc).flatMap ink := flatMap_ink_eq (forall₂_dedentAll _)
    _ = ink (Text.unlines (expandedLines doc)) := (ink_unlines _).symm
    _ = ink (Text.expandFrom 8 0 doc) := congrArg ink (Text.unlines_lines _)
    _ = ink doc := ink_expandFrom 8 0 doc

/-- Cleaning takes white space off the front of each line, and empty lines off the ends. The text
stays, in order; there is no tab; a result that is not empty begins and ends with a line that is
not empty. A line after the first loses just the bytes of the margin if these are whole characters,
and else all white space in front. -/
theorem clean_keeps_text (doc : Text) :
    ∃ expanded before kept after,
      Text.expandTabs doc 8 = .ok expanded ∧
      List.Forall₂ LosesBlank (Text.lines expanded) (dedentAll (Text.lines expanded)) ∧
      dedentAll (Text.lines expanded) = before ++ (kept ++ after) ∧
      (∀ l ∈ before ++ after, l = []) ∧
      clean doc = Text.unlines kept ∧
      ink (clean doc) = ink doc ∧
      '\t' ∉ clean doc ∧
      (clean doc ≠ [] → ∃ first last, (Text.lines (clean doc)).head? = some first ∧
        (Text.lines (clean doc)).getLast? = some last ∧ first ≠ [] ∧ last ≠ []) ∧
      ∀ m ∈ margin? (Text.lines expanded).tail, ∀ l ∈ (Text.lines expanded).tail,
        MovesLeft m l (dedent m l) := by
  obtain ⟨before, after, hall, hbefore, hafter⟩ := exists_dropEmptyEnds (cleanedLines doc)
  refine ⟨Text.expandFrom 8 0 doc, before, dropEmptyEnds (cleanedLines doc), after,
    Text.expandTabs_eq_ok (by decide) doc, forall₂_dedentAll _, hall,
    List.forall_mem_append.mpr ⟨hbefore, hafter⟩, rfl, ink_clean doc, tab_not_mem_clean doc, ?_,
    fun m hm l hl => movesLeft_dedent (allBlank_or_margin?_le hm hl)⟩
  intro hne
  have hkept : dropEmptyEnds (cleanedLines doc) ≠ [] := by
    intro hnil
    rw [clean_eq, hnil] at hne
    exact hne rfl
  rw [lines_clean hkept]
  exact ⟨_, _, List.head?_eq_some_head hkept, List.getLast?_eq_some_getLast hkept,
    head?_dropEmptyEnds (List.head?_eq_some_head hkept),
    getLast?_dropEmptyEnds (List.getLast?_eq_some_getLast hkept)⟩

/-- The margin is the eight bytes of a tab. Of a line indented by nine bytes in three characters all
white space goes, since the margin ends inside the third; so it does of a blank line that is
shorter. -/
theorem clean_keeps_text_wide :
    let doc := "\u3000 \n\tx\n\u2003\u2003\u2003y z\n \u00a0\n".toList
    let expanded := "\u3000 \n        x\n\u2003\u2003\u2003y z\n \u00a0\n".toList
    Text.expandTabs doc 8 = .ok expanded ∧
      margin? (Text.lines expanded).tail = some 8 ∧
      MovesLeft 8 "\u2003\u2003\u2003y z".toList "y z".toList ∧
      clean doc = "x\ny z".toList ∧ clean doc ≠ [] ∧ ink doc = "xyz".toList ∧
      ∃ first last, (Text.lines (clean doc)).head? = some first ∧
        (Text.lines (clean doc)).getLast? = some last ∧ first ≠ [] ∧ last ≠ [] := by
  intro doc expanded
  have hexpand : Text.expandTabs doc 8 = .ok expanded := by decide +kernel
  have hmargin : margin? (Text.lines expanded).tail = some 8 := by decide +kernel
  have hclean : clean doc = "x\ny z".toList := by decide +kernel
  have hne : clean doc ≠ [] := by
    rw [hclean]
    exact List.cons_ne_nil _ _
  obtain ⟨e, before, kept, after, he, -, -, -, -, hink, -, hends, hcut⟩ := clean_keeps_text doc
  obtain rfl : e = expanded := Except.ok.inj (he.symm.trans hexpand)
  have hmoves := hcut 8 hmargin "\u2003\u2003\u2003y z".toList (by decide +kernel)
  have hdedent : dedent 8 "\u2003\u2003\u2003y z".toList = "y z".toList := by decide +kernel
  rw [hdedent] at hmoves
  rw [hclean] at hink
  exact ⟨hexpand, hmargin, hmoves, hclean, hne, hink.symm.trans (by decide +kernel), hends hne⟩

end CodeAtlas.Docstring
