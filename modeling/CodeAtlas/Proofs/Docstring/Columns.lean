import CodeAtlas.Proofs.Docstring.Cleaning

/-!
# Cleaning by columns

`Columns.clean` cleans a docstring as Python's `inspect.cleandoc` does: everything is counted in
characters, and white space is what Python takes for it. Where the white space of a docstring has
one byte for each character, and both agree on what white space is, cleaning by bytes is the same
(`clean_eq_columns_clean`).
-/

namespace CodeAtlas.Docstring

open Text (allBlank trimStart)

namespace Columns

/-- Whether Python takes a character for white space: beside the white space of Unicode these are
the four information separators. -/
def isSpace (c : Char) : Bool := isBlank c || (0x1C ≤ c.toNat && c.toNat ≤ 0x1F)

/-- A docstring with the tabs of each line expanded to stops of eight columns. -/
def expand (doc : Text) : Text :=
  Text.unlines ((Text.lines doc).map fun l => Text.fillUp 8 (Text.splitAt '\t' l))

/-- How many characters of white space a line begins with. -/
def indent (l : Text) : Nat := (l.takeWhile isSpace).length

/-- The least indentation of the lines that are not all white space. -/
def margin? (ls : List Text) : Option Nat :=
  ((ls.filter fun l => !l.all isSpace).map indent).min?

/-- The first line without the white space in front, and the others without the margin. -/
def dedentAll : List Text → List Text
  | [] => []
  | first :: rest =>
    first.dropWhile isSpace ::
      match margin? rest with
      | some m => rest.map (List.drop m)
      | none => rest

/-- A docstring cleaned of its indentation: empty lines are dropped at the end, then at the
start. -/
def clean (doc : Text) : Text :=
  Text.unlines (((dedentAll (Text.lines (expand doc))).rdropWhile List.isEmpty).dropWhile
    List.isEmpty)

end Columns

/-! ### Expansion -/

theorem expand_eq_expandFrom (doc : Text) : Columns.expand doc = Text.expandFrom 8 0 doc := by
  have hlines : ((Text.lines doc).map fun l => Text.fillUp 8 (Text.splitAt '\t' l)) =
      (Text.lines doc).map (Text.expandFrom 8 0) := by
    refine List.map_congr_left fun l hl => ?_
    exact (Text.expandFrom_eq_fillUp (by decide) (Text.not_mem_of_mem_splitAt hl)).symm
  rw [Columns.expand, hlines, ← Text.expandFrom_unlines, Text.unlines_lines]

/-! ### Lines with white space of single bytes -/

/-- Whether the white space of a text is the same for Python, and has one byte for each
character. -/
def IsPlain (s : Text) : Prop :=
  ∀ c ∈ s, Columns.isSpace c = isBlank c ∧ (isBlank c = true → c.utf8Size = 1)

namespace IsPlain

variable {l : Text} {ls : List Text}

theorem takeWhile_isSpace (h : IsPlain l) :
    l.takeWhile Columns.isSpace = l.takeWhile isBlank := by
  induction l with
  | nil => rfl
  | cons c l ih =>
    obtain ⟨hc, hl⟩ := List.forall_mem_cons.mp h
    rw [List.takeWhile_cons, List.takeWhile_cons, hc.1, ih hl]

theorem dropWhile_isSpace (h : IsPlain l) : l.dropWhile Columns.isSpace = trimStart l := by
  have hspace := List.takeWhile_append_dropWhile (p := Columns.isSpace) (l := l)
  have hblank := List.takeWhile_append_dropWhile (p := isBlank) (l := l)
  rw [h.takeWhile_isSpace] at hspace
  exact List.append_cancel_left (hspace.trans hblank.symm)

theorem all_isSpace (h : IsPlain l) : l.all Columns.isSpace = allBlank l := by
  rw [allBlank, Bool.eq_iff_iff, List.all_eq_true, List.all_eq_true]
  exact forall₂_congr fun c hc => by rw [(h c hc).1]

theorem utf8Size_eq_one (h : IsPlain l) : ∀ c ∈ l.takeWhile isBlank, c.utf8Size = 1 := by
  intro c hc
  have hb : isBlank c = true := List.mem_takeWhile_imp hc
  exact (h c ((List.takeWhile_prefix _).subset hc)).2 hb

theorem indent_eq (h : IsPlain l) : Columns.indent l = indentBytes l := by
  rw [Columns.indent, h.takeWhile_isSpace, indentBytes_eq_length h.utf8Size_eq_one]

theorem margin?_eq (h : ∀ l ∈ ls, IsPlain l) : Columns.margin? ls = margin? ls := by
  have hfilter : (ls.filter fun l => !l.all Columns.isSpace) = ls.filter fun l => !allBlank l :=
    List.filter_congr fun l hl => by rw [(h l hl).all_isSpace]
  have hmap : (ls.filter fun l => !allBlank l).map Columns.indent =
      (ls.filter fun l => !allBlank l).map indentBytes :=
    List.map_congr_left fun l hl => (h l (List.mem_of_mem_filter hl)).indent_eq
  rw [Columns.margin?, hfilter, hmap, margin?_eq_min?]

theorem dedentAll_eq (h : ∀ l ∈ ls, IsPlain l) : Columns.dedentAll ls = dedentAll ls := by
  cases ls with
  | nil => rfl
  | cons first rest =>
    obtain ⟨hfirst, hrest⟩ := List.forall_mem_cons.mp h
    rw [Columns.dedentAll, dedentAll, hfirst.dropWhile_isSpace, margin?_eq hrest]
    cases hm : margin? rest with
    | none => rfl
    | some m =>
      have hdrop : rest.map (List.drop m) = rest.map (dedent m) := by
        refine List.map_congr_left fun l hl => ?_
        exact (dedent_eq_drop (hrest l hl).utf8Size_eq_one (allBlank_or_margin?_le hm hl)).symm
      exact congrArg (trimStart first :: ·) hdrop

end IsPlain

/-- A docstring without other white space than spaces, tabs, line feeds, vertical tabs and form
feeds is cleaned by bytes as it is cleaned by columns. -/
theorem clean_eq_columns_clean {doc : Text}
    (hblank : ∀ c ∈ doc, isBlank c = true → c ∈ [' ', '\t', '\n', '\x0b', '\x0c'])
    (hseparator : ∀ c ∈ doc, ¬ (0x1C ≤ c.toNat ∧ c.toNat ≤ 0x1F)) :
    clean doc = Columns.clean doc := by
  have hsize : ∀ c ∈ [' ', '\t', '\n', '\x0b', '\x0c'], c.utf8Size = 1 := by
    simp [Char.utf8Size]
  have hplain : ∀ l ∈ Text.lines (Text.expandFrom 8 0 doc), IsPlain l := by
    intro l hl c hc
    rcases Text.mem_of_mem_expandFrom (Text.mem_of_mem_splitAt hl hc) with rfl | hdoc
    · exact ⟨by decide, fun _ => by decide⟩
    · refine ⟨?_, fun hb => hsize c (hblank c hdoc hb)⟩
      have hno := hseparator c hdoc
      simp only [Columns.isSpace, Bool.or_eq_left_iff_imp, Bool.and_eq_true, decide_eq_true_eq]
      exact fun h => absurd h hno
  rw [Columns.clean, expand_eq_expandFrom, IsPlain.dedentAll_eq hplain]
  rfl

/-- Tabs, a form feed, a blank line that is longer than the margin, one that is shorter, and text
that has more bytes than characters. -/
theorem clean_eq_columns_clean_mixed :
    let doc := "\tΣ\ta\n  \tβ b\n\n\t\t \n \x0c\n\t\x0cé\n   ".toList
    (∀ c ∈ doc, isBlank c = true → c ∈ [' ', '\t', '\n', '\x0b', '\x0c']) ∧
      (∀ c ∈ doc, ¬ (0x1C ≤ c.toNat ∧ c.toNat ≤ 0x1F)) ∧
      clean doc = Columns.clean doc ∧
      Columns.clean doc = "Σ       a\nβ b\n\n         \n\n\x0cé".toList := by
  intro doc
  -- A quantifier over the docstring would be decided on all characters, hence `List.all`.
  have hall : (doc.all fun c => decide ((isBlank c = true → c ∈ [' ', '\t', '\n', '\x0b', '\x0c']) ∧
      ¬ (0x1C ≤ c.toNat ∧ c.toNat ≤ 0x1F))) = true := by decide +kernel
  simp only [List.all_eq_true, decide_eq_true_eq] at hall
  have hblank : ∀ c ∈ doc, isBlank c = true → c ∈ [' ', '\t', '\n', '\x0b', '\x0c'] :=
    fun c hc => (hall c hc).1
  have hseparator : ∀ c ∈ doc, ¬ (0x1C ≤ c.toNat ∧ c.toNat ≤ 0x1F) := fun c hc => (hall c hc).2
  exact ⟨hblank, hseparator, clean_eq_columns_clean hblank hseparator, by decide +kernel⟩

end CodeAtlas.Docstring
