import CodeAtlas.Proofs.Python.Lexing
import CodeAtlas.Proofs.Script.Basic
import CodeAtlas.Proofs.Text.LineEnds

/-!
# Reading a printed script

The tokens of each line of a script, and that the scan of the printed script finds them: one
logical line for each line, with its indentation and its number (`rows_print`).
-/

namespace CodeAtlas.Python

open Docstring (toNat_of_isAlphanum isControl_of_isAlphanum)
open Text (normalizeNewlines_eq_self)

/-! ### The tokens of a line -/

/-- The tokens of the further parts of a dotted name. -/
def partToks (ns : List PlainName) : List Tok := ns.flatMap fun n => [.mark .dot, .name n.text]

@[simp] theorem partToks_nil : partToks [] = [] := rfl

@[simp] theorem partToks_cons (n : PlainName) (ns : List PlainName) :
    partToks (n :: ns) = .mark .dot :: .name n.text :: partToks ns := rfl

/-- The tokens of a dotted name. -/
def DottedName.toks (d : DottedName) : List Tok := .name d.first.text :: partToks d.others

/-- The tokens of an alias that may be missing. -/
def aliasToks : Option PlainName → List Tok
  | none => []
  | some a => [.keyword .asK, .name a.text]

/-- The tokens of an imported name. -/
def Imported.toks (i : Imported) : List Tok := i.name.toks ++ aliasToks i.alias?

/-- The tokens of imported names. -/
def importedToks (names : Series Imported) : List Tok :=
  names.first.toks ++ names.others.flatMap fun i => .mark .comma :: i.toks

/-- The tokens of an origin. -/
def Origin.toks : Origin → List Tok
  | module dots name => dotToks dots ++ name.toks
  | package more => dotToks (more + 1)

/-- The first token of an import. -/
def ImportForm.first : ImportForm → Tok
  | names _ => .keyword .importK
  | _ => .keyword .fromK

/-- The other tokens of an import. -/
def ImportForm.others : ImportForm → List Tok
  | names ns => importedToks ns
  | namesFrom o ns => o.toks ++ .keyword .importK :: importedToks ns
  | allFrom o => o.toks ++ [.keyword .importK, .mark .star]
  | future ns => .name Import.future :: .keyword .importK :: importedToks ns

/-- The tokens of the line that begins a definition, after the first. -/
def Definer.others (name : PlainName) : Definer → List Tok
  | funcD false => [.name name.text, .mark .roundOpen, .mark .roundClose, .mark .colon]
  | funcD true =>
    [.keyword .defK, .name name.text, .mark .roundOpen, .mark .roundClose, .mark .colon]
  | classD => [.name name.text, .mark .colon]

namespace Line

/-- The first token of a line. -/
def first : Line → Tok
  | importing f => f.first
  | decorator _ => .mark .at
  | header (.funcD false) _ => .keyword .defK
  | header (.funcD true) _ => .soft .asyncK
  | header .classD _ => .keyword .classK
  | condition => .keyword .ifK
  | docstring s => .string (Docstring.quote s)
  | pass => .keyword .passK

/-- The other tokens of a line. -/
def others : Line → List Tok
  | importing f => f.others
  | decorator n => [.name n.text]
  | header d n => d.others n
  | condition => [.keyword .trueK, .mark .colon]
  | docstring _ => []
  | pass => []

/-- The logical line that a line makes. -/
def row (l : Line) (indent line : Nat) : Row :=
  ⟨indent, l.first.at line, l.others.map (Tok.at line), line⟩

end Line

/-- The logical lines that lines make, the first of which has the given number. -/
def rowsFrom (line : Nat) : List (Nat × Line) → List Row
  | [] => []
  | (indent, l) :: ls => l.row indent line :: rowsFrom (line + 1) ls

/-! ### Names -/

namespace PlainName

theorem exists_cons (n : PlainName) :
    ∃ c s, n.text = c :: s ∧ (c.isAlpha = true ∨ c = '_') ∧
      (∀ d ∈ s, d.isAlphanum = true ∨ d = '_') ∧ n.text ∉ reserved := by
  obtain ⟨text, h⟩ := n
  cases text with
  | nil => exact absurd h (by decide)
  | cons c s =>
    simp only [isPlainName, Bool.and_eq_true, Bool.or_eq_true, List.all_eq_true, beq_iff_eq,
      Bool.not_eq_true', List.contains_eq_mem, decide_eq_false_iff_not] at h
    exact ⟨c, s, rfl, h.1.1, h.1.2, h.2⟩

theorem isWord (n : PlainName) : IsWord n.text := by
  obtain ⟨c, s, hn, hc, hs, -⟩ := n.exists_cons
  rw [hn]
  refine ⟨?_, List.all_eq_true.mpr fun d hd => ?_⟩
  · rcases hc with hc | rfl
    · have hlt := toNat_of_isAlphanum (c := c) (by simp [Char.isAlphanum, hc])
      rw [Identifier.isStart, if_pos (by omega), hc, Bool.true_or]
    · decide
  · rcases hs d hd with hd | rfl
    · have hlt := toNat_of_isAlphanum hd
      rw [Identifier.isContinue, if_pos (by omega), hd, Bool.true_or]
    · decide

/-- A plain name is read as a name. -/
theorem ofWord (n : PlainName) : Tok.ofWord n.text = .name n.text := by
  obtain ⟨_, _, _, _, _, hr⟩ := n.exists_cons
  have hk : Keyword.all.find? (fun k => k.spelling.toList = n.text) = none := by
    rw [List.find?_eq_none]
    intro k hk h
    refine hr (List.mem_cons_of_mem _ (List.mem_append_left _ ?_))
    exact List.mem_map.mpr ⟨k, hk, by simpa using h⟩
  have hs : SoftKeyword.all.find? (fun k => k.spelling.toList = n.text) = none := by
    rw [List.find?_eq_none]
    intro k hk h
    refine hr (List.mem_cons_of_mem _ (List.mem_append_right _ ?_))
    exact List.mem_map.mpr ⟨k, hk, by simpa using h⟩
  simp [Tok.ofWord, hk, hs]

theorem reads (n : PlainName) : Reads n.text [.name n.text] := n.ofWord ▸ reads_word n.isWord

end PlainName

theorem isDigit_of_isAlpha {c : Char} (h : c.isAlpha = true) : c.isDigit = false := by
  refine Bool.eq_false_iff.mpr fun hd => ?_
  simp only [Char.isAlpha, Char.isUpper, Char.isLower, Char.isDigit, ge_iff_le, Bool.or_eq_true,
    Bool.and_eq_true, decide_eq_true_eq, UInt32.le_iff_toNat_le] at h hd
  rcases h with h | h <;> simp at h hd <;> omega

/-- A plain name begins with a character that continues neither a number nor a mark. -/
theorem PlainName.exists_head (n : PlainName) :
    ∃ c s, n.text = c :: s ∧ c.isDigit = false ∧ c ≠ '.' ∧ c ≠ '=' := by
  obtain ⟨c, s, hn, hc, -, -⟩ := n.exists_cons
  refine ⟨c, s, hn, ?_⟩
  rcases hc with hc | rfl
  · refine ⟨isDigit_of_isAlpha hc, ?_, ?_⟩ <;> rintro rfl <;> exact absurd hc (by decide)
  · decide

/-! ### Keywords -/

theorem Keyword.isWord (k : Keyword) : IsWord k.spelling.toList := by
  cases k <;> exact ⟨by decide, by decide⟩

theorem Keyword.ofWord (k : Keyword) : Tok.ofWord k.spelling.toList = .keyword k := by
  cases k <;> rfl

theorem reads_keyword (k : Keyword) : Reads k.spelling.toList [.keyword k] :=
  k.ofWord ▸ reads_word k.isWord

theorem reads_async : Reads "async".toList [.soft .asyncK] :=
  reads_word (s := "async".toList) ⟨by decide, by decide⟩

theorem reads_future : Reads Import.future [.name Import.future] :=
  reads_word (s := Import.future) ⟨by decide, by decide⟩

/-! ### Imports -/

theorem join_cons (sep a : Text) (as : List Text) :
    Text.join sep (a :: as) = a ++ as.flatMap (sep ++ ·) := by
  induction as generalizing a with
  | nil => simp [Text.join]
  | cons b bs ih => simp only [Text.join, ih, List.flatMap_cons, List.append_assoc]

/-- Texts that are read as tokens, with a separator between them that is read as a mark. -/
theorem reads_join {α : Type} {f : α → Text} {g : α → List Tok} {c : Char} {sep : Text}
    {m : Mark} (hc : isBoundary c = true) (hf : ∀ a, Reads (f a) (g a))
    (hm : ∀ a s ts, Reads (f a ++ s) ts → Reads (c :: sep ++ (f a ++ s)) (.mark m :: ts))
    (a : α) (as : List α) :
    Reads (Text.join (c :: sep) (f a :: as.map f)) (g a ++ as.flatMap fun b => .mark m :: g b) := by
  induction as generalizing a with
  | nil => simpa [Text.join] using hf a
  | cons b bs ih =>
    have hb := ih b
    rw [join_cons] at hb
    have h := (hf a).append hc (hm b _ _ hb)
    rw [← List.cons_append, ← join_cons] at h
    rw [List.map_cons, Text.join, List.append_assoc]
    simpa using h

theorem DottedName.reads (d : DottedName) : Reads d.text d.toks := by
  have hdot : ∀ (n : PlainName) s ts, Reads (n.text ++ s) ts →
      Reads (['.'] ++ (n.text ++ s)) (.mark .dot :: ts) := by
    intro n s ts h
    obtain ⟨c, t, hn, hc, hdot, -⟩ := n.exists_head
    rw [hn, List.cons_append] at h ⊢
    exact reads_dot hc hdot h.inside
  exact reads_join (by decide) PlainName.reads hdot d.first d.others

theorem DottedName.exists_head (d : DottedName) :
    ∃ c s, d.text = c :: s ∧ c.isDigit = false ∧ c ≠ '.' := by
  obtain ⟨c, s, hn, hc, hdot, -⟩ := d.first.exists_head
  have ht : d.text = c :: (s ++ (d.others.map PlainName.text).flatMap (['.'] ++ ·)) := by
    rw [DottedName.text, Series.toList, List.map_cons, join_cons, hn, List.cons_append]
  exact ⟨c, _, ht, hc, hdot⟩

theorem Imported.reads (i : Imported) : Reads i.text i.toks := by
  obtain ⟨name, alias?⟩ := i
  cases alias? with
  | none => simpa [Imported.text, Imported.toks, aliasToks] using name.reads
  | some a =>
    have ht : Imported.text ⟨name, some a⟩ =
        name.text ++ ' ' :: (Keyword.asK.spelling.toList ++ ' ' :: a.text) := rfl
    rw [ht]
    exact name.reads.space ((reads_keyword .asK).space a.reads)

theorem importedText_reads (names : Series Imported) :
    Reads (importedText names) (importedToks names) :=
  reads_join (by decide) Imported.reads (fun _ _ _ h => reads_comma.space h) names.first
    names.others

/-- An origin before a space and more. -/
theorem Origin.reads (o : Origin) {s : Text} {ts : List Tok} (h : Reads s ts) :
    ReadsInside (o.text ++ ' ' :: s) (o.toks ++ ts) := by
  cases o with
  | module dots name =>
    obtain ⟨c, t, hn, hc, hdot⟩ := name.exists_head
    have hname := (name.reads.space h).inside
    rw [hn, List.cons_append] at hname
    have hdots := reads_dots hc hdot hname dots
    simpa [Origin.text, Origin.toks, hn] using hdots
  | package more => exact reads_dots rfl (by decide) h.inside_space (more + 1)

theorem ImportForm.reads (f : ImportForm) : Reads f.text (f.first :: f.others) := by
  have himport (ns : Series Imported) := (reads_keyword .importK).space (importedText_reads ns)
  cases f with
  | names ns =>
    have ht : (names ns).text = Keyword.importK.spelling.toList ++ ' ' :: importedText ns := rfl
    rw [ht]
    exact himport ns
  | namesFrom o ns =>
    have ht : (namesFrom o ns).text = Keyword.fromK.spelling.toList ++ ' ' ::
        (o.text ++ ' ' :: (Keyword.importK.spelling.toList ++ ' ' :: importedText ns)) := rfl
    rw [ht]
    exact (reads_keyword .fromK).space_inside (o.reads (himport ns))
  | allFrom o =>
    have ht : (allFrom o).text = Keyword.fromK.spelling.toList ++ ' ' ::
        (o.text ++ ' ' :: (Keyword.importK.spelling.toList ++ ' ' :: ['*'])) := rfl
    rw [ht]
    exact (reads_keyword .fromK).space_inside (o.reads ((reads_keyword .importK).space reads_star))
  | future ns =>
    have ht : (future ns).text = Keyword.fromK.spelling.toList ++ ' ' ::
        (Import.future ++ ' ' :: (Keyword.importK.spelling.toList ++ ' ' :: importedText ns)) := rfl
    rw [ht]
    exact (reads_keyword .fromK).space (reads_future.space (himport ns))

/-! ### Lines -/

theorem Definer.reads (d : Definer) (n : PlainName) :
    Reads (d.text n) ((Line.header d n).first :: d.others n) := by
  have hf := n.reads.append (by decide) reads_brackets
  cases d with
  | funcD isAsync =>
    cases isAsync with
    | false =>
      have ht : (funcD false).text n =
          Keyword.defK.spelling.toList ++ ' ' :: (n.text ++ ['(', ')', ':']) := rfl
      rw [ht]
      exact (reads_keyword .defK).space hf
    | true =>
      have ht : (funcD true).text n = "async".toList ++ ' ' ::
          (Keyword.defK.spelling.toList ++ ' ' :: (n.text ++ ['(', ')', ':'])) := rfl
      rw [ht]
      exact reads_async.space ((reads_keyword .defK).space hf)
  | classD =>
    have ht : classD.text n = Keyword.classK.spelling.toList ++ ' ' :: (n.text ++ [':']) := rfl
    rw [ht]
    exact (reads_keyword .classK).space (n.reads.append (by decide) reads_colon)

theorem reads_condition :
    Reads Line.condition.text [.keyword .ifK, .keyword .trueK, .mark .colon] := by
  have ht : Line.condition.text =
      Keyword.ifK.spelling.toList ++ ' ' :: (Keyword.trueK.spelling.toList ++ [':']) := rfl
  rw [ht]
  exact (reads_keyword .ifK).space ((reads_keyword .trueK).append (by decide) reads_colon)

/-! ### Docstrings -/

/-- A character that stands for itself between double quotes. -/
def isInert (c : Char) : Prop := c ≠ '\\' ∧ c ≠ '"' ∧ c ≠ '\n'

theorem bodySize_inert {e : Text} (he : ∀ c ∈ e, isInert c) (t : Text) :
    Front.bodySize '"' false (e ++ t) = (Front.bodySize '"' false t).map (· + e.length) := by
  induction e with
  | nil => simp
  | cons c e ih =>
    obtain ⟨h₁, h₂, h₃⟩ := he c (List.mem_cons_self ..)
    have ih := ih fun d hd => he d (List.mem_cons_of_mem c hd)
    rw [List.cons_append, Front.bodySize.eq_def]
    simp [h₁, h₂, h₃, ih, Option.map_map, Function.comp_def, Nat.add_assoc]

theorem bodySize_backslash (d : Char) (t : Text) :
    Front.bodySize '"' false ('\\' :: d :: t) = (Front.bodySize '"' false t).map (· + 2) := by
  rw [Front.bodySize, if_pos rfl]

theorem isInert_of_isControl {c : Char} (h₁ : c ≠ '\\') (h₂ : c ≠ '"')
    (h : Docstring.isControl c = false) : isInert c := by
  refine ⟨h₁, h₂, ?_⟩
  rintro rfl
  exact absurd h (by decide)

theorem isInert_of_isAlphanum {c : Char} (h : c.isAlphanum = true) : isInert c := by
  refine ⟨?_, ?_, ?_⟩ <;> rintro rfl <;> exact absurd h (by decide)

/-- The body of the literal for a text ends at the quote after it. -/
theorem bodySize_spellAll (s rest : Text) :
    Front.bodySize '"' false (Docstring.spellAll s ++ '"' :: rest) =
      some (Docstring.spellAll s).length := by
  induction s with
  | nil =>
    rw [Docstring.spellAll, List.flatMap_nil, List.nil_append, Front.bodySize.eq_def]
    rfl
  | cons c s ih =>
    rw [Docstring.spellAll, List.flatMap_cons, ← Docstring.spellAll, List.append_assoc]
    rcases Docstring.spell_cases c with ⟨h, h₁, h₂, h₃⟩ | ⟨d, e, h, he, -, -⟩
    · rw [h, bodySize_inert (by simpa using isInert_of_isControl h₁ h₂ h₃), ih]
      simp [Nat.add_comm]
    · rw [h, List.cons_append, List.cons_append, bodySize_backslash,
        bodySize_inert fun x hx => isInert_of_isAlphanum (he x hx), ih]
      simp
      omega

theorem startsTriple_quote (s : Text) {d : Char} (hd : isBoundary d = true) (rest : Text) :
    Front.startsTriple '"' (Docstring.quote s ++ d :: rest) = false := by
  have hne : ('"' == d) = false := beq_false_of_ne (by rintro rfl; exact absurd hd (by decide))
  have hs := Docstring.spellAll_head s
  cases h : Docstring.spellAll s with
  | nil => simp [Front.startsTriple, Docstring.quote, h, List.isPrefixOf, hne]
  | cons e t =>
    have he : ('"' == e) = false := beq_false_of_ne (by simpa [h, eq_comm] using hs)
    simp [Front.startsTriple, Docstring.quote, h, List.isPrefixOf, he]

theorem readString_quote (s : Text) {d : Char} (hd : isBoundary d = true) (rest : Text) :
    Front.readString (Docstring.quote s ++ d :: rest) [] '"' =
      .token (.string (Docstring.quote s)) (Docstring.spellAll s ++ ['"']).length .keep := by
  have hb := bodySize_spellAll s (d :: rest)
  have hl : (Docstring.quote s).length = 1 + (Docstring.spellAll s).length + 1 := by
    simp [Docstring.quote, Nat.add_comm]
  have ht : (Docstring.quote s ++ d :: rest).take (1 + (Docstring.spellAll s).length + 1) =
      Docstring.quote s := by rw [← hl, List.take_left]
  have hdrop : (Docstring.quote s ++ d :: rest).drop 1 =
      Docstring.spellAll s ++ '"' :: d :: rest := by simp [Docstring.quote]
  simp only [Front.readString, List.any_nil, List.length_nil, Nat.zero_add, List.drop_zero,
    startsTriple_quote s hd, Bool.false_eq_true, if_false, hdrop, hb, ht]
  simp [Nat.add_comm]

theorem isControl_of_mem_quote {s : Text} :
    ∀ c ∈ Docstring.quote s, Docstring.isControl c = false := by
  intro c hc
  simp only [Docstring.quote, List.mem_cons, List.mem_append, List.not_mem_nil, or_false] at hc
  rcases hc with rfl | hc | rfl
  · decide
  · exact Docstring.isControl_of_mem_spellAll c hc
  · decide

theorem reads_quote (s : Text) : Reads (Docstring.quote s) [.string (Docstring.quote s)] := by
  refine Reads.single (fun hn => ?_) (fun hr => ?_) fun d rest hd => ?_
  · exact absurd (isControl_of_mem_quote '\n' hn) (by decide)
  · exact absurd (isControl_of_mem_quote '\r' hr) (by decide)
  · exact readString_quote s hd rest

/-! ### Whole lines -/

theorem Line.reads (l : Line) : Reads l.text (l.first :: l.others) := by
  cases l with
  | importing f => exact f.reads
  | decorator n =>
    obtain ⟨c, s, hn, -, -, hc⟩ := n.exists_head
    have h := n.reads.inside
    rw [hn] at h
    have ht : (decorator n).text = '@' :: c :: s := congrArg (List.cons '@') hn
    rw [ht]
    exact hn ▸ reads_at hc h
  | header d n => exact d.reads n
  | condition => exact reads_condition
  | docstring s => exact reads_quote s
  | pass => exact reads_keyword .passK

/-- A line is read as one logical line. -/
theorem scan_printLine (line indent : Nat) (l : Line) (rest : Text) :
    scan line (.margin 0) [] [] (printLine (indent, l) ++ rest) =
      ⟨[], line, l.row indent line :: (scan (line + 1) (.margin 0) [] [] rest).rows,
        (scan (line + 1) (.margin 0) [] [] rest).nests⟩ := by
  have hl := l.reads.scan_eq line (.margin indent) '\n' rest rfl
  have hp : printLine (indent, l) ++ rest =
      List.replicate indent ' ' ++ (l.text ++ '\n' :: rest) := by simp [printLine]
  rw [hp, scan_indent, Nat.zero_add, hl, scan_newline]
  simp [Reading.consAll, Reading.cons, Reading.newline, Line.row]

theorem scan_print (line : Nat) (ls : List (Nat × Line)) :
    (scan line (.margin 0) [] [] (ls.flatMap printLine)).rows = rowsFrom line ls ∧
      (scan line (.margin 0) [] [] (ls.flatMap printLine)).nests = [] := by
  induction ls generalizing line with
  | nil => rw [List.flatMap_nil, scan]; exact ⟨rfl, rfl⟩
  | cons l ls ih =>
    obtain ⟨indent, l⟩ := l
    obtain ⟨hr, hu⟩ := ih (line + 1)
    rw [List.flatMap_cons, scan_printLine, hr, hu]
    exact ⟨rfl, rfl⟩

/-! ### Whole scripts -/

theorem noReturn_print (ls : List (Nat × Line)) : '\r' ∉ ls.flatMap printLine := by
  intro h
  obtain ⟨⟨indent, l⟩, -, hl⟩ := List.mem_flatMap.mp h
  simp only [printLine, List.mem_append, List.mem_replicate, List.mem_singleton] at hl
  rcases hl with ⟨-, h⟩ | h | h
  · exact absurd h (by decide)
  · exact l.reads.noReturn h
  · exact absurd h (by decide)

/-- A line does not begin with a byte order mark. -/
theorem Line.exists_head (l : Line) : ∃ c s, l.text = c :: s ∧ c ≠ '\ufeff' := by
  cases l with
  | importing f =>
    cases f with
    | names => exact ⟨'i', _, rfl, by decide⟩
    | namesFrom => exact ⟨'f', _, rfl, by decide⟩
    | allFrom => exact ⟨'f', _, rfl, by decide⟩
    | future => exact ⟨'f', _, rfl, by decide⟩
  | decorator => exact ⟨'@', _, rfl, by decide⟩
  | header d =>
    rcases d with (_ | _) | _
    · exact ⟨'d', _, rfl, by decide⟩
    · exact ⟨'a', _, rfl, by decide⟩
    · exact ⟨'c', _, rfl, by decide⟩
  | condition => exact ⟨'i', _, rfl, by decide⟩
  | docstring => exact ⟨'"', _, rfl, by decide⟩
  | pass => exact ⟨'p', _, rfl, by decide⟩

theorem dropMark_print (ls : List (Nat × Line)) :
    dropMark (ls.flatMap printLine) = ls.flatMap printLine := by
  cases ls with
  | nil => rfl
  | cons l ls =>
    obtain ⟨indent, l⟩ := l
    obtain ⟨c, s, hl, hc⟩ := l.exists_head
    cases indent with
    | zero =>
      rw [List.flatMap_cons, printLine, hl]
      exact dropMark_eq_self fun h => hc (Option.some.inj h)
    | succ n => exact dropMark_eq_self fun h => absurd (Option.some.inj h) (by decide)

namespace Script

/-- The line ends of a printed script are those that `print` writes. -/
theorem normalizeNewlines_print (s : Script) : Text.normalizeNewlines s.print = s.print :=
  normalizeNewlines_eq_self (noReturn_print s.lines)

/-- The logical lines of a printed script are its lines. -/
theorem rows_print (s : Script) : (Scanned.ofText s.print).rows = rowsFrom 1 s.lines := by
  rw [Scanned.ofText, print, dropMark_print]
  exact (scan_print 1 s.lines).1

end Script

end CodeAtlas.Python
