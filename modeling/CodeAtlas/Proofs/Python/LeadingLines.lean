import CodeAtlas.Proofs.Python.Lexing
import CodeAtlas.Proofs.Python.MovedStatements
import CodeAtlas.Proofs.Text.LineEnds
import CodeAtlas.Proofs.Text.Splitting
import CodeAtlas.Python.Recovery

/-!
# Empty lines and comments in front of a program

A line that is empty or holds just a comment makes no logical line (`scan_commentLine`), so lines
of this kind in front of a program only move the program down: the outline stays, with the
docstring, and every line in it grows by the number of the lines in front, as does the line of a
statement that a program may not contain. A text with a syntax error keeps it, but where the first
error is then is for the parser to say, and it may be in the lines in front
(`Outline.ofText_commentLines`).
-/

namespace CodeAtlas.Python

open Text (normalizeNewlines_append)

variable {k : Nat}

/-! ### Lines in front -/

/-- Whether a line is empty or holds just a comment. -/
inductive IsCommentLine : Text → Prop where
  /-- It is empty. -/
  | empty : IsCommentLine []
  /-- It holds a comment. -/
  | comment {s : Text} : (∀ c ∈ s, c ≠ '\n' ∧ c ≠ '\r' ∧ c ≠ '\x00') → IsCommentLine ('#' :: s)

namespace IsCommentLine

variable {l : Text}

theorem newline_not_mem (h : IsCommentLine l) : '\n' ∉ l := by
  cases h with
  | empty => exact List.not_mem_nil
  | comment hs =>
    rw [List.mem_cons, not_or]
    exact ⟨by decide, fun hm => (hs _ hm).1 rfl⟩

theorem return_not_mem (h : IsCommentLine l) : '\r' ∉ l := by
  cases h with
  | empty => exact List.not_mem_nil
  | comment hs =>
    rw [List.mem_cons, not_or]
    exact ⟨by decide, fun hm => (hs _ hm).2.1 rfl⟩

end IsCommentLine

/-- Lines, each ended by a line feed. -/
def ended (ls : List Text) : Text := ls.flatMap (· ++ ['\n'])

theorem ended_cons_append (l : Text) (ls : List Text) (s : Text) :
    ended (l :: ls) ++ s = l ++ '\n' :: (ended ls ++ s) := by
  simp [ended]

section Lines

variable {ls : List Text} (hls : ∀ l ∈ ls, IsCommentLine l)

include hls

theorem return_not_mem_ended : '\r' ∉ ended ls := by
  rw [ended, List.mem_flatMap]
  rintro ⟨l, hl, hr⟩
  rcases List.mem_append.mp hr with hr | hr
  · exact (hls l hl).return_not_mem hr
  · exact absurd hr (by decide)

theorem feeds_ended : feeds (ended ls) = ls.length := by
  induction ls with
  | nil => rfl
  | cons l ls ih =>
    obtain ⟨hl, hls⟩ := List.forall_mem_cons.mp hls
    have hcount : l.count '\n' = 0 := List.count_eq_zero.mpr hl.newline_not_mem
    have ih := ih hls
    rw [feeds] at ih
    simp [feeds, ended, hcount] at ih ⊢
    omega

end Lines

/-! ### Scanning -/

/-- A comment is skipped up to the end of its line. -/
theorem Front.read_comment {t : Text} (ht : '\n' ∉ t) (s : Text) :
    Front.read [] '#' (t ++ '\n' :: s) = .skip t.length (some ('#' :: t)) := by
  have htake : (t ++ '\n' :: s).takeWhile (· != '\n') = t :=
    Text.takeWhile_append_of_head? (fun c hc => bne_iff_ne.mpr fun hn => ht (hn ▸ hc)) (by simp)
  have hread : Front.read [] '#' (t ++ '\n' :: s) =
      .skip ((t ++ '\n' :: s).takeWhile (· != '\n')).length
        (some ('#' :: (t ++ '\n' :: s).takeWhile (· != '\n'))) := rfl
  rw [hread, htake]

/-- A line that is empty or holds a comment makes no logical line. -/
theorem scan_commentLine {l : Text} (h : IsCommentLine l) (line : Nat) (s : Text) :
    scan line (.margin 0) [] [] (l ++ '\n' :: s) =
      (scan (line + 1) (.margin 0) [] [] s).newline line := by
  cases h with
  | empty => exact scan_newline line (.margin 0) [] s
  | @comment t hs =>
    have hline : '\n' ∉ '#' :: t := (IsCommentLine.comment hs).newline_not_mem
    have hread := Front.read_comment (fun ht => hline (List.mem_cons_of_mem _ ht)) s
    have hfeeds : feeds ('#' :: t) = 0 := List.count_eq_zero.mpr hline
    have hmargin : (Place.margin 0).skip '#' = .margin 0 := rfl
    rw [List.cons_append, scan_skip hread, List.take_left, List.drop_left, hfeeds, hmargin]
    exact scan_newline line (.margin 0) _ s

/-- Lines in front of a text move its logical lines down. -/
theorem rows_scan_ended {ls : List Text} (hls : ∀ l ∈ ls, IsCommentLine l) (line : Nat) (s : Text) :
    (scan line (.margin 0) [] [] (ended ls ++ s)).rows =
      (scan (line + ls.length) (.margin 0) [] [] s).rows := by
  induction ls generalizing line with
  | nil => rfl
  | cons l ls ih =>
    obtain ⟨hl, hls⟩ := List.forall_mem_cons.mp hls
    have hline : line + (l :: ls).length = line + 1 + ls.length := by
      rw [List.length_cons]
      omega
    rw [ended_cons_append, scan_commentLine hl, hline]
    exact ih hls (line + 1)

theorem head?_ended_append {ls : List Text} (hls : ∀ l ∈ ls, IsCommentLine l) {s : Text}
    (h : s.head? ≠ some '\ufeff') : (ended ls ++ s).head? ≠ some '\ufeff' := by
  cases ls with
  | nil => exact h
  | cons l ls =>
    rw [ended_cons_append]
    cases hls l (List.mem_cons_self ..) with
    | empty | comment => exact fun hc => absurd (Option.some.inj hc) (by decide)

/-- The logical lines of a program with lines in front are those of the program, moved down. -/
theorem Scanned.rows_ofText_ended {ls : List Text} (hls : ∀ l ∈ ls, IsCommentLine l) {s : Text}
    (h : s.head? ≠ some '\ufeff') :
    (ofText (ended ls ++ s)).rows = (ofText s).rows.map (Row.moveDown ls.length) := by
  have hscan := rows_scan_ended hls 1 s
  have hmoved := scan_moveDown (k := ls.length) 1 (.margin 0) [] [] s
  rw [List.map_nil] at hmoved
  rw [hmoved] at hscan
  simp only [ofText, dropMark_eq_self h, dropMark_eq_self (head?_ended_append hls h)]
  exact hscan

/-- Where the program is not empty, its last line moves down, too. -/
theorem lastLine_ended {ls : List Text} (hls : ∀ l ∈ ls, IsCommentLine l) {s : Text}
    (h : s ≠ []) : lastLine (ended ls ++ s) = lastLine s + ls.length := by
  have hfeeds : feeds (ended ls ++ s) = feeds s + ls.length := by
    rw [feeds, List.count_append, ← feeds, ← feeds, feeds_ended hls, Nat.add_comm]
  rw [lastLine, lastLine, List.getLast?_append_of_ne_nil _ h, hfeeds]
  split <;> omega

/-! ### Programs -/

namespace Suite

theorem parse_of_rows_eq_nil {s : Text} (h : (Scanned.ofText s).rows = []) :
    parse s = .ok .nil := by
  simp only [parse, h, Layout.ofRows, ofLayout]
  rfl

/-- A program with lines in front is the same program, moved down. Where reading stops, it does so
as many lines further down. -/
theorem parse_ended {ls : List Text} (hls : ∀ l ∈ ls, IsCommentLine l) {s : Text}
    (h : s.head? ≠ some '\ufeff') :
    parse (ended ls ++ s) = answerDown ls.length (moveDown ls.length) (parse s) := by
  have hrows := Scanned.rows_ofText_ended hls h
  by_cases hs : s = []
  · subst hs
    have hnil : (Scanned.ofText []).rows = [] := by simp [Scanned.ofText, dropMark, scan]
    rw [hnil] at hrows
    rw [parse_of_rows_eq_nil hrows, parse_of_rows_eq_nil hnil]
    rfl
  · have hlast : (Scanned.ofText (ended ls ++ s)).last = (Scanned.ofText s).last + ls.length :=
      lastLine_ended hls hs
    simp only [parse, hrows, hlast, Layout.ofRows_moveDown, ofLayout_moveDown]

end Suite

/-! ### Outlines -/

/-- An imported name some lines further down. -/
def ImportEntry.moveDown (k : Nat) (i : ImportEntry) : ImportEntry := { i with line := i.line + k }

/-- A function some lines further down. -/
def FunctionEntry.moveDown (k : Nat) (f : FunctionEntry) : FunctionEntry :=
  { f with line := f.line + k }

/-- A class some lines further down, with its methods. -/
def ClassEntry.moveDown (k : Nat) (c : ClassEntry) : ClassEntry :=
  { c with line := c.line + k, methods := c.methods.map (FunctionEntry.moveDown k) }

/-- An outline some lines further down: every line in it is greater by as many. -/
def Outline.moveDown (k : Nat) (o : Outline) : Outline where
  docstring := o.docstring
  imports := o.imports.map (ImportEntry.moveDown k)
  classes := o.classes.map (ClassEntry.moveDown k)
  functions := o.functions.map (FunctionEntry.moveDown k)

/-- An error some lines further down. -/
def OutlineError.moveDown (k : Nat) : OutlineError → OutlineError
  | .malformed line => .malformed (line + k)

namespace Suite

variable {names : Docstring.CharacterNames}

theorem docstring_moveDown (m : Suite) : (m.moveDown k).docstring names = m.docstring names := by
  cases m with
  | simple s next =>
    obtain ⟨line, action⟩ := s
    cases action with
    | expression ps => cases ps <;> rfl
    | imports | obsolete | returns | other => rfl
  | nil | define | block => rfl

theorem imports_moveDown (m : Suite) :
    (m.moveDown k).imports = m.imports.map (ImportEntry.moveDown k) := by
  induction m with
  | nil => rfl
  | simple s next ih =>
    obtain ⟨line, action⟩ := s
    cases action with
    | imports names =>
      rw [moveDown, Simple.moveDown, imports, imports, ih, List.map_append, List.map_map]
      rfl
    | expression | obsolete | returns | other => exact ih
  | define line kind name body next _ ih => exact ih
  | block body next _ ih => exact ih

theorem functions_moveDown (m : Suite) :
    (m.moveDown k).functions names = (m.functions names).map (FunctionEntry.moveDown k) := by
  induction m with
  | nil => rfl
  | simple s next ih => exact ih
  | define line kind name body next _ ih =>
    cases kind with
    | functionDef =>
      rw [moveDown, functions, functions, docstring_moveDown, ih]
      rfl
    | classDef => exact ih
  | block body next _ ih => exact ih

theorem classes_moveDown (m : Suite) :
    (m.moveDown k).classes names = (m.classes names).map (ClassEntry.moveDown k) := by
  induction m with
  | nil => rfl
  | simple s next ih => exact ih
  | define line kind name body next _ ih =>
    cases kind with
    | functionDef => exact ih
    | classDef =>
      rw [moveDown, classes, classes, docstring_moveDown, functions_moveDown, ih]
      rfl
  | block body next _ ih => exact ih

theorem outline_moveDown (m : Suite) :
    (m.moveDown k).outline names = (m.outline names).moveDown k := by
  rw [outline, docstring_moveDown, imports_moveDown, classes_moveDown, functions_moveDown]
  rfl

theorem firstRejected_moveDown (m : Suite) (inFunction : Bool) :
    (m.moveDown k).firstRejected inFunction = (m.firstRejected inFunction).map (· + k) := by
  induction m generalizing inFunction with
  | nil => rfl
  | simple s next ih =>
    obtain ⟨line, action⟩ := s
    cases action with
    | returns =>
      cases inFunction with
      | false => rfl
      | true => exact ih true
    | obsolete => rfl
    | imports | expression | other => exact ih inFunction
  | define line kind name body next ihb ihn =>
    rw [moveDown, firstRejected, firstRejected, ihb, ihn]
    cases firstRejected (kind == .functionDef) body <;> rfl
  | block body next ihb ihn =>
    rw [moveDown, firstRejected, firstRejected, ihb, ihn]
    cases firstRejected inFunction body <;> rfl

end Suite

/-! ### Line ends -/

theorem head?_normalizeNewlines {s : Text} (h : s.head? ≠ some '\ufeff') :
    (Text.normalizeNewlines s).head? ≠ some '\ufeff' := by
  rw [Text.normalizeNewlines_eq]
  fun_cases Text.unifyLineEnds s with
  | case1 => exact h
  | case2 s => exact fun hc => absurd (Option.some.inj hc) (by decide)
  | case3 c s hs =>
    split
    · exact fun hc => absurd (Option.some.inj hc) (by decide)
    · exact h

namespace Outline

/-- Whether a text is a program, without a syntax error. -/
def IsProgram (source : Text) : Prop := ∃ m, Suite.parse (Text.normalizeNewlines source) = .ok m

theorem ofText_of_not_isProgram (r : Reader) {source : Text} (h : ¬ IsProgram source) :
    ofText r source = .error (.malformed (r.errorLine (Text.normalizeNewlines source))) := by
  unfold ofText
  cases hp : Suite.parse (Text.normalizeNewlines source) with
  | error n => rfl
  | ok m => exact absurd ⟨m, hp⟩ h

section Front

variable {ls : List Text} (hls : ∀ l ∈ ls, IsCommentLine l)

include hls

theorem normalizeNewlines_ended_append (source : Text) :
    Text.normalizeNewlines (ended ls ++ source) = ended ls ++ Text.normalizeNewlines source :=
  normalizeNewlines_append (return_not_mem_ended hls) source

variable {source : Text} (h : source.head? ≠ some '\ufeff')

include h

theorem parse_normalizeNewlines_ended :
    Suite.parse (Text.normalizeNewlines (ended ls ++ source)) =
      answerDown ls.length (Suite.moveDown ls.length)
        (Suite.parse (Text.normalizeNewlines source)) := by
  rw [normalizeNewlines_ended_append hls]
  exact Suite.parse_ended hls (head?_normalizeNewlines h)

theorem isProgram_ended_iff : IsProgram (ended ls ++ source) ↔ IsProgram source := by
  unfold IsProgram
  rw [parse_normalizeNewlines_ended hls h]
  cases Suite.parse (Text.normalizeNewlines source) with
  | error n => exact ⟨nofun, nofun⟩
  | ok m => exact ⟨fun _ => ⟨m, rfl⟩, fun _ => ⟨_, rfl⟩⟩

theorem ofText_ended_of_isProgram (r : Reader) (hp : IsProgram source) :
    match ofText r source with
    | .ok o => ofText r (ended ls ++ source) = .ok (o.moveDown ls.length)
    | .error e => ofText r (ended ls ++ source) = .error (e.moveDown ls.length) := by
  obtain ⟨m, hm⟩ := hp
  unfold ofText
  rw [parse_normalizeNewlines_ended hls h, hm]
  dsimp only [answerDown]
  rw [Suite.firstRejected_moveDown]
  cases m.firstRejected false with
  | some line => rfl
  | none => exact congrArg Except.ok m.outline_moveDown

end Front

/-- A place behind lines in front is as many lines further down. -/
theorem lineOf_ended_append {ls : List Text} (hls : ∀ l ∈ ls, IsCommentLine l) (s : Text)
    (place : Nat) :
    lineOf (ended ls ++ s) ((ended ls).length + place) = lineOf s place + ls.length := by
  rw [lineOf, lineOf, List.take_length_add_append, feeds, List.count_append, ← feeds, ← feeds,
    feeds_ended hls]
  omega

/-- A place in lines in front is on one of them. -/
theorem lineOf_ended_le {ls : List Text} (hls : ∀ l ∈ ls, IsCommentLine l) (s : Text) {place : Nat}
    (hplace : place < (ended ls).length) : lineOf (ended ls ++ s) place ≤ ls.length := by
  rcases List.eq_nil_or_concat' ls with rfl | ⟨init, l, rfl⟩
  · exact absurd hplace (Nat.not_lt_zero _)
  · -- The line feed that ends the last line is not before the place.
    have hended : ended (init ++ [l]) = ended init ++ l ++ ['\n'] := by simp [ended]
    have hfeeds := feeds_ended hls
    rw [hended] at hplace hfeeds ⊢
    rw [feeds, List.count_append] at hfeeds
    have hlength : place ≤ (ended init ++ l).length := by
      rw [List.length_append, List.length_singleton] at hplace
      omega
    have hcount := ((ended init ++ l).take_sublist place).count_le '\n'
    rw [lineOf, List.append_assoc _ _ s, List.take_append_of_le_length hlength, feeds]
    have hone : ['\n'].count '\n' = 1 := rfl
    omega

end Outline

end CodeAtlas.Python
