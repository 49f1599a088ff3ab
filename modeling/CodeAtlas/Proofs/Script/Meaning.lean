import CodeAtlas.Proofs.Script.Importing
import CodeAtlas.Python.Suite

/-!
# What a printed script means

Every line of a script has the form that it was printed for (`Line.form_row`), and the lines of a
block are read as the statements of the block, whatever follows it (`Block.parses`). The suites
are put together from the back: what comes after a block is given, and the statements of the
block are put in front of it.
-/

namespace CodeAtlas.Python

/-! ### Lines -/

namespace Simple

theorem split_eq {stop : Nat} {ls : List Lexeme} (h : ∀ l ∈ ls, l.tok ≠ .mark .semicolon) :
    split stop ls = [(ls, stop)] := by
  induction ls with
  | nil => rfl
  | cons l ls ih =>
    have ih := ih fun k hk => h k (List.mem_cons_of_mem l hk)
    rw [split, if_neg (h l (List.mem_cons_self ..)), ih]

/-- A line without semicolons is one statement. -/
theorem readAll_eq {l : Lexeme} {ls : List Lexeme} {stop : Nat} {a : Action}
    (h : ∀ k ∈ l :: ls, k.tok ≠ .mark .semicolon) (ha : Action.read (l :: ls) = .ok a) :
    readAll (l :: ls) stop = .ok [⟨l.line, a⟩] := by
  rw [readAll, split_eq h]
  simp only [readRuns, Simple.read, ha]
  rfl

end Simple

/-- The header of a definition. -/
def Definer.header (name : PlainName) : Definer → Header
  | funcD _ => .funcH name.text
  | classD => .classH name.text

/-- What a line is, if it has the given number. -/
def Line.form (line : Nat) : Line → Form
  | importing f => .simple [⟨line, .imports f.reported⟩]
  | decorator _ => .decorator
  | header d n => .header (d.header n) []
  | condition => .header .ifH []
  | docstring s => .simple [⟨line, .expression [Docstring.quote s]⟩]
  | pass => .simple [⟨line, .other⟩]

theorem form_importing (f : ImportForm) (indent line : Nat) :
    ((Line.importing f).row indent line).form false =
      .ok (.simple [⟨line, .imports f.reported⟩]) := by
  have hs : ∀ l ∈ (f.first :: f.others).map (Tok.at line), l.tok ≠ .mark .semicolon := by
    intro l hl h
    obtain ⟨t, ht, rfl⟩ := List.mem_map.mp hl
    exact f.not_semicolon (h ▸ ht)
  have hr : ((Line.importing f).row indent line).readSimple =
      .ok (.simple [⟨line, .imports f.reported⟩]) := by
    have h : Simple.readAll ((Line.importing f).row indent line).lexemes
        ((Line.importing f).row indent line).stop = .ok [⟨line, .imports f.reported⟩] :=
      Simple.readAll_eq hs (f.read_eq line)
    simp only [Row.readSimple, h]
  cases f <;> exact hr

theorem form_header (d : Definer) (n : PlainName) (indent line : Nat) :
    ((Line.header d n).row indent line).form false = .ok (.header (d.header n) []) := by
  rcases d with (_ | _) | _ <;> rfl

/-- A line is what it was printed for. -/
theorem Line.form_row (l : Line) (indent line : Nat) :
    (l.row indent line).form false = .ok (l.form line) := by
  cases l with
  | importing f => exact form_importing f indent line
  | decorator n => rfl
  | header d n => exact form_header d n indent line
  | condition => rfl
  | docstring s => rfl
  | pass => rfl

/-! ### Layout -/

namespace Layout

variable {width : Nat} {r : Row} {rs : List Row}

/-- A line with no deeper line after it opens no block. -/
theorem ofRows_row (h : ∀ s ∈ rs.head?, s.indent ≤ width) :
    ofRows width (r :: rs) = .row r .nil (ofRows width rs) := by
  cases rs with
  | nil => simp only [ofRows, List.head?_nil]
  | cons s ss =>
    have hs : s.indent ≤ width := h s rfl
    rw [ofRows]
    simp only [List.head?_cons]
    rw [if_neg (by omega)]

/-- The block of a line reaches as far as the lines after it are indented like its first. -/
theorem ofRows_block {s : Row} {ss rest : List Row} (ho : r.opens = true) (hw : width < s.indent)
    (hs : ∀ t ∈ ss, s.indent ≤ t.indent) (hr : ∀ t ∈ rest.head?, t.indent < s.indent) :
    ofRows width (r :: (s :: ss ++ rest)) =
      .row r (ofRows s.indent (s :: ss)) (ofRows width rest) := by
  have hall : ∀ t ∈ s :: ss, decide (s.indent ≤ t.indent) = true := by simpa using hs
  have hnone : ∀ t ∈ rest.head?, decide (s.indent ≤ t.indent) = false := by simpa using hr
  rw [ofRows]
  simp only [List.cons_append, List.head?_cons]
  rw [if_pos ⟨ho, hw⟩, ← List.cons_append, Text.takeWhile_append_of_head? hall hnone,
    Text.dropWhile_append_of_head? hall hnone]

end Layout

/-! ### Lines and their indentation -/

/-- Lines that go on in a block of the given indentation, or after it. -/
def Follow (indent : Nat) (ls : List (Nat × Line)) : Prop := ∀ l ∈ ls.head?, l.1 ≤ indent

theorem follow_cons (indent : Nat) (l : Line) (ls : List (Nat × Line)) :
    Follow indent ((indent, l) :: ls) := by simp [Follow]

theorem head?_rowsFrom (line : Nat) (ls : List (Nat × Line)) :
    ∀ r ∈ (rowsFrom line ls).head?, ∃ l ∈ ls.head?, r.indent = l.1 := by
  cases ls with
  | nil => simp [rowsFrom]
  | cons l ls => simp [rowsFrom, Line.row]

theorem mem_rowsFrom (line : Nat) (ls : List (Nat × Line)) :
    ∀ r ∈ rowsFrom line ls, ∃ l ∈ ls, r.indent = l.1 := by
  induction ls generalizing line with
  | nil => simp [rowsFrom]
  | cons l ls ih =>
    intro r hr
    rcases List.mem_cons.mp hr with rfl | hr
    · exact ⟨l, List.mem_cons_self .., rfl⟩
    · obtain ⟨k, hk, hi⟩ := ih (line + 1) r hr
      exact ⟨k, List.mem_cons_of_mem l hk, hi⟩

theorem rowsFrom_append (line : Nat) (ks ls : List (Nat × Line)) :
    rowsFrom line (ks ++ ls) = rowsFrom line ks ++ rowsFrom (line + ks.length) ls := by
  induction ks generalizing line with
  | nil => rfl
  | cons k ks ih =>
    rw [List.cons_append, rowsFrom, rowsFrom, ih, List.length_cons, List.cons_append,
      Nat.add_assoc, Nat.add_comm 1]

namespace Block

/-- The lines of a body with its docstring and with `pass` at its end. -/
def bodyLines (indent : Nat) (doc? : Option Text) (b : Block) : List (Nat × Line) :=
  docLines indent doc? ++ (b.lines indent ++ [(indent, .pass)])

theorem lines_define (indent : Nat) (ds : List PlainName) (d : Definer) (n : PlainName)
    (doc? : Option Text) (body next : Block) :
    (define ds d n doc? body next).lines indent =
      ds.map (fun a => (indent, .decorator a)) ++
        (indent, .header d n) :: (bodyLines (indent + 4) doc? body ++ next.lines indent) := by
  simp [lines, bodyLines]

theorem lines_conditional (indent : Nat) (body next : Block) :
    (conditional body next).lines indent =
      (indent, .condition) :: (bodyLines (indent + 4) none body ++ next.lines indent) := by
  simp [lines, bodyLines, docLines]

theorem indent_docLines {indent : Nat} {doc? : Option Text} :
    ∀ l ∈ docLines indent doc?, l.1 = indent := by
  intro l hl
  obtain ⟨s, -, rfl⟩ := List.mem_map.mp hl
  rfl

/-- No line of a block is indented less than the block. -/
theorem indent_le_lines (b : Block) (indent : Nat) : ∀ l ∈ b.lines indent, indent ≤ l.1 := by
  induction b generalizing indent with
  | done => simp [lines]
  | importing f next ih => simpa [lines] using fun a l => ih indent (a, l)
  | define ds d n doc? body next ihb ihn =>
    intro l hl
    simp only [lines, List.mem_append, List.mem_cons, List.mem_map] at hl
    rcases hl with ⟨_, -, rfl⟩ | rfl | (h | h) | rfl | h
    · exact Nat.le_refl _
    · exact Nat.le_refl _
    · exact indent_docLines l h ▸ Nat.le_add_right ..
    · exact Nat.le_of_add_right_le (ihb (indent + 4) l h)
    · exact Nat.le_add_right ..
    · exact ihn indent l h
  | conditional body next ihb ihn =>
    intro l hl
    simp only [lines, List.mem_append, List.mem_cons] at hl
    rcases hl with rfl | h | rfl | h
    · exact Nat.le_refl _
    · exact Nat.le_of_add_right_le (ihb (indent + 4) l h)
    · exact Nat.le_add_right ..
    · exact ihn indent l h

theorem follow_lines (b : Block) {indent : Nat} {ls : List (Nat × Line)} (h : Follow indent ls) :
    Follow indent (b.lines indent ++ ls) := by
  cases b with
  | done => exact h
  | importing f next => exact follow_cons indent _ _
  | define ds d n doc? body next => cases ds <;> exact follow_cons indent _ _
  | conditional body next => exact follow_cons indent _ _

/-- The first line of a body has its indentation, and no other line has less. -/
theorem bodyLines_eq_cons (indent : Nat) (doc? : Option Text) (b : Block) :
    ∃ l ls, bodyLines indent doc? b = (indent, l) :: ls ∧ ∀ k ∈ ls, indent ≤ k.1 := by
  have hb := b.indent_le_lines indent
  have hle : ∀ k ∈ bodyLines indent doc? b, indent ≤ k.1 := by
    intro k hk
    simp only [bodyLines, List.mem_append, List.mem_singleton] at hk
    rcases hk with h | h | rfl
    · exact Nat.le_of_eq (indent_docLines k h).symm
    · exact hb k h
    · exact Nat.le_refl _
  have hfirst : Follow indent (bodyLines indent doc? b) := by
    cases doc? with
    | none => exact b.follow_lines (follow_cons indent _ _)
    | some s => exact follow_cons indent _ _
  cases h : bodyLines indent doc? b with
  | nil => simp [bodyLines] at h
  | cons l ls =>
    rw [h] at hle hfirst
    have hl : l.1 = indent := Nat.le_antisymm (hfirst l rfl) (hle l (List.mem_cons_self ..))
    exact ⟨l.2, ls, by rw [← hl], fun k hk => hle k (List.mem_cons_of_mem l hk)⟩

end Block

/-! ### Reading lines as statements -/

namespace Suite.Pending

/-- Whether any statement may come next. -/
def Free (p : Pending) : Prop := p = .none ∨ p = .branch

/-- Whether a definition may come next. -/
def Ready (p : Pending) : Prop := Free p ∨ p = .definition

theorem Free.not_isOpen {p : Pending} (h : p.Free) : p.isOpen = false := by
  rcases h with rfl | rfl <;> rfl

theorem Free.accept_simple {p : Pending} (h : p.Free) (ss : List Simple) :
    p.accept (.simple ss) = some .none := by
  rcases h with rfl | rfl <;> rfl

theorem Free.accept_if {p : Pending} (h : p.Free) : p.accept (.header .ifH []) = some .branch := by
  rcases h with rfl | rfl <;> rfl

theorem Ready.accept_decorator {p : Pending} (h : p.Ready) :
    p.accept .decorator = some .definition := by
  rcases h with (rfl | rfl) | rfl <;> rfl

theorem Ready.accept_header {p : Pending} (h : p.Ready) (d : Definer) (n : PlainName) :
    p.accept (.header (d.header n) []) = some .none := by
  rcases h with (rfl | rfl) | rfl <;> cases d <;> rfl

end Suite.Pending

open Suite.Pending (Free Ready)

/-- The suite of a header with a body. -/
def Header.suite (line : Nat) (body next : Suite) : Header → Suite
  | .funcH name => .define line .functionDef name body next
  | .classH name => .define line .classDef name body next
  | _ => .block body next

/-- The lines, the first of which has the given number, are read as a suite wherever the clauses
that may come next satisfy `P`. -/
def ParsesAs (P : Suite.Pending → Prop) (indent line : Nat) (ls : List (Nat × Line))
    (k : Suite) : Prop :=
  ∀ stop p, P p → Suite.ofLayout false stop p (Layout.ofRows indent (rowsFrom line ls)) = .ok k

namespace ParsesAs

variable {indent line : Nat} {ls : List (Nat × Line)} {l : Line} {k : Suite}

theorem nil : ParsesAs Free indent line [] .nil := by
  intro stop p hp
  rw [rowsFrom, Layout.ofRows, Suite.ofLayout, hp.not_isOpen]
  rfl

theorem layout_row (hf : Follow indent ls) :
    Layout.ofRows indent (rowsFrom line ((indent, l) :: ls)) =
      .row (l.row indent line) .nil (Layout.ofRows indent (rowsFrom (line + 1) ls)) := by
  refine Layout.ofRows_row fun s hs => ?_
  obtain ⟨k, hk, hi⟩ := head?_rowsFrom (line + 1) ls s hs
  exact hi ▸ hf k hk

theorem simple {ss : List Simple} (hl : l.form line = .simple ss) (hf : Follow indent ls)
    (h : ParsesAs Free indent (line + 1) ls k) :
    ParsesAs Free indent line ((indent, l) :: ls) (Suite.prepend k ss) := by
  intro stop p hp
  rw [layout_row hf, Suite.ofLayout, l.form_row, hl]
  simp only [hp.accept_simple, h stop .none (.inl rfl)]
  rfl

theorem decorator (n : PlainName) (hf : Follow indent ls)
    (h : ParsesAs Ready indent (line + 1) ls k) :
    ParsesAs Ready indent line ((indent, .decorator n) :: ls) k := by
  intro stop p hp
  rw [layout_row hf, Suite.ofLayout, Line.form_row]
  simp only [Line.form, hp.accept_decorator, h stop .definition (.inr rfl)]

theorem layout_block {doc? : Option Text} {b : Block} (ho : (l.row indent line).opens = true)
    (hf : Follow indent ls) :
    Layout.ofRows indent
        (rowsFrom line ((indent, l) :: (Block.bodyLines (indent + 4) doc? b ++ ls))) =
      .row (l.row indent line)
        (Layout.ofRows (indent + 4)
          (rowsFrom (line + 1) (Block.bodyLines (indent + 4) doc? b)))
        (Layout.ofRows indent
          (rowsFrom (line + 1 + (Block.bodyLines (indent + 4) doc? b).length) ls)) := by
  obtain ⟨m, ms, he, hle⟩ := Block.bodyLines_eq_cons (indent + 4) doc? b
  rw [he, rowsFrom, rowsFrom_append, rowsFrom]
  refine Layout.ofRows_block ho (Nat.lt_add_of_pos_right (by decide)) (fun t ht => ?_)
    fun t ht => ?_
  · obtain ⟨k, hk, hi⟩ := mem_rowsFrom (line + 1 + 1) ms t ht
    exact hi ▸ hle k hk
  · obtain ⟨k, hk, hi⟩ := head?_rowsFrom _ ls t ht
    exact hi ▸ Nat.lt_of_le_of_lt (hf k hk) (Nat.lt_add_of_pos_right (by decide))

theorem block {P : Suite.Pending → Prop} {h : Header} {doc? : Option Text} {b : Block} {kb : Suite}
    (hl : l.form line = .header h []) (ho : (l.row indent line).opens = true)
    (hm : (h == .matchH) = false) (hp : ∀ p, P p → ∃ q, p.accept (.header h []) = some q ∧ q.Free)
    (hb : ParsesAs Free (indent + 4) (line + 1) (Block.bodyLines (indent + 4) doc? b) kb)
    (hf : Follow indent ls)
    (hk : ParsesAs Free indent (line + 1 + (Block.bodyLines (indent + 4) doc? b).length) ls k) :
    ParsesAs P indent line ((indent, l) :: (Block.bodyLines (indent + 4) doc? b ++ ls))
      (h.suite line kb k) := by
  intro stop p hP
  obtain ⟨q, hq, hfree⟩ := hp p hP
  rw [layout_block ho hf, Suite.ofLayout, l.form_row, hl]
  simp only [hq, hm, hb _ .none (.inl rfl), hk stop q hfree, Suite.prepend]
  cases h <;> rfl

end ParsesAs

namespace Block

/-! ### Blocks as suites -/

/-- The statement of a docstring that may be missing, in front of a suite. -/
def docSuite (line : Nat) (doc? : Option Text) (after : Suite) : Suite :=
  match doc? with
  | none => after
  | some s => .simple ⟨line, .expression [Docstring.quote s]⟩ after

/-- The suite of a block in front of another one. -/
def suite (line : Nat) (after : Suite) : Block → Suite
  | done => after
  | importing f next => .simple ⟨line, .imports f.reported⟩ (next.suite (line + 1) after)
  | define ds d n doc? body next =>
    let first := line + ds.length + 1
    (d.header n).suite (line + ds.length)
      (docSuite first doc? (body.suite (first + docSize doc?)
        (.simple ⟨first + docSize doc? + body.size, .other⟩ .nil)))
      (next.suite (first + (docSize doc? + body.size + 1)) after)
  | conditional body next =>
    .block (body.suite (line + 1) (.simple ⟨line + 1 + body.size, .other⟩ .nil))
      (next.suite (line + 1 + (body.size + 1)) after)

theorem length_docLines (indent : Nat) (doc? : Option Text) :
    (docLines indent doc?).length = docSize doc? := by
  cases doc? <;> rfl

theorem length_lines (b : Block) (indent : Nat) : (b.lines indent).length = b.size := by
  induction b generalizing indent with
  | done => rfl
  | importing f next ih => simp [lines, size, ih, Nat.add_comm]
  | define ds d n doc? body next ihb ihn =>
    simp [lines, size, ihb, ihn, length_docLines]
    omega
  | conditional body next ihb ihn =>
    simp [lines, size, ihb, ihn]
    omega

theorem parses_doc {indent line : Nat} {ls : List (Nat × Line)} {k : Suite} (doc? : Option Text)
    (hf : Follow indent ls) (h : ParsesAs Free indent (line + docSize doc?) ls k) :
    ParsesAs Free indent line (docLines indent doc? ++ ls) (docSuite line doc? k) := by
  cases doc? with
  | none => exact h
  | some s => exact ParsesAs.simple (l := .docstring s) rfl hf h

theorem parses_decorated {indent line : Nat} {ls : List (Nat × Line)} {k : Suite}
    (ds : List PlainName) (hf : Follow indent ls)
    (h : ParsesAs Ready indent (line + ds.length) ls k) :
    ParsesAs Ready indent line (ds.map (fun a => (indent, .decorator a)) ++ ls) k := by
  induction ds generalizing line with
  | nil => exact h
  | cons a ds ih =>
    refine ParsesAs.decorator a ?_ (ih ?_)
    · cases ds with
      | nil => exact hf
      | cons => exact follow_cons indent _ _
    · rwa [List.length_cons, ← Nat.add_assoc, Nat.add_right_comm] at h

/-- The suite of a body with its docstring and with `pass` at its end. -/
def bodySuite (line : Nat) (doc? : Option Text) (b : Block) : Suite :=
  docSuite line doc?
    (b.suite (line + docSize doc?) (.simple ⟨line + docSize doc? + b.size, .other⟩ .nil))

theorem parses_body {indent line : Nat} (doc? : Option Text) {b : Block}
    (hb : ∀ ls k, Follow indent ls →
      ParsesAs Free indent (line + docSize doc? + b.size) ls k →
        ParsesAs Free indent (line + docSize doc?) (b.lines indent ++ ls)
          (b.suite (line + docSize doc?) k)) :
    ParsesAs Free indent line (bodyLines indent doc? b) (bodySuite line doc? b) := by
  have hpass : Follow indent [(indent, Line.pass)] := follow_cons indent _ _
  exact parses_doc doc? (b.follow_lines hpass)
    (hb _ _ hpass (ParsesAs.simple (l := .pass) rfl (by simp [Follow]) ParsesAs.nil))

theorem length_bodyLines (indent : Nat) (doc? : Option Text) (b : Block) :
    (bodyLines indent doc? b).length = docSize doc? + b.size + 1 := by
  simp [bodyLines, length_docLines, length_lines, Nat.add_assoc]

/-- The lines of a block are read as its statements, before whatever follows. -/
theorem parses (b : Block) {indent line : Nat} {ls : List (Nat × Line)} {k : Suite}
    (hf : Follow indent ls) (h : ParsesAs Free indent (line + b.size) ls k) :
    ParsesAs Free indent line (b.lines indent ++ ls) (b.suite line k) := by
  induction b generalizing indent line ls k with
  | done => exact h
  | importing f next ih =>
    rw [size, ← Nat.add_assoc] at h
    exact ParsesAs.simple (l := .importing f) rfl (next.follow_lines hf) (ih hf h)
  | define ds d n doc? body next ihb ihn =>
    have hbody : ParsesAs Free (indent + 4) (line + ds.length + 1)
        (bodyLines (indent + 4) doc? body) (bodySuite (line + ds.length + 1) doc? body) :=
      parses_body doc? fun ls k => ihb
    have hsize : line + (define ds d n doc? body next).size =
        line + ds.length + 1 + (bodyLines (indent + 4) doc? body).length + next.size := by
      rw [size, length_bodyLines]
      omega
    have hheader := ParsesAs.block (P := Ready) (l := .header d n) (h := d.header n) rfl
      (by rcases d with (_ | _) | _ <;> rfl) (by cases d <;> rfl)
      (fun p hp => ⟨.none, hp.accept_header d n, .inl rfl⟩) hbody (next.follow_lines hf)
      (ihn hf (hsize ▸ h))
    have hall := parses_decorated ds (follow_cons indent _ _) hheader
    rw [length_bodyLines] at hall
    rw [lines_define, List.append_assoc, List.cons_append, List.append_assoc]
    exact fun stop p hp => hall stop p (.inl hp)
  | conditional body next ihb ihn =>
    have hbody : ParsesAs Free (indent + 4) (line + 1) (bodyLines (indent + 4) none body)
        (bodySuite (line + 1) none body) := parses_body none fun ls k => ihb
    have hsize : line + (conditional body next).size =
        line + 1 + (bodyLines (indent + 4) none body).length + next.size := by
      rw [size, length_bodyLines, docSize]
      simp
      omega
    have hall := ParsesAs.block (P := Free) (l := .condition) (h := .ifH) rfl rfl rfl
      (fun p hp => ⟨.branch, hp.accept_if, .inr rfl⟩) hbody (next.follow_lines hf)
      (ihn hf (hsize ▸ h))
    have hzero : docSize none = 0 := rfl
    rw [length_bodyLines, hzero, Nat.zero_add] at hall
    rw [lines_conditional, List.cons_append, List.append_assoc]
    exact hall

/-! ### The outline of a suite -/

variable {names : Docstring.CharacterNames}

theorem suite_define (line : Nat) (k : Suite) (ds : List PlainName) (d : Definer) (n : PlainName)
    (doc? : Option Text) (body next : Block) :
    (define ds d n doc? body next).suite line k =
      (d.header n).suite (line + ds.length) (bodySuite (line + ds.length + 1) doc? body)
        (next.suite (line + (ds.length + 1 + (docSize doc? + body.size + 1))) k) := by
  simp [suite, bodySuite, Nat.add_assoc]

theorem docstring_suite (b : Block) (line : Nat) {k : Suite} (hk : k.docstring names = none) :
    (b.suite line k).docstring names = none := by
  cases b with
  | done => exact hk
  | importing f next => rfl
  | define ds d n doc? body next => cases d <;> rfl
  | conditional body next => rfl

/-- No statement but a docstring that is given makes one. -/
theorem docstring_docSuite (line : Nat) (doc? : Option Text) {k : Suite}
    (hk : k.docstring names = none) : (docSuite line doc? k).docstring names = docEntry doc? := by
  cases doc? with
  | none => exact hk
  | some s => exact Docstring.ofLiterals?_quote s

theorem imports_docSuite (line : Nat) (doc? : Option Text) (k : Suite) :
    (docSuite line doc? k).imports = k.imports := by
  cases doc? <;> rfl

theorem classes_docSuite (line : Nat) (doc? : Option Text) (k : Suite) :
    (docSuite line doc? k).classes names = k.classes names := by
  cases doc? <;> rfl

theorem functions_docSuite (line : Nat) (doc? : Option Text) (k : Suite) :
    (docSuite line doc? k).functions names = k.functions names := by
  cases doc? <;> rfl

theorem firstRejected_docSuite (inFunction : Bool) (line : Nat) (doc? : Option Text) (k : Suite) :
    (docSuite line doc? k).firstRejected inFunction = k.firstRejected inFunction := by
  cases doc? <;> rfl

theorem docstring_bodySuite (line : Nat) (doc? : Option Text) (b : Block) :
    (bodySuite line doc? b).docstring names = docEntry doc? :=
  docstring_docSuite line doc? (b.docstring_suite _ rfl)

theorem imports_suite (b : Block) (line : Nat) (k : Suite) :
    (b.suite line k).imports = b.imports line ++ k.imports := by
  induction b generalizing line with
  | done => rfl
  | importing f next ih => simp [suite, Suite.imports, imports, ih]
  | define ds d n doc? body next _ ih =>
    rw [suite_define, imports, ← ih]
    cases d <;> rfl
  | conditional body next _ ih => simp [suite, Suite.imports, imports, ih, Nat.add_assoc]

theorem functions_suite (b : Block) (line : Nat) (k : Suite) :
    (b.suite line k).functions names = b.functions line ++ k.functions names := by
  induction b generalizing line k with
  | done => rfl
  | importing f next ih => simp [suite, Suite.functions, functions, ih]
  | define ds d n doc? body next _ ih =>
    rw [suite_define]
    cases d with
    | funcD =>
      simp [Definer.header, Header.suite, Suite.functions, functions, ih, docstring_bodySuite]
    | classD => simp [Definer.header, Header.suite, Suite.functions, functions, ih]
  | conditional body next _ ih => simp [suite, Suite.functions, functions, ih, Nat.add_assoc]

theorem functions_bodySuite (line : Nat) (doc? : Option Text) (b : Block) :
    (bodySuite line doc? b).functions names = b.functions (line + docSize doc?) := by
  rw [bodySuite, functions_docSuite, functions_suite]
  exact List.append_nil _

theorem classes_suite (b : Block) (line : Nat) (k : Suite) :
    (b.suite line k).classes names = b.classes line ++ k.classes names := by
  induction b generalizing line k with
  | done => rfl
  | importing f next ih => simp [suite, Suite.classes, classes, ih]
  | define ds d n doc? body next _ ih =>
    rw [suite_define]
    cases d with
    | funcD => simp [Definer.header, Header.suite, Suite.classes, classes, ih]
    | classD =>
      simp [Definer.header, Header.suite, Suite.classes, classes, ih, docstring_bodySuite,
        functions_bodySuite]
  | conditional body next _ ih => simp [suite, Suite.classes, classes, ih, Nat.add_assoc]

/-- Nothing in a block is rejected. -/
theorem firstRejected_suite (b : Block) (inFunction : Bool) (line : Nat) {k : Suite}
    (hk : ∀ i, k.firstRejected i = none) : (b.suite line k).firstRejected inFunction = none := by
  induction b generalizing inFunction line k with
  | done => exact hk inFunction
  | importing f next ih => exact ih inFunction _ hk
  | define ds d n doc? body next ihb ihn =>
    have hbody (i : Bool) :
        (bodySuite (line + ds.length + 1) doc? body).firstRejected i = none := by
      rw [bodySuite, firstRejected_docSuite]
      exact ihb i _ fun _ => rfl
    rw [suite_define]
    cases d <;> simp [Definer.header, Header.suite, Suite.firstRejected, hbody, ihn _ _ hk]
  | conditional body next ihb ihn =>
    have hbody := ihb inFunction (line + 1) (k := .simple ⟨line + 1 + body.size, .other⟩ .nil)
      fun _ => rfl
    simp [suite, Suite.firstRejected, hbody, ihn _ _ hk]

end Block

/-! ### Whole scripts -/

namespace Script

/-- The statement at the end of a script, if there is one. -/
def endSuite (s : Script) : Suite :=
  if s.ended then .simple ⟨1 + Block.docSize s.doc? + s.body.size, .other⟩ .nil else .nil

/-- The suite that a script is read as. -/
def suite (s : Script) : Suite :=
  Block.docSuite 1 s.doc? (s.body.suite (1 + Block.docSize s.doc?) s.endSuite)

theorem parse_print (s : Script) : Suite.parse s.print = .ok s.suite := by
  have hend : ParsesAs Free 0 (1 + Block.docSize s.doc? + s.body.size)
      (if s.ended then [(0, .pass)] else []) s.endSuite := by
    rw [endSuite]
    cases s.ended with
    | false => exact ParsesAs.nil
    | true => exact ParsesAs.simple (l := .pass) rfl (by simp [Follow]) ParsesAs.nil
  have hf : Follow 0 (if s.ended then [(0, Line.pass)] else []) := by
    cases s.ended <;> simp [Follow]
  have hall := Block.parses_doc s.doc? (s.body.follow_lines hf) (s.body.parses hf hend)
  rw [Suite.parse, rows_print, lines, List.append_assoc, hall _ .none (.inl rfl)]
  rfl

theorem endSuite_cases (s : Script) :
    s.endSuite = .nil ∨ ∃ line, s.endSuite = .simple ⟨line, .other⟩ .nil := by
  rw [endSuite]
  cases s.ended with
  | false => exact .inl rfl
  | true => exact .inr ⟨_, rfl⟩

theorem firstRejected_suite (s : Script) : s.suite.firstRejected false = none := by
  have hend (i : Bool) : s.endSuite.firstRejected i = none := by
    rcases s.endSuite_cases with h | ⟨line, h⟩ <;> rw [h] <;> rfl
  rw [suite, Block.firstRejected_docSuite]
  exact s.body.firstRejected_suite false _ hend

/-- What is found in the suite is what the script says. -/
theorem outline_suite (s : Script) : s.suite.outline names = s.outline := by
  have hend : s.endSuite.outline names = ⟨none, [], [], []⟩ := by
    rcases s.endSuite_cases with h | ⟨line, h⟩ <;> rw [h] <;> rfl
  obtain ⟨hdoc, himports, hclasses, hfunctions⟩ := Outline.mk.inj hend
  rw [Suite.outline, suite, Block.docstring_docSuite 1 _ (s.body.docstring_suite _ hdoc),
    Block.imports_docSuite, Block.classes_docSuite, Block.functions_docSuite,
    Block.imports_suite, Block.classes_suite, Block.functions_suite, himports, hclasses,
    hfunctions, List.append_nil, List.append_nil, List.append_nil]
  rfl

end Script

namespace Outline

/-- The outline of a printed script is the one read off the script. -/
theorem ofText_print (r : Reader) (s : Script) : Outline.ofText r s.print = .ok s.outline := by
  rw [Outline.ofText, s.normalizeNewlines_print, s.parse_print]
  simp only [s.firstRejected_suite, s.outline_suite]

end Outline

end CodeAtlas.Python
