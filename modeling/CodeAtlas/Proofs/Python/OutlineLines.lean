import CodeAtlas.Proofs.Python.StatementOrder
import CodeAtlas.Python.Recovery

/-!
# The lines of an outline

Every line an outline names is a line of the program, and so is the line of an error
(`lines_ofText`). The entries of each kind are in the order of the program. The methods of a class
are below it and above whatever comes after it, since its body ends where the next statement
begins. The standard reader puts the first error on the line where reading stops or on one before it
(`Reader.errorLine_standard`).
-/

namespace CodeAtlas.Python

namespace Outline

/-- The lines of the classes and functions of a module. -/
def definitionLines (o : Outline) : List Nat := o.classes.map (·.line) ++ o.functions.map (·.line)

/-- Every line that an outline names. -/
def lines (o : Outline) : List Nat :=
  o.imports.map (·.line) ++ o.definitionLines ++ o.classes.flatMap fun c => c.methods.map (·.line)

/-- Whether an outline names lines of a program with `n` lines, in order and nested. -/
structure IsPlaced (n : Nat) (o : Outline) : Prop where
  /-- The lines are those of the program. -/
  real : ∀ l ∈ o.lines, 1 ≤ l ∧ l ≤ n
  /-- A statement may import several names. -/
  imports : o.imports.Pairwise fun i j => i.line ≤ j.line
  /-- Every class is below the one before it. -/
  classes : o.classes.Pairwise fun c d => c.line < d.line
  /-- Every function is below the one before it. -/
  functions : o.functions.Pairwise fun f g => f.line < g.line
  /-- Every method is below the one before it. -/
  methods : ∀ c ∈ o.classes, c.methods.Pairwise fun f g => f.line < g.line
  /-- A method is below its class and above the classes and functions that come after it. -/
  nested : ∀ c ∈ o.classes, ∀ f ∈ c.methods,
    c.line < f.line ∧ ∀ l ∈ o.definitionLines, c.line < l → f.line < l
  /-- No class is on the line of a function. -/
  apart : ∀ c ∈ o.classes, ∀ f ∈ o.functions, c.line ≠ f.line

theorem mem_definitionLines {o : Outline} {l : Nat} :
    l ∈ o.definitionLines ↔ (∃ c ∈ o.classes, c.line = l) ∨ ∃ f ∈ o.functions, f.line = l := by
  simp only [definitionLines, List.mem_append, List.mem_map]

theorem mem_lines {o : Outline} {l : Nat} :
    l ∈ o.lines ↔ (∃ i ∈ o.imports, i.line = l) ∨ l ∈ o.definitionLines ∨
      ∃ c ∈ o.classes, ∃ f ∈ c.methods, f.line = l := by
  simp only [lines, List.mem_append, List.mem_flatMap, List.mem_map, or_assoc]

end Outline

namespace Suite

variable {lo mid hi : Nat} {m : Suite} {names : Docstring.CharacterNames}

/-! ### Refused statements -/

theorem or_bounds {a b : Option Nat} (ha : ∀ l ∈ a, 0 < l ∧ l ≤ mid)
    (hb : ∀ l ∈ b, 0 < l ∧ l ≤ hi) (hle : mid ≤ hi) : ∀ l ∈ a.or b, 0 < l ∧ l ≤ hi := by
  intro l hl
  rcases Option.or_eq_some_iff.mp hl with hla | ⟨-, hlb⟩
  · exact ⟨(ha l hla).1, Nat.le_trans (ha l hla).2 hle⟩
  · exact hb l hlb

/-- The statement for which a program is refused is on one of its lines. -/
theorem Within.firstRejected_bounds (h : Within lo hi m) (inFunction : Bool) :
    ∀ l ∈ m.firstRejected inFunction, 0 < l ∧ l ≤ hi := by
  induction h generalizing inFunction with
  | nil _ => nofun
  | @simple lo hi s next hp _ hn ih =>
    have hhere : ∀ l ∈ some s.line, 0 < l ∧ l ≤ hi := by
      rintro l ⟨⟩
      exact ⟨hp, hn.le⟩
    unfold firstRejected
    split
    · exact hhere
    · split
      · exact ih inFunction
      · exact hhere
    · exact ih inFunction
  | define _ _ hn ihb ihn => exact or_bounds (ihb _) (ihn inFunction) hn.le
  | block _ hn ihb ihn => exact or_bounds (ihb inFunction) (ihn inFunction) hn.le

/-! ### Imports -/

/-- What a simple statement imports has its line. -/
theorem imports_simple (s : Simple) (next : Suite) :
    ∃ names : List Text, (simple s next).imports = names.map (⟨·, s.line⟩) ++ next.imports := by
  obtain ⟨line, action⟩ := s
  cases action with
  | imports names => exact ⟨names, rfl⟩
  | _ => exact ⟨[], rfl⟩

theorem Within.imports_bounds (h : Within lo hi m) :
    ∀ i ∈ m.imports, 0 < i.line ∧ lo ≤ i.line ∧ i.line ≤ hi := by
  induction h with
  | nil _ => nofun
  | @simple lo hi s next hp hs hn ih =>
    obtain ⟨names, himports⟩ := imports_simple s next
    intro i hi
    rw [himports] at hi
    rcases List.mem_append.mp hi with hhere | hnext
    · obtain ⟨name, -, rfl⟩ := List.mem_map.mp hhere
      exact ⟨hp, hs, hn.le⟩
    · obtain ⟨hpos, hlo, hhi⟩ := ih i hnext
      exact ⟨hpos, Nat.le_trans hs hlo, hhi⟩
  | define hl hb _ _ ih =>
    intro i hi
    obtain ⟨hpos, hlo, hhi⟩ := ih i hi
    exact ⟨hpos, Nat.le_trans (Nat.le_of_lt hl) (Nat.le_trans hb.le hlo), hhi⟩
  | block hb _ _ ih =>
    intro i hi
    obtain ⟨hpos, hlo, hhi⟩ := ih i hi
    exact ⟨hpos, Nat.le_trans hb.le hlo, hhi⟩

/-- Imports are in order. -/
theorem Within.pairwise_imports (h : Within lo hi m) :
    m.imports.Pairwise fun i j => i.line ≤ j.line := by
  induction h with
  | nil _ => exact List.Pairwise.nil
  | @simple lo hi s next hp hs hn ih =>
    obtain ⟨names, himports⟩ := imports_simple s next
    have hhere : (names.map (ImportEntry.mk · s.line)).Pairwise fun i j => i.line ≤ j.line :=
      List.pairwise_map.mpr (List.pairwise_of_forall fun _ _ => Nat.le_refl _)
    rw [himports]
    refine List.pairwise_append.mpr ⟨hhere, ih, fun i hi j hj => ?_⟩
    obtain ⟨name, -, rfl⟩ := List.mem_map.mp hi
    exact (hn.imports_bounds j hj).2.1
  | define _ _ _ _ ih => exact ih
  | block _ _ _ ih => exact ih

/-! ### Definitions -/

theorem mem_definitionLines_define (line : Nat) (kind : Kind) (name : Text) (body next : Suite)
    (l : Nat) : l ∈ ((define line kind name body next).outline names).definitionLines ↔
      l = line ∨ l ∈ (next.outline names).definitionLines := by
  cases kind with
  | functionDef =>
    simp only [Outline.definitionLines, outline, functions, classes, List.map_cons,
      List.mem_append, List.mem_cons]
    exact or_left_comm
  | classDef =>
    simp only [Outline.definitionLines, outline, functions, classes, List.map_cons,
      List.mem_append, List.mem_cons, or_assoc]

/-- Definitions begin below everything before them. -/
theorem Within.definition_bounds (h : Within lo hi m) :
    ∀ l ∈ (m.outline names).definitionLines, lo < l ∧ l ≤ hi := by
  induction h with
  | nil _ => nofun
  | simple _ hs _ ih =>
    intro l hl
    exact ⟨Nat.lt_of_le_of_lt hs (ih l hl).1, (ih l hl).2⟩
  | define hlo hb hn _ ih =>
    intro l hl
    rcases (mem_definitionLines_define ..).mp hl with rfl | hnext
    · exact ⟨hlo, Nat.le_trans hb.le hn.le⟩
    · exact ⟨Nat.lt_trans hlo (Nat.lt_of_le_of_lt hb.le (ih l hnext).1), (ih l hnext).2⟩
  | block hb _ _ ih =>
    intro l hl
    exact ⟨Nat.lt_of_le_of_lt hb.le (ih l hl).1, (ih l hl).2⟩

theorem Within.class_bounds (h : Within lo hi m) {c : ClassEntry} (hc : c ∈ m.classes names) :
    lo < c.line ∧ c.line ≤ hi :=
  h.definition_bounds c.line (Outline.mem_definitionLines.mpr (.inl ⟨c, hc, rfl⟩))

theorem Within.function_bounds (h : Within lo hi m) {f : FunctionEntry}
    (hf : f ∈ m.functions names) :
    lo < f.line ∧ f.line ≤ hi :=
  h.definition_bounds f.line (Outline.mem_definitionLines.mpr (.inr ⟨f, hf, rfl⟩))

/-- Functions are in order. -/
theorem Within.pairwise_functions (h : Within lo hi m) :
    (m.functions names).Pairwise fun f g => f.line < g.line := by
  induction h with
  | nil _ => exact List.Pairwise.nil
  | simple _ _ _ ih => exact ih
  | @define lo mid hi line kind name body next _ hb hn _ ih =>
    cases kind with
    | functionDef =>
      refine List.pairwise_cons.mpr ⟨fun g hg => ?_, ih⟩
      exact Nat.lt_of_le_of_lt hb.le (hn.function_bounds hg).1
    | classDef => exact ih
  | block _ _ _ ih => exact ih

/-- Classes are in order. -/
theorem Within.pairwise_classes (h : Within lo hi m) :
    (m.classes names).Pairwise fun c d => c.line < d.line := by
  induction h with
  | nil _ => exact List.Pairwise.nil
  | simple _ _ _ ih => exact ih
  | @define lo mid hi line kind name body next _ hb hn _ ih =>
    cases kind with
    | functionDef => exact ih
    | classDef =>
      refine List.pairwise_cons.mpr ⟨fun d hd => ?_, ih⟩
      exact Nat.lt_of_le_of_lt hb.le (hn.class_bounds hd).1
  | block _ _ _ ih => exact ih

/-- No class begins where a function does. -/
theorem Within.class_ne_function (h : Within lo hi m) :
    ∀ c ∈ m.classes names, ∀ f ∈ m.functions names, c.line ≠ f.line := by
  induction h with
  | nil _ => nofun
  | simple _ _ _ ih => exact ih
  | @define lo mid hi line kind name body next _ hb hn _ ih =>
    intro c hc f hf
    cases kind with
    | functionDef =>
      rcases List.mem_cons.mp hf with rfl | hf
      · exact Nat.ne_of_gt (Nat.lt_of_le_of_lt hb.le (hn.class_bounds hc).1)
      · exact ih c hc f hf
    | classDef =>
      rcases List.mem_cons.mp hc with rfl | hc
      · exact Nat.ne_of_lt (Nat.lt_of_le_of_lt hb.le (hn.function_bounds hf).1)
      · exact ih c hc f hf
  | block _ _ _ ih => exact ih

/-! ### Methods -/

/-- Whether the methods of a class are in order, between its line and those of the given lines that
are below it. -/
structure Encloses (hi : Nat) (lines : List Nat) (c : ClassEntry) : Prop where
  /-- Every method is below the one before it. -/
  pairwise : c.methods.Pairwise fun f g => f.line < g.line
  /-- The methods are below the class. -/
  below : ∀ f ∈ c.methods, c.line < f.line ∧ f.line ≤ hi
  /-- The methods are above what is below the class. -/
  above : ∀ f ∈ c.methods, ∀ l ∈ lines, c.line < l → f.line < l

theorem Within.encloses (h : Within lo hi m) :
    ∀ c ∈ m.classes names, Encloses hi (m.outline names).definitionLines c := by
  induction h with
  | nil _ => nofun
  | simple _ _ _ ih => exact ih
  | @define lo mid hi line kind name body next _ hb hn _ ih =>
    have htail (c : ClassEntry) (hc : c ∈ next.classes names) :
        Encloses hi ((Suite.define line kind name body next).outline names).definitionLines c := by
      refine ⟨(ih c hc).pairwise, (ih c hc).below, fun f hf l hl hlt => ?_⟩
      rcases (mem_definitionLines_define ..).mp hl with rfl | hnext
      · exact absurd hlt (Nat.lt_asymm (Nat.lt_of_le_of_lt hb.le (hn.class_bounds hc).1))
      · exact (ih c hc).above f hf l hnext hlt
    cases kind with
    | functionDef => exact htail
    | classDef =>
      intro c hc
      rcases List.mem_cons.mp hc with rfl | hc
      · refine ⟨hb.pairwise_functions, fun f hf => ?_, fun f hf l hl hlt => ?_⟩
        · exact ⟨(hb.function_bounds hf).1, Nat.le_trans (hb.function_bounds hf).2 hn.le⟩
        · rcases (mem_definitionLines_define ..).mp hl with rfl | hnext
          · exact absurd hlt (Nat.lt_irrefl _)
          · exact Nat.lt_of_le_of_lt (hb.function_bounds hf).2 (hn.definition_bounds l hnext).1
      · exact htail c hc
  | block _ _ _ ih => exact ih

/-! ### Outlines -/

theorem Within.isPlaced (h : Within lo hi m) : (m.outline names).IsPlaced hi where
  real l hl := by
    rcases Outline.mem_lines.mp hl with ⟨i, hi, rfl⟩ | hd | ⟨c, hc, f, hf, rfl⟩
    · exact ⟨(h.imports_bounds i hi).1, (h.imports_bounds i hi).2.2⟩
    · have hl := h.definition_bounds l hd
      exact ⟨Nat.lt_of_le_of_lt (Nat.zero_le lo) hl.1, hl.2⟩
    · have hl := (h.encloses c hc).below f hf
      exact ⟨Nat.lt_of_le_of_lt (Nat.zero_le c.line) hl.1, hl.2⟩
  imports := h.pairwise_imports
  classes := h.pairwise_classes
  functions := h.pairwise_functions
  methods c hc := (h.encloses c hc).pairwise
  nested c hc f hf := ⟨((h.encloses c hc).below f hf).1, (h.encloses c hc).above f hf⟩
  apart := h.class_ne_function

end Suite

namespace Outline

/-- How many lines a program has: one more than it has line feeds once its line ends are
normalized. -/
def lineCount (source : Text) : Nat := 1 + (Text.normalizeNewlines source).count '\n'

/-- What stands in a text is on one of its lines. -/
theorem isLine_lineOf (s : Text) (place : Nat) : IsLine (feeds s + 1) (lineOf s place) :=
  ⟨Nat.succ_pos _, Nat.succ_le_succ ((List.take_sublist place s).count_le '\n')⟩

/-- An error names a line of the program, an outline lines of it in order and nested. -/
theorem lines_ofText (r : Reader) (source : Text) :
    match ofText r source with
    | .error (.malformed line) => 1 ≤ line ∧ line ≤ lineCount source
    | .ok o => o.IsPlaced (lineCount source) := by
  have hcount : feeds (Text.normalizeNewlines source) + 1 = lineCount source := Nat.add_comm ..
  unfold ofText
  cases hp : Suite.parse (Text.normalizeNewlines source) with
  | error n => exact hcount ▸ isLine_lineOf ..
  | ok m =>
    have hm := hcount ▸ Suite.within_of_parse hp
    dsimp only
    cases hr : m.firstRejected false with
    | some n => exact hm.firstRejected_bounds false n hr
    | none => exact hm.isPlaced

/-- A definition is on the line of its own first word, not on that of a decorator. -/
example :
    let source := "import a, b\n@c\nclass D:\n    def e(): 0\n\ndef f(): 0".toList
    (ofText Reader.standard source).toOption.map lines = some [1, 1, 3, 6, 4] := by
  decide +kernel

end Outline

/-! ### The first error -/

theorem feeds_cons (c : Char) (s : Text) :
    feeds (c :: s) = feeds s + if c = '\n' then 1 else 0 := by
  simp only [feeds, List.count_cons, beq_iff_eq]

/-- What begins a line is on it, as far as there are lines. -/
theorem lineOf_lineStart (n : Nat) (s : Text) :
    lineOf s (lineStart n s) = max 1 (min n (feeds s + 1)) := by
  fun_induction lineStart n s with
  | case1 n =>
    have hline : lineOf [] 0 = 1 := rfl
    have hfeeds : feeds [] = 0 := rfl
    omega
  | case2 s hs | case3 s hs =>
    have hline : lineOf s 0 = 1 := rfl
    omega
  | case4 n c s ih =>
    have hline (p : Nat) : lineOf (c :: s) (1 + p) = lineOf s p + if c = '\n' then 1 else 0 := by
      rw [lineOf, Nat.add_comm 1, List.take_succ_cons, feeds_cons, lineOf]
      omega
    rw [hline, ih, feeds_cons]
    split <;> omega

/-- Unless many brackets are open at the end, the first error is on the line where reading stops or
on an earlier one where something opens that nothing closes. -/
theorem Reader.errorLine_standard {s : Text} {n : Nat} (h : Suite.parse s = .error n)
    (hopen : (Scanned.ofText s).nests.length < maxOpen) :
    standard.errorLine s = max 1 (stopLine (Scanned.ofText s) n) := by
  have hline := Suite.isLine_of_parse h
  have hstop : stopLine (Scanned.ofText s) n ≤ n :=
    Nat.le_trans (Nat.min_le_left ..) (Nat.min_le_left ..)
  have hplace : standard.recovery s = lineStart (stopLine (Scanned.ofText s) n) s := by
    simp only [standard, firstError, h, if_neg (Nat.not_le.mpr hopen)]
  rw [errorLine, hplace, lineOf_lineStart, Nat.min_eq_left (Nat.le_trans hstop hline.2)]

end CodeAtlas.Python
