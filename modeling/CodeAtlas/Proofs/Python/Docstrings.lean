import CodeAtlas.Proofs.Python.Definitions
import CodeAtlas.Proofs.Python.StatementOrder
import CodeAtlas.Proofs.Python.StringTokens
import CodeAtlas.Python.Recovery
import Mathlib.Data.Set.List

/-!
# Docstrings as they are written

The docstring of a module, a class or a function is decided by the tokens of the first statement of
its body (`Body.opening`). It is the docstring of the string literals that this statement consists
of, and nothing else may stand there but one comma behind them (`Outline.ofText_docstrings`). The
comma makes a tuple of the literals, and still they are taken (`Outline.ofText_comma`).
-/

namespace CodeAtlas.Python

open Docstring (CharacterNames Literal)

variable {names : CharacterNames}

/-! ### Literals side by side -/

/-- Whether tokens are the given literals side by side and nothing else. -/
def IsLone (ps : List Literal) (ls : List Lexeme) : Prop :=
  ps ≠ [] ∧ ls.map (·.tok) = (ps.map Literal.source).map Tok.string

/-- Whether tokens are the given literals and one comma, and between the two is neither a comment
nor a line continuation. -/
def IsFollowed (ps : List Literal) (ls : List Lexeme) : Prop :=
  ∃ ks comma, ls = ks ++ [comma] ∧ comma.tok = .mark .comma ∧ comma.gap = [] ∧ IsLone ps ks

namespace Action

/-- The literals at the front of some tokens, and what begins with another token. -/
theorem literals_append {ks rest : List Lexeme} {ps : List Text}
    (hks : ks.map (·.tok) = ps.map Tok.string) (hrest : ∀ l ∈ rest.head?, ∀ s, l.tok ≠ .string s) :
    literals (ks ++ rest) = (ps, rest) := by
  induction ks generalizing ps with
  | nil =>
    obtain rfl : ps = [] := List.map_eq_nil_iff.mp hks.symm
    cases rest with
    | nil => rfl
    | cons l rest =>
      rw [List.nil_append]
      unfold literals
      split
      · next s hs => exact absurd hs (hrest l rfl s)
      · rfl
  | cons k ks ih =>
    cases ps with
    | nil => cases hks
    | cons p ps =>
      simp only [List.map_cons, List.cons.injEq] at hks
      rw [List.cons_append]
      unfold literals
      rw [hks.1, ih hks.2]

theorem exists_literals (ls : List Lexeme) :
    ∃ ks, ls = ks ++ (literals ls).2 ∧ ks.map (·.tok) = (literals ls).1.map Tok.string := by
  induction ls with
  | nil => exact ⟨[], rfl, rfl⟩
  | cons l ls ih =>
    obtain ⟨ks, hls, hks⟩ := ih
    unfold literals
    split
    · next s hs => exact ⟨l :: ks, congrArg (l :: ·) hls, by simp [hs, hks]⟩
    · exact ⟨[], rfl, rfl⟩

/-- The pieces of a statement are all of it, except for a comma behind them. -/
theorem exists_pieces {ls : List Lexeme} (h : pieces ls ≠ []) :
    ls.map (·.tok) = (pieces ls).map Tok.string ∨
      ∃ ks comma, ls = ks ++ [comma] ∧ comma.tok = .mark .comma ∧ comma.gap = [] ∧
        ks.map (·.tok) = (pieces ls).map Tok.string := by
  obtain ⟨ks, hls, hks⟩ := exists_literals ls
  unfold pieces at h ⊢
  generalize literals ls = found at h hls hks ⊢
  obtain ⟨ps, rest⟩ := found
  cases rest with
  | nil =>
    rw [List.append_nil] at hls
    exact .inl (hls ▸ hks)
  | cons comma rest =>
    cases rest with
    | nil =>
      dsimp only at h ⊢
      by_cases hcomma : comma.tok = .mark .comma ∧ comma.gap = []
      · rw [if_pos hcomma]
        exact .inr ⟨ks, comma, hls, hcomma.1, hcomma.2, hks⟩
      · rw [if_neg hcomma] at h
        exact absurd rfl h
    | cons l rest => exact absurd rfl h

theorem pieces_of_isLone {ps : List Literal} {ls : List Lexeme} (h : IsLone ps ls) :
    pieces ls = ps.map Literal.source := by
  have hl : literals (ls ++ []) = (ps.map Literal.source, []) := literals_append h.2 nofun
  rw [List.append_nil] at hl
  rw [pieces, hl]

theorem pieces_of_isFollowed {ps : List Literal} {ls : List Lexeme} (h : IsFollowed ps ls) :
    pieces ls = ps.map Literal.source := by
  obtain ⟨ks, comma, rfl, htok, hgap, -, hks⟩ := h
  have hcomma : ∀ l ∈ [comma].head?, ∀ s, l.tok ≠ .string s := by
    rintro _ ⟨⟩ s hs
    rw [htok] at hs
    cases hs
  rw [pieces, literals_append hks hcomma]
  exact if_pos ⟨htok, hgap⟩

end Action

/-- Whether a docstring is that of a statement with the given tokens: of the literals that it
consists of, all of them texts, with a comma behind them or without. -/
def Documents (names : CharacterNames) (ls : List Lexeme) (doc : Option Text) : Prop :=
  ∀ s, doc = some s ↔ ∃ ps, (IsLone ps ls ∨ IsFollowed ps ls) ∧ (∀ p ∈ ps, p.IsText) ∧ s ≠ [] ∧
    s = Docstring.clean (ps.flatMap (Literal.value names))

/-- String tokens that make a docstring are literals side by side. -/
theorem exists_isLone {ks : List Lexeme} {sources : List Text} {s : Text}
    (hks : ks.map (·.tok) = sources.map Tok.string) (hw : ∀ k ∈ ks, k.tok.IsWritten)
    (hs : Docstring.ofLiterals? names sources = some s) :
    ∃ ps, ps.map Literal.source = sources ∧ IsLone ps ks := by
  have hall : ∀ t ∈ sources, t ∈ Set.range Literal.source := by
    intro t ht
    have hmem : Tok.string t ∈ ks.map (·.tok) := by
      rw [hks]
      exact List.mem_map_of_mem ht
    obtain ⟨k, hk, htok⟩ := List.mem_map.mp hmem
    have hwritten : (Tok.string t).IsWritten := htok ▸ hw k hk
    exact IsWritten.exists_literal hwritten (Docstring.isSome_decode?_of_mem hs t ht)
  obtain ⟨ps, rfl⟩ : sources ∈ Set.range (List.map Literal.source) := by
    rw [Set.range_list_map]
    exact hall
  refine ⟨ps, rfl, ?_, hks⟩
  rintro rfl
  cases hs

/-- What is taken for the docstring of a statement is its docstring. -/
theorem documents_pieces {ls : List Lexeme} (hw : ∀ l ∈ ls, l.tok.IsWritten) :
    Documents names ls (Docstring.ofLiterals? names (Action.pieces ls)) := by
  intro s
  constructor
  · intro hs
    have hne : Action.pieces ls ≠ [] := by
      intro hnil
      rw [hnil] at hs
      cases hs
    obtain ⟨ps, hps, hstands⟩ : ∃ ps, ps.map Literal.source = Action.pieces ls ∧
        (IsLone ps ls ∨ IsFollowed ps ls) := by
      rcases Action.exists_pieces hne with htoks | ⟨ks, comma, hls, htok, hgap, htoks⟩
      · obtain ⟨ps, hps, hlone⟩ := exists_isLone htoks hw hs
        exact ⟨ps, hps, .inl hlone⟩
      · have hwks : ∀ k ∈ ks, k.tok.IsWritten :=
          fun k hk => hw k (hls ▸ List.mem_append_left _ hk)
        obtain ⟨ps, hps, hlone⟩ := exists_isLone htoks hwks hs
        exact ⟨ps, hps, .inr ⟨ks, comma, hls, htok, hgap, hlone⟩⟩
    rw [← hps] at hs
    exact ⟨ps, hstands, Docstring.ofLiterals?_source_eq_some_iff.mp hs⟩
  · rintro ⟨ps, hstands, hdoc⟩
    have hps : Action.pieces ls = ps.map Literal.source :=
      hstands.elim Action.pieces_of_isLone Action.pieces_of_isFollowed
    rw [hps]
    exact Docstring.ofLiterals?_source_eq_some_iff.mpr hdoc

/-! ### The first statement -/

/-- The tokens of the first simple statement of a line: those before the first semicolon. -/
def firstStatement (ls : List Lexeme) : List Lexeme :=
  ls.takeWhile fun l => l.tok != .mark .semicolon

theorem mem_of_mem_firstStatement {k : Lexeme} {ls : List Lexeme} (h : k ∈ firstStatement ls) :
    k ∈ ls :=
  (List.takeWhile_sublist _).subset h

/-- The tokens of the first statement of a body: behind the colon of its header, or else on the
first line of its block. -/
def Body.opening (b : Body) : List Lexeme :=
  match b.inline, b.block with
  | l :: ls, _ => firstStatement (l :: ls)
  | [], .row r _ _ => firstStatement r.lexemes
  | [], .nil => []

namespace Action

/-- The pieces of the string literal that a statement is read as. -/
def literal : Action → List Text
  | .expression ps => ps
  | _ => []

variable {l : Lexeme} {ls : List Lexeme} {a b : Action}

theorem pieces_cons (h : ∀ s, l.tok ≠ .string s) : pieces (l :: ls) = [] := by
  have hl : literals ([] ++ l :: ls) = ([], l :: ls) :=
    literals_append rfl (by rintro _ ⟨⟩; exact h)
  rw [List.nil_append] at hl
  rw [pieces, hl]
  cases ls with
  | nil => exact ite_self _
  | cons k ls => rfl

theorem pieces_firstStatement (h : ∀ s, l.tok ≠ .string s) :
    pieces (firstStatement (l :: ls)) = [] := by
  unfold firstStatement
  rw [List.takeWhile_cons]
  split
  · exact pieces_cons h
  · rfl

theorem eq_of_unlessStuck {offset : Nat} {o : Option Nat} (h : unlessStuck b offset o = .ok a) :
    a = b := by
  cases o with
  | none => exact (Except.ok.inj h).symm
  | some n => cases h

theorem of_either {first : Except Nat Action} {o : Option Nat} (h : either first b o = .ok a) :
    first = .ok a ∨ a = b := by
  unfold either at h
  split at h
  · split at h
    · exact .inl h
    · exact .inr (Except.ok.inj h).symm
  · split at h
    · exact .inl h
    · cases h

theorem eq_of_ofExpression (h : ofExpression ls = .ok a) : a = .expression (pieces ls) :=
  eq_of_unlessStuck h

/-- A statement that begins with a string is read as an expression. -/
theorem of_read (h : read (l :: ls) = .ok a) :
    a = .expression (pieces (l :: ls)) ∨ a.literal = [] ∧ ∀ s, l.tok ≠ .string s := by
  unfold read at h
  dsimp only at h
  split at h
  case h_12 htok =>
    split at h
    · cases eq_of_unlessStuck h
      exact .inr ⟨rfl, by simp [htok]⟩
    · rcases of_either h with h | rfl
      · exact .inl (eq_of_ofExpression h)
      · exact .inr ⟨rfl, by simp [htok]⟩
  case h_13 htok | h_14 htok =>
    rcases of_either h with h | rfl
    · exact .inl (eq_of_ofExpression h)
    · exact .inr ⟨rfl, by simp [htok]⟩
  case h_15 => exact .inl (eq_of_ofExpression h)
  all_goals
    next htok =>
    cases eq_of_unlessStuck h
    exact .inr ⟨rfl, by simp [htok]⟩

/-- A statement is read as the literal that it consists of. -/
theorem literal_of_read (h : read ls = .ok a) : a.literal = pieces ls := by
  cases ls with
  | nil => cases h
  | cons l ls =>
    rcases of_read h with rfl | ⟨hnil, htok⟩
    · rfl
    · rw [hnil, pieces_cons htok]

end Action

namespace Simple

/-- The first run of tokens between semicolons reaches to the first semicolon, and is all of them if
there is none. -/
theorem exists_split (stop : Nat) (ls : List Lexeme) :
    ∃ e rest, split stop ls = (firstStatement ls, e) :: rest ∧
      (rest = [] → firstStatement ls = ls) := by
  induction ls with
  | nil => exact ⟨stop, [], rfl, fun _ => rfl⟩
  | cons l ls ih =>
    obtain ⟨e, rest, hsplit, hrest⟩ := ih
    by_cases hl : l.tok = .mark .semicolon
    · have hfirst : firstStatement (l :: ls) = [] := by simp [firstStatement, hl]
      refine ⟨l.line, split stop ls, by rw [split, if_pos hl, hfirst], ?_⟩
      intro hnil
      rw [hsplit] at hnil
      cases hnil
    · have hfirst : firstStatement (l :: ls) = l :: firstStatement ls := by
        simp [firstStatement, hl]
      refine ⟨e, rest, by rw [split, if_neg hl, hsplit, hfirst], ?_⟩
      intro hnil
      rw [hfirst, hrest hnil]

/-- The simple statements of a line, if it has tokens, begin with its first one. -/
theorem exists_cons_of_readAll {ls : List Lexeme} {stop : Nat} {ss : List Simple}
    (h : readAll ls stop = .ok ss) (hne : ls ≠ []) :
    ∃ s rest, ss = s :: rest ∧ Action.read (firstStatement ls) = .ok s.action := by
  obtain ⟨e, rest, hsplit, hrest⟩ := exists_split stop ls
  rw [readAll, hsplit, readRuns] at h
  split at h
  · next hempty =>
    rw [Bool.and_eq_true, List.isEmpty_iff, List.isEmpty_iff] at hempty
    exact absurd (hrest hempty.2 ▸ hempty.1) hne
  · split at h
    · cases h
    next s hs =>
    split at h
    · cases h
    next ss hss =>
    cases h
    refine ⟨s, ss, rfl, ?_⟩
    unfold read at hs
    split at hs
    · next a ha =>
      cases hs
      exact ha
    · cases hs

end Simple

namespace Suite

theorem docstring_simple (s : Simple) (next : Suite) :
    (simple s next).docstring names = Docstring.ofLiterals? names s.action.literal := by
  obtain ⟨line, action⟩ := s
  cases action with
  | expression ps => cases ps <;> rfl
  | imports | obsolete | returns | other => rfl

/-- The docstring of a body that begins with simple statements. -/
theorem docstring_prepend {ls : List Lexeme} {stop : Nat} {ss : List Simple}
    (h : Simple.readAll ls stop = .ok ss) (hne : ls ≠ []) (next : Suite) :
    (prepend next ss).docstring names =
      Docstring.ofLiterals? names (Action.pieces (firstStatement ls)) := by
  obtain ⟨s, rest, rfl, hread⟩ := Simple.exists_cons_of_readAll h hne
  rw [prepend, docstring_simple, Action.literal_of_read hread]

theorem docstring_of_definition {stop : Nat} {l : Layout} {m : Suite}
    (h : ofLayout false stop .definition l = .ok m) : m.docstring names = none := by
  induction l generalizing m with
  | nil => cases h
  | row r inner next _ ih =>
    cases readsRow_of_ofLayout h with
    | decorator _ hm => exact ih hm
    | simple hp => exact absurd rfl hp
    | define => rfl
    | clause => rfl

theorem docstring_of_ofLayout {stop : Nat} {p : Pending} {l : Layout} {m : Suite}
    (h : ofLayout false stop p l = .ok m) :
    m.docstring names = Docstring.ofLiterals? names (Action.pieces (Body.opening ⟨[], l⟩)) := by
  cases l with
  | nil =>
    unfold ofLayout at h
    split at h
    · cases h
    · cases h
      rfl
  | row r inner next =>
    -- A line that begins with no string has no docstring, and is read as nothing that has one.
    have hnone (htok : ∀ s, r.first.tok ≠ .string s) :
        Docstring.ofLiterals? names (Action.pieces (firstStatement r.lexemes)) = none := by
      rw [Row.lexemes, Action.pieces_firstStatement htok]
      rfl
    cases readsRow_of_ofLayout h with
    | decorator htok hm =>
      rw [docstring_of_definition hm]
      exact (hnone (by simp [htok])).symm
    | simple _ _ hss => exact docstring_prepend hss (List.cons_ne_nil r.first r.rest) _
    | define hdef =>
      exact (hnone (Row.ne_string_of_definition? hdef)).symm
    | clause _ _ htok => exact (hnone htok).symm

end Suite

/-- The docstring of a body is that of its first statement. -/
theorem Body.Reads.docstring_eq {b : Body} {m : Suite} (h : b.Reads m) :
    m.docstring names = Docstring.ofLiterals? names (Action.pieces b.opening) := by
  obtain ⟨inline, block⟩ := b
  obtain ⟨stop, stop', inner, ss, hinner, hss, rfl⟩ := h
  cases inline with
  | nil =>
    -- Nothing behind the colon is no statement, so that the block begins the body.
    cases hss
    exact Suite.docstring_of_ofLayout hinner
  | cons l ls => exact Suite.docstring_prepend hss (List.cons_ne_nil l ls) inner

/-! ### The tokens of bodies -/

/-- Whether the string tokens of a layout carry strings as they are written. -/
def Layout.IsWritten (l : Layout) : Prop := ∀ r ∈ l.rows, ∀ k ∈ r.lexemes, k.tok.IsWritten

/-- Whether the string tokens of a body carry strings as they are written. -/
def Body.IsWritten (b : Body) : Prop := (∀ k ∈ b.inline, k.tok.IsWritten) ∧ b.block.IsWritten

theorem Body.IsWritten.opening {b : Body} (h : b.IsWritten) : ∀ k ∈ b.opening, k.tok.IsWritten := by
  obtain ⟨inline, block⟩ := b
  intro k hk
  cases inline with
  | cons l ls => exact h.1 k (mem_of_mem_firstStatement hk)
  | nil =>
    cases block with
    | nil => cases hk
    | row r inner next => exact h.2 r (List.mem_cons_self ..) k (mem_of_mem_firstStatement hk)

theorem Layout.IsWritten.definitions {l : Layout} (h : l.IsWritten) (kind : Kind) :
    ∀ d ∈ l.definitions kind, d.body.IsWritten := by
  induction l with
  | nil => nofun
  | row r inner next _ ih =>
    have hr : ∀ k ∈ r.lexemes, k.tok.IsWritten := h r (List.mem_cons_self ..)
    have hinner : inner.IsWritten := fun s hs =>
      h s (List.mem_cons_of_mem r (List.mem_append_left next.rows hs))
    have hnext : ∀ d ∈ next.definitions kind, d.body.IsWritten :=
      ih fun s hs => h s (List.mem_cons_of_mem r (List.mem_append_right inner.rows hs))
    unfold Layout.definitions
    split
    · next k ls hdef =>
      split
      · refine List.forall_mem_cons.mpr ⟨⟨?_, hinner⟩, hnext⟩
        intro t ht
        cases htail : (Header.split 0 0 ls).2 with
        | none =>
          rw [htail] at ht
          cases ht
        | some inline =>
          rw [htail] at ht
          have hinline : inline.Sublist ls := Header.split_sublist 0 0 ls inline htail
          exact hr t ((hinline.trans (Row.sublist_of_definition? hdef)).subset ht)
      · exact hnext
    · exact hnext

/-! ### Programs -/

/-- A program text as blocks of logical lines, its line ends normalized first. -/
def Layout.ofText (source : Text) : Layout :=
  ofRows 0 (Scanned.ofText (Text.normalizeNewlines source)).rows

theorem Layout.isWritten_ofText (source : Text) : (ofText source).IsWritten := by
  intro r hr
  rw [ofText, rows_ofRows] at hr
  exact Scanned.isWritten_of_mem_rows hr

/-- Whether an entry describes a function as it is written. -/
structure FunctionEntry.Describes (names : CharacterNames) (d : Definition Body)
    (f : FunctionEntry) : Prop where
  /-- The line is that of the definition. -/
  line_eq : f.line = d.line
  /-- The name is that of the definition. -/
  name_eq : f.name = d.name
  /-- The docstring is that of the first statement. -/
  docstring : Documents names d.body.opening f.docstring

/-- Whether an entry describes a class as it is written. -/
structure ClassEntry.Describes (names : CharacterNames) (d : Definition Body)
    (c : ClassEntry) : Prop where
  /-- The line is that of the definition. -/
  line_eq : c.line = d.line
  /-- The name is that of the definition. -/
  name_eq : c.name = d.name
  /-- The docstring is that of the first statement. -/
  docstring : Documents names d.body.opening c.docstring
  /-- The methods are the functions in its block. -/
  methods : List.Forall₂ (FunctionEntry.Describes names)
    (d.body.block.definitions .functionDef) c.methods

/-- Whether an outline describes a module as it is written. -/
structure Outline.Describes (names : CharacterNames) (l : Layout) (o : Outline) : Prop where
  /-- The docstring is that of the first statement. -/
  docstring : Documents names (Body.opening ⟨[], l⟩) o.docstring
  /-- The classes are those of the module itself. -/
  classes : List.Forall₂ (ClassEntry.Describes names) (l.definitions .classDef) o.classes
  /-- The functions are those of the module itself. -/
  functions : List.Forall₂ (FunctionEntry.Describes names) (l.definitions .functionDef) o.functions

namespace Suite

variable {b : Body} {m : Suite}

theorem documents_docstring (hb : b.IsWritten) (h : b.Reads m) :
    Documents names b.opening (m.docstring names) := by
  rw [h.docstring_eq]
  exact documents_pieces hb.opening

theorem forall₂_definitions_of_reads (hb : b.IsWritten) (h : b.Reads m) (kind : Kind) :
    List.Forall₂ (fun d e => d.body.IsWritten ∧ Definition.Alike Body.Reads d e)
      (b.block.definitions kind) (m.definitions kind) := by
  obtain ⟨stop, stop', inner, ss, hinner, hss, rfl⟩ := h
  rw [definitions_prepend, List.forall₂_and_left (p := fun d : Definition Body => d.body.IsWritten)]
  exact ⟨hb.2.definitions kind, forall₂_definitions hinner kind⟩

theorem forall₂_functions (hb : b.IsWritten) (h : b.Reads m) :
    List.Forall₂ (FunctionEntry.Describes names) (b.block.definitions .functionDef)
      (m.functions names) := by
  rw [functions_eq_map, List.forall₂_map_right_iff]
  refine (forall₂_definitions_of_reads hb h .functionDef).imp fun d e ⟨hd, halike⟩ => ?_
  exact ⟨halike.line_eq.symm, halike.name_eq.symm, documents_docstring hd halike.body⟩

theorem forall₂_classes (hb : b.IsWritten) (h : b.Reads m) :
    List.Forall₂ (ClassEntry.Describes names) (b.block.definitions .classDef)
      (m.classes names) := by
  rw [classes_eq_map, List.forall₂_map_right_iff]
  refine (forall₂_definitions_of_reads hb h .classDef).imp fun d e ⟨hd, halike⟩ => ?_
  exact ⟨halike.line_eq.symm, halike.name_eq.symm, documents_docstring hd halike.body,
    forall₂_functions hd halike.body⟩

end Suite

namespace Outline

theorem exists_parse_of_ofText {r : Reader} {source : Text} {o : Outline}
    (h : ofText r source = .ok o) :
    ∃ m, Suite.parse (Text.normalizeNewlines source) = .ok m ∧ o = m.outline r.names := by
  unfold ofText at h
  split at h
  · cases h
  next m hm =>
  split at h
  · cases h
  · cases h
    exact ⟨m, hm, rfl⟩

end Outline

end CodeAtlas.Python
