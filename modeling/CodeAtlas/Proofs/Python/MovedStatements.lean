import CodeAtlas.Proofs.Python.MovedTokens
import CodeAtlas.Python.Outline
import Mathlib.Tactic.SplitIfs

/-!
# Reading statements further down

What a logical line is depends on its tokens, not on their lines; the lines only come out again, as
those of statements and of errors. So logical lines further down are read as the same forms
(`Row.form_moveDown`), and their blocks as the same suite (`Suite.ofLayout_moveDown`), with all
lines moved down.
-/

namespace CodeAtlas.Python

variable {k : Nat}

/-- An answer moved down: the line of an error, or what a result has of lines. -/
def answerDown {α β : Type} (k : Nat) (f : α → β) : Except Nat α → Except Nat β
  | .error n => .error (n + k)
  | .ok a => .ok (f a)

@[simp] theorem map_tok_moveDown (ls : List Lexeme) :
    (ls.map (Lexeme.moveDown k)).map (·.tok) = ls.map (·.tok) := by
  rw [List.map_map]
  rfl

theorem head?_tok_moveDown (ls : List Lexeme) :
    (ls.map (Lexeme.moveDown k)).head?.map (·.tok) = ls.head?.map (·.tok) := by
  cases ls <;> rfl

theorem lineAt_moveDown (ls : List Lexeme) (stop n : Nat) :
    lineAt (ls.map (Lexeme.moveDown k)) (stop + k) n = lineAt ls stop n + k := by
  unfold lineAt
  rw [List.getElem?_map]
  cases ls[n]? <;> rfl

/-! ### Imported names -/

namespace Import

theorem dottedRest_moveDown (ls : List Lexeme) :
    dottedRest (ls.map (Lexeme.moveDown k)) =
      ((dottedRest ls).1, (dottedRest ls).2.map (Lexeme.moveDown k)) := by
  fun_induction dottedRest ls with
  | case1 d w ls hdot s hword parts rest hrest ih =>
    rw [List.map_cons, List.map_cons, dottedRest, Lexeme.moveDown_tok, if_pos hdot]
    simp only [Lexeme.moveDown_tok, Lexeme.moveDown_gap, hword, ih, hrest]
  | case2 d w ls hdot hword =>
    rw [List.map_cons, List.map_cons, dottedRest, Lexeme.moveDown_tok, if_pos hdot]
    simp only [Lexeme.moveDown_tok, hword]
  | case3 d w ls hdot =>
    rw [List.map_cons, List.map_cons, dottedRest, Lexeme.moveDown_tok, if_neg hdot]
  | case4 ls hls =>
    match ls, hls with
    | [], _ | [_], _ => rfl
    | d :: w :: ls, hls => exact (hls d w ls rfl).elim

theorem dotted?_moveDown (ls : List Lexeme) :
    dotted? (ls.map (Lexeme.moveDown k)) =
      (dotted? ls).map fun p => (p.1, p.2.map (Lexeme.moveDown k)) := by
  cases ls with
  | nil => rfl
  | cons w ls =>
    rw [List.map_cons, dotted?, dotted?, dottedRest_moveDown, Lexeme.moveDown_tok]
    cases w.tok.word? <;> rfl

theorem pieces_map {α β : Type} (p : β → Bool) (f : α → β) (as : List α) :
    pieces p (as.map f) = (pieces (fun a => p (f a)) as).map (List.map f) := by
  induction as with
  | nil => rfl
  | cons a as ih =>
    rw [List.map_cons, pieces, pieces, ih]
    split
    · rfl
    · cases pieces (fun a => p (f a)) as <;> rfl

theorem namesOf_moveDown (ls : List Lexeme) :
    namesOf (ls.map (Lexeme.moveDown k)) = namesOf ls := by
  rw [namesOf, pieces_map, List.filterMap_map, namesOf]
  congr 1
  funext p
  rw [Function.comp_apply, dotted?_moveDown]
  cases dotted? p <;> rfl

theorem unbracket_moveDown (ls : List Lexeme) :
    unbracket (ls.map (Lexeme.moveDown k)) = (unbracket ls).map (Lexeme.moveDown k) := by
  cases ls with
  | nil => rfl
  | cons l ls =>
    rw [List.map_cons, unbracket, unbracket, Lexeme.moveDown_tok]
    split
    · rw [List.map_dropLast]
    · rfl

theorem moduleOf_moveDown (ls : List Lexeme) :
    moduleOf (ls.map (Lexeme.moveDown k)) =
      ((moduleOf ls).1, (moduleOf ls).2.map (Lexeme.moveDown k)) := by
  have hrest : (ls.map (Lexeme.moveDown k)).dropWhile
        (fun l => l.tok == .mark .dot || l.tok == .mark .ellipsis) =
      (ls.dropWhile fun l => l.tok == .mark .dot || l.tok == .mark .ellipsis).map
        (Lexeme.moveDown k) := List.dropWhile_map ..
  unfold moduleOf
  simp only [hrest, List.length_map]
  generalize ls.dropWhile (fun l => l.tok == .mark .dot || l.tok == .mark .ellipsis) = rest
  rw [head?_tok_moveDown]
  split
  · rw [List.map_drop]
  · rw [dotted?_moveDown]
    cases dotted? rest with
    | none => rfl
    | some p => rw [Option.map_some, List.map_drop]

theorem fromNames_moveDown (ls : List Lexeme) :
    fromNames (ls.map (Lexeme.moveDown k)) = fromNames ls := by
  rw [fromNames, fromNames, moduleOf_moveDown]
  simp only [head?_tok_moveDown, unbracket_moveDown, namesOf_moveDown]

end Import

/-! ### Simple statements -/

namespace Action

theorem literals_moveDown (ls : List Lexeme) :
    literals (ls.map (Lexeme.moveDown k)) =
      ((literals ls).1, (literals ls).2.map (Lexeme.moveDown k)) := by
  induction ls with
  | nil => rfl
  | cons l ls ih =>
    rw [List.map_cons, literals, literals, Lexeme.moveDown_tok]
    cases l.tok with
    | string s => simp only [ih]
    | _ => rfl

theorem pieces_moveDown (ls : List Lexeme) :
    pieces (ls.map (Lexeme.moveDown k)) = pieces ls := by
  unfold pieces
  rw [literals_moveDown]
  generalize literals ls = p
  match p with
  | (_, []) | (_, [_]) | (_, _ :: _ :: _) => rfl

theorem ofExpression_moveDown (ls : List Lexeme) :
    ofExpression (ls.map (Lexeme.moveDown k)) = ofExpression ls := by
  rw [ofExpression, ofExpression, pieces_moveDown, map_tok_moveDown]

/-- What a statement means, and where it is stuck, does not depend on lines. -/
theorem read_moveDown (ls : List Lexeme) : read (ls.map (Lexeme.moveDown k)) = read ls := by
  cases ls with
  | nil => rfl
  | cons l rest =>
    have hexpr := ofExpression_moveDown (k := k) (l :: rest)
    have hplain : Import.plainNames (rest.map (Lexeme.moveDown k)) = Import.plainNames rest :=
      Import.namesOf_moveDown rest
    have hfrom := Import.fromNames_moveDown (k := k) rest
    rw [List.map_cons] at hexpr ⊢
    simp only [read, map_tok_moveDown, Lexeme.moveDown_tok, hexpr, hplain, hfrom]

end Action

/-- A simple statement some lines further down. -/
def Simple.moveDown (k : Nat) (s : Simple) : Simple := { s with line := s.line + k }

namespace Simple

theorem read_moveDown (ls : List Lexeme) (stop : Nat) :
    read (ls.map (Lexeme.moveDown k)) (stop + k) = answerDown k (moveDown k) (read ls stop) := by
  unfold read
  rw [Action.read_moveDown]
  cases Action.read ls <;> simp only [lineAt_moveDown, answerDown, moveDown]

theorem split_moveDown (ls : List Lexeme) (stop : Nat) :
    split (stop + k) (ls.map (Lexeme.moveDown k)) =
      (split stop ls).map fun p => (p.1.map (Lexeme.moveDown k), p.2 + k) := by
  induction ls with
  | nil => rfl
  | cons l ls ih =>
    rw [List.map_cons, split, split, ih, Lexeme.moveDown_tok]
    split
    · rfl
    · cases split stop ls <;> rfl

theorem readRuns_moveDown (runs : List (List Lexeme × Nat)) :
    readRuns (runs.map fun p => (p.1.map (Lexeme.moveDown k), p.2 + k)) =
      answerDown k (List.map (moveDown k)) (readRuns runs) := by
  induction runs with
  | nil => rfl
  | cons run rest ih =>
    obtain ⟨p, e⟩ := run
    rw [List.map_cons, readRuns, readRuns, List.isEmpty_map, List.isEmpty_map, read_moveDown, ih]
    split
    · rfl
    · cases read p e with
      | error n => rfl
      | ok s => cases readRuns rest <;> rfl

theorem readAll_moveDown (ls : List Lexeme) (stop : Nat) :
    readAll (ls.map (Lexeme.moveDown k)) (stop + k) =
      answerDown k (List.map (moveDown k)) (readAll ls stop) := by
  rw [readAll, readAll, split_moveDown, readRuns_moveDown]

end Simple

/-! ### Logical lines -/

/-- What a logical line is, some lines further down. -/
def Form.moveDown (k : Nat) : Form → Form
  | .decorator => .decorator
  | .simple ss => .simple (ss.map (Simple.moveDown k))
  | .header h ss => .header h (ss.map (Simple.moveDown k))

namespace Header

theorem split_moveDown (depth lambdas : Nat) (ls : List Lexeme) :
    split depth lambdas (ls.map (Lexeme.moveDown k)) =
      ((split depth lambdas ls).1.map (Lexeme.moveDown k),
        (split depth lambdas ls).2.map (List.map (Lexeme.moveDown k))) := by
  induction ls generalizing depth lambdas with
  | nil => rfl
  | cons l ls ih =>
    rw [List.map_cons, split, split, Lexeme.moveDown_tok]
    simp only [ih]
    split
    any_goals rfl
    split_ifs <;> rfl

theorem read_moveDown (h : Header) (stuckAt : List Tok → Option Nat) (ls : List Lexeme)
    (stop : Nat) :
    read h stuckAt (ls.map (Lexeme.moveDown k)) (stop + k) =
      answerDown k (Form.moveDown k) (read h stuckAt ls stop) := by
  unfold read
  rw [split_moveDown]
  generalize split 0 0 ls = parts
  obtain ⟨middle, tail⟩ := parts
  dsimp only
  rw [map_tok_moveDown]
  cases stuckAt (middle.map (·.tok)) with
  | some n => exact congrArg Except.error (lineAt_moveDown ls stop n)
  | none =>
    match tail with
    | none | some [] => rfl
    | some (l :: inline) =>
      have hall := Simple.readAll_moveDown (k := k) (l :: inline) stop
      rw [List.map_cons] at hall
      simp only [Option.map_some, List.map_cons, hall]
      cases Simple.readAll (l :: inline) stop <;> rfl

theorem matchStuckAt_moveDown (ls : List Lexeme) :
    matchStuckAt (ls.map (Lexeme.moveDown k)) = matchStuckAt ls := by
  unfold matchStuckAt
  rw [split_moveDown]
  generalize split 0 0 ls = parts
  obtain ⟨middle, tail⟩ := parts
  dsimp only
  rw [map_tok_moveDown, List.length_map, List.length_map]
  cases Expression.stuckAt .many (.element false) (middle.map (·.tok)) with
  | some n => rfl
  | none =>
    match tail with
    | none | some [] | some (_ :: _) => rfl

theorem definedName_moveDown (ls : List Lexeme) :
    definedName (ls.map (Lexeme.moveDown k)) = definedName ls := by
  cases ls <;> rfl

theorem ofKeyword?_moveDown (kw : Keyword) (ls : List Lexeme) (stop : Nat) :
    ofKeyword? kw (ls.map (Lexeme.moveDown k)) (stop + k) =
      (ofKeyword? kw ls stop).map (answerDown k (Form.moveDown k)) := by
  cases kw <;>
    simp only [ofKeyword?, read_moveDown, definedName_moveDown, Option.map_some, Option.map_none]

end Header

namespace Row

@[simp] theorem moveDown_rest (r : Row) :
    (r.moveDown k).rest = r.rest.map (Lexeme.moveDown k) := rfl

@[simp] theorem moveDown_first (r : Row) : (r.moveDown k).first = r.first.moveDown k := rfl

@[simp] theorem moveDown_stop (r : Row) : (r.moveDown k).stop = r.stop + k := rfl

@[simp] theorem moveDown_indent (r : Row) : (r.moveDown k).indent = r.indent := rfl

@[simp] theorem moveDown_line (r : Row) : (r.moveDown k).line = r.line + k := rfl

theorem readSimple_moveDown (r : Row) :
    (r.moveDown k).readSimple = answerDown k (Form.moveDown k) r.readSimple := by
  have hall : Simple.readAll (r.moveDown k).lexemes (r.moveDown k).stop =
      answerDown k (List.map (Simple.moveDown k)) (Simple.readAll r.lexemes r.stop) :=
    Simple.readAll_moveDown r.lexemes r.stop
  unfold readSimple
  rw [hall]
  cases Simple.readAll r.lexemes r.stop <;> rfl

theorem readDecorator_moveDown (r : Row) :
    (r.moveDown k).readDecorator = answerDown k (Form.moveDown k) r.readDecorator := by
  unfold readDecorator
  rw [moveDown_rest, map_tok_moveDown]
  cases Expression.stuckAt .one (.operand true true) (r.rest.map (·.tok)) with
  | none => rfl
  | some n => exact congrArg Except.error (lineAt_moveDown r.rest r.stop n)

theorem readMatch_moveDown (r : Row) :
    (r.moveDown k).readMatch = answerDown k (Form.moveDown k) r.readMatch := by
  unfold readMatch
  rw [moveDown_rest, Header.matchStuckAt_moveDown, readSimple_moveDown]
  cases Header.matchStuckAt r.rest with
  | none => rfl
  | some n =>
    cases r.readSimple with
    | ok f => rfl
    | error m =>
      simp only [answerDown, moveDown_stop, lineAt_moveDown, Nat.add_max_add_right]

theorem readAsync_moveDown (r : Row) :
    (r.moveDown k).readAsync = answerDown k (Form.moveDown k) r.readAsync := by
  unfold readAsync
  rw [moveDown_rest, readSimple_moveDown]
  cases r.rest with
  | nil => rfl
  | cons l ls =>
    simp only [List.map_cons, Lexeme.moveDown_tok, moveDown_stop, Header.read_moveDown,
      Header.definedName_moveDown]
    split <;> rfl

/-- A logical line is the same wherever it stands. -/
theorem form_moveDown (r : Row) (inMatch : Bool) :
    (r.moveDown k).form inMatch = answerDown k (Form.moveDown k) (r.form inMatch) := by
  unfold form
  simp only [moveDown_first, moveDown_rest, moveDown_stop, moveDown_line, Lexeme.moveDown_tok,
    Header.read_moveDown, readDecorator_moveDown, readMatch_moveDown, readAsync_moveDown,
    readSimple_moveDown, Header.ofKeyword?_moveDown]
  split
  · split <;> rfl
  · split
    any_goals rfl
    next kw _ => cases Header.ofKeyword? kw r.rest r.stop <;> rfl

end Row

/-! ### Blocks -/

namespace Layout

/-- Logical lines in blocks, some lines further down. -/
def moveDown (k : Nat) : Layout → Layout
  | .nil => .nil
  | .row r inner next => .row (r.moveDown k) (moveDown k inner) (moveDown k next)

theorem opens_moveDown (r : Row) : (r.moveDown k).opens = r.opens := by
  have hlexemes : (r.moveDown k).lexemes = r.lexemes.map (Lexeme.moveDown k) := rfl
  rw [Row.opens, Row.opens, hlexemes, List.getLast?_map, Option.map_map]
  rfl

theorem ofRows_moveDown (width : Nat) (rs : List Row) :
    ofRows width (rs.map (Row.moveDown k)) = (ofRows width rs).moveDown k := by
  fun_induction ofRows width rs with
  | case1 width => rw [List.map_nil, ofRows, moveDown]
  | case2 width r rs hrs =>
    obtain rfl := List.head?_eq_none_iff.mp hrs
    rw [List.map_cons, List.map_nil, ofRows]
    rfl
  | case3 width r rs s hs hopens ih₁ ih₂ =>
    rw [List.map_cons, ofRows, List.head?_map, hs]
    simp only [Option.map_some, opens_moveDown, Row.moveDown_indent, List.takeWhile_map,
      List.dropWhile_map]
    rw [if_pos hopens]
    rw [moveDown, ← ih₁, ← ih₂]
    rfl
  | case4 width r rs s hs hopens ih =>
    rw [List.map_cons, ofRows, List.head?_map, hs]
    simp only [Option.map_some, opens_moveDown, Row.moveDown_indent]
    rw [if_neg hopens, ih]
    rfl

theorem lineOr_moveDown (l : Layout) (stop : Nat) :
    (l.moveDown k).lineOr (stop + k) = l.lineOr stop + k := by
  cases l <;> rfl

end Layout

namespace Suite

/-- A sequence of statements some lines further down. -/
def moveDown (k : Nat) : Suite → Suite
  | .nil => .nil
  | .simple s next => .simple (s.moveDown k) (moveDown k next)
  | .define line kind name body next =>
    .define (line + k) kind name (moveDown k body) (moveDown k next)
  | .block body next => .block (moveDown k body) (moveDown k next)

theorem prepend_moveDown (next : Suite) (ss : List Simple) :
    prepend (next.moveDown k) (ss.map (Simple.moveDown k)) = (prepend next ss).moveDown k := by
  induction ss with
  | nil => rfl
  | cons s ss ih => rw [List.map_cons, prepend, prepend, ih, moveDown]

theorem Pending.accept_moveDown (p : Pending) (f : Form) :
    p.accept (f.moveDown k) = p.accept f := by
  cases f with
  | decorator => rfl
  | simple ss =>
    match p with
    | .none | .branch | .otherwise | .handler | .handled true | .handled false | .final
    | .definition => rfl
  | header h inline =>
    match p with
    | .none | .branch | .otherwise | .handler | .handled true | .handled false | .final
    | .definition => cases h <;> rfl

/-- Blocks further down are read as the same suite, further down. -/
theorem ofLayout_moveDown (inMatch : Bool) (stop : Nat) (p : Pending) (l : Layout) :
    ofLayout inMatch (stop + k) p (l.moveDown k) =
      answerDown k (moveDown k) (ofLayout inMatch stop p l) := by
  induction l generalizing inMatch stop p with
  | nil =>
    rw [Layout.moveDown, ofLayout, ofLayout]
    split <;> rfl
  | row r inner next ihi ihn =>
    rw [Layout.moveDown, ofLayout, ofLayout, Row.form_moveDown]
    cases r.form inMatch with
    | error n =>
      have hallows : p.allows (r.moveDown k).first.tok = p.allows r.first.tok := rfl
      dsimp only [answerDown]
      rw [hallows]
      cases p.allows r.first.tok <;> rfl
    | ok f =>
      simp only [answerDown, Pending.accept_moveDown]
      cases p.accept f with
      | none => rfl
      | some p' =>
        cases f with
        | decorator => exact ihn ..
        | simple ss =>
          simp only [Form.moveDown, ihn]
          cases ofLayout inMatch stop p' next with
          | error n => rfl
          | ok m => exact congrArg Except.ok (prepend_moveDown m ss)
        | header h inline =>
          simp only [Form.moveDown, Layout.lineOr_moveDown, ihi, ihn]
          cases ofLayout (h == .matchH) (next.lineOr stop) .none inner with
          | error n => rfl
          | ok body =>
            cases ofLayout inMatch stop p' next with
            | error n => rfl
            | ok rest =>
              simp only [answerDown, prepend_moveDown, Row.moveDown_line]
              cases h <;> rfl

end Suite

end CodeAtlas.Python
