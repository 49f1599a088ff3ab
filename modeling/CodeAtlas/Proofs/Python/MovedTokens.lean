import CodeAtlas.Python.Lexer

/-!
# Scanning further down

What stands at the front of a text does not depend on its line (`Front.read_moveDown`). So a scan
that begins on a later line gives the same tokens and logical lines, as many lines further down
(`scan_moveDown`): everything that is open moves along with the lines.
-/

namespace CodeAtlas.Python

variable {k : Nat}

/-! ### Moving down -/

/-- A token some lines further down. -/
def Lexeme.moveDown (k : Nat) (l : Lexeme) : Lexeme := { l with line := l.line + k }

@[simp] theorem Lexeme.moveDown_tok (l : Lexeme) : (l.moveDown k).tok = l.tok := rfl

@[simp] theorem Lexeme.moveDown_gap (l : Lexeme) : (l.moveDown k).gap = l.gap := rfl

@[simp] theorem Lexeme.moveDown_line (l : Lexeme) : (l.moveDown k).line = l.line + k := rfl

/-- A logical line some lines further down. -/
def Row.moveDown (k : Nat) (r : Row) : Row :=
  ⟨r.indent, r.first.moveDown k, r.rest.map (Lexeme.moveDown k), r.stop + k⟩

/-- Something open, opened some lines further down. -/
def Nest.moveDown (k : Nat) : Nest → Nest
  | .bracket close line => .bracket close (line + k)
  | .format quote triple raw line => .format quote triple raw (line + k)
  | .field lambdas => .field lambdas
  | .spec quote triple => .spec quote triple

/-- A reading of the same text some lines further down. -/
def Reading.moveDown (k : Nat) (r : Reading) : Reading :=
  ⟨r.here.map (Lexeme.moveDown k), r.stop + k, r.rows.map (Row.moveDown k),
    r.nests.map (Nest.moveDown k)⟩

/-! ### The front of a text -/

namespace Front

theorem readWord_moveDown (stack : List Nest) (c : Char) (s : Text) :
    readWord (stack.map (Nest.moveDown k)) c s = readWord stack c s := by
  unfold readWord
  cases stack with
  | nil => rfl
  | cons n rest =>
    dsimp only
    generalize Tok.ofWord (c :: s.takeWhile Identifier.isContinue) = t
    cases t with
    | keyword kw => cases kw <;> cases n <;> rfl
    | _ => rfl

theorem readMark_moveDown (stack : List Nest) (c : Char) (s : Text) :
    readMark (stack.map (Nest.moveDown k)) c s = readMark stack c s := by
  unfold readMark
  cases opening? c with
  | some o => rfl
  | none =>
    cases stack with
    | nil => rfl
    | cons n rest =>
      cases closing? c with
      | some m => cases n <;> rfl
      | none =>
        cases n with
        | field lambdas =>
          cases rest with
          | nil => rfl
          | cons m rest => cases m <;> rfl
        | bracket | format | spec => rfl

/-- What stands at the front of a text does not depend on lines. -/
theorem read_moveDown (stack : List Nest) (c : Char) (s : Text) :
    read (stack.map (Nest.moveDown k)) c s = read stack c s := by
  have hcode : readCode (stack.map (Nest.moveDown k)) c s = readCode stack c s := by
    unfold readCode
    rw [readWord_moveDown, readMark_moveDown]
  cases stack with
  | nil => rfl
  | cons n rest =>
    cases n with
    | format | spec => rfl
    | bracket | field => exact hcode

end Front

/-! ### What is open -/

theorem Change.apply_moveDown (change : Change) (line : Nat) (stack : List Nest) :
    change.apply (line + k) (stack.map (Nest.moveDown k)) =
      (change.apply line stack).map (Nest.moveDown k) := by
  cases change with
  | await | meet =>
    cases stack with
    | nil => rfl
    | cons n rest => cases n <;> rfl
  | openSpec | close => simp [apply, Nest.moveDown]
  | keep | openBracket | openFormat | openField => rfl

theorem blame_moveDown (line : Nat) (stack : List Nest) :
    blame (line + k) (stack.map (Nest.moveDown k)) = blame line stack + k := by
  cases stack with
  | nil => rfl
  | cons n rest => cases n <;> rfl

/-! ### Logical lines -/

theorem Reading.cons_moveDown (place : Place) (l : Lexeme) (r : Reading) :
    (r.moveDown k).cons place (l.moveDown k) = (r.cons place l).moveDown k := by
  cases place <;> rfl

theorem Reading.newline_moveDown (line : Nat) (r : Reading) :
    (r.moveDown k).newline (line + k) = (r.newline line).moveDown k := rfl

/-- A scan that begins some lines further down gives the same, further down. -/
theorem scan_moveDown (line : Nat) (place : Place) (stack : List Nest) (gap : List Text)
    (s : Text) :
    scan (line + k) place (stack.map (Nest.moveDown k)) gap s =
      (scan line place stack gap s).moveDown k := by
  fun_induction scan line place stack gap s with
  | case1 line place stack gap =>
    rw [scan]
    rfl
  | case2 line place stack gap c s hread hempty ih =>
    obtain rfl := List.isEmpty_iff.mp hempty
    rw [Nat.add_right_comm] at ih
    rw [scan, Front.read_moveDown, hread]
    exact (congrArg (Reading.newline (line + k)) ih).trans (Reading.newline_moveDown line _)
  | case3 line place stack gap c s hread hempty ih =>
    have hempty' : (stack.map (Nest.moveDown k)).isEmpty ≠ true := by
      rwa [List.isEmpty_map]
    rw [Nat.add_right_comm] at ih
    rw [scan, Front.read_moveDown, hread]
    simp only [if_neg hempty']
    exact ih
  | case4 line place stack gap c s more note hread ih =>
    rw [Nat.add_right_comm] at ih
    rw [scan, Front.read_moveDown, hread]
    exact ih
  | case5 line place stack gap c s t more change hread ih =>
    rw [Nat.add_right_comm] at ih
    rw [scan, Front.read_moveDown, hread]
    dsimp only
    rw [Change.apply_moveDown, ih]
    exact Reading.cons_moveDown place ⟨t, line, gap⟩ _
  | case6 line place stack gap c s hread =>
    rw [scan, Front.read_moveDown, hread]
    dsimp only
    rw [blame_moveDown]
    exact Reading.cons_moveDown place ⟨.invalid, blame line stack, gap⟩ ⟨[], line, [], []⟩

end CodeAtlas.Python
