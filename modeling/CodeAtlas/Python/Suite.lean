import CodeAtlas.Python.Layout
import CodeAtlas.Python.Lexer
import CodeAtlas.Python.Statement

/-!
# Programs

A suite is a sequence of statements as far as an outline needs them: simple statements,
definitions with their bodies, and other blocks. The clauses of one compound statement are
blocks one after another. `Suite.ofLayout` reads one from blocks of logical lines and refuses
clauses out of place; `Suite.parse` reads a whole program. Where it cannot, it says on which line
reading stops. `scan` ends a logical line at every line feed outside brackets and never takes a
keyword for a name, so `Suite.parse` also refuses a statement that needs either of these.
-/

namespace CodeAtlas.Python

/-- What a definition defines. -/
inductive Kind where
  /-- A function. -/
  | functionDef
  /-- A class. -/
  | classDef
  deriving DecidableEq, Repr

/-- A sequence of statements. -/
inductive Suite where
  /-- No statements. -/
  | nil
  /-- A simple statement, and the statements after it. -/
  | simple (s : Simple) (next : Suite)
  /-- A definition with its line, name and body, and the statements after it. -/
  | define (line : Nat) (kind : Kind) (name : Text) (body next : Suite)
  /-- The block of some other clause, and the statements after it. -/
  | block (body next : Suite)
  deriving DecidableEq, Repr

namespace Suite

/-- Simple statements in front of a suite. -/
def prepend (next : Suite) : List Simple → Suite
  | [] => next
  | s :: ss => .simple s (prepend next ss)

/-- Which clauses may come next after a statement. -/
inductive Pending where
  /-- None. -/
  | none
  /-- `elif` and `else`. -/
  | branch
  /-- `else`. -/
  | otherwise
  /-- `except` or `finally` must follow. -/
  | handler
  /-- `except`, `else` and `finally`; the first has a star, or not. -/
  | handled (star : Bool)
  /-- `finally`. -/
  | final
  /-- A definition or a further decorator must follow. -/
  | definition
  deriving DecidableEq, Repr

namespace Pending

/-- Whether something has to follow. -/
def isOpen : Pending → Bool
  | .handler | .definition => true
  | _ => false

/-- Whether a line that begins with the given token may follow at all. -/
def allows (p : Pending) (t : Tok) : Bool :=
  match p with
  | .definition =>
    t == .mark .at || t == .keyword .defK || t == .keyword .classK || t == .soft .asyncK
  | .handler => t == .keyword .exceptK || t == .exceptStar || t == .keyword .finallyK
  | _ => true

/-- What may come after a clause that begins a statement. -/
def start : Header → Option Pending
  | .ifH => some .branch
  | .whileH | .forH => some .otherwise
  | .tryH => some .handler
  | .withH | .matchH | .caseH => some .none
  | .funcH _ | .classH _ => some .none
  | _ => Option.none

/-- What may come after one more line; nothing if the line may not stand here. -/
def accept (p : Pending) (f : Form) : Option Pending :=
  match p, f with
  | .definition, .decorator => some .definition
  | .definition, .header (.funcH _) _ => some .none
  | .definition, .header (.classH _) _ => some .none
  | .definition, _ => Option.none
  | .handler, .header .exceptH _ => some (.handled false)
  | .handler, .header .exceptStarH _ => some (.handled true)
  | .handler, .header .finallyH _ => some .none
  | .handler, _ => Option.none
  | .branch, .header .elifH _ => some .branch
  | .branch, .header .elseH _ => some .none
  | .otherwise, .header .elseH _ => some .none
  | .handled false, .header .exceptH _ => some (.handled false)
  | .handled true, .header .exceptStarH _ => some (.handled true)
  | .handled _, .header .elseH _ => some .final
  | .handled _, .header .finallyH _ => some .none
  | .final, .header .finallyH _ => some .none
  | _, .decorator => some .definition
  | _, .simple _ => some .none
  | _, .header h _ => start h

end Pending

/-- The suite of blocks of logical lines, or the line on which reading stops. What follows the
blocks begins on line `stop`. -/
def ofLayout (inMatch : Bool) (stop : Nat) : Pending → Layout → Except Nat Suite
  | p, .nil => if p.isOpen then .error stop else .ok .nil
  | p, .row r inner next =>
    match r.form inMatch with
    | .error n => .error (if p.allows r.first.tok then n else r.line)
    | .ok f =>
      match p.accept f with
      | none => .error r.line
      | some p' =>
        match f with
        | .decorator => ofLayout inMatch stop p' next
        | .simple ss => (ofLayout inMatch stop p' next).map (prepend · ss)
        | .header h inline =>
          match ofLayout (h == .matchH) (next.lineOr stop) .none inner with
          | .error n => .error n
          | .ok inner =>
            let body := prepend inner inline
            match ofLayout inMatch stop p' next with
            | .error n => .error n
            | .ok next =>
              match h with
              | .funcH name => .ok (.define r.line .functionDef name body next)
              | .classH name => .ok (.define r.line .classDef name body next)
              | _ => .ok (.block body next)

/-- The program that a text is, or the line on which reading it stops. -/
def parse (s : Text) : Except Nat Suite :=
  let t := Scanned.ofText s
  ofLayout false t.last .none (Layout.ofRows 0 t.rows)

end Suite

end CodeAtlas.Python
