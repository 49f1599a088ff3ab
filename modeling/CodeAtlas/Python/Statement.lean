import CodeAtlas.Python.Blame
import CodeAtlas.Python.Import
import CodeAtlas.Python.Pattern

/-!
# What a logical line is

A logical line is a decorator, a list of simple statements, or the header of a compound
statement, perhaps with simple statements behind its colon. Reading it gives what an outline
needs to know, or the line of the first token that cannot stand where it does.

`print`, `exec`, `match` and `type` are words with two readings. Both are tried; if neither
fits, the one that gets further tells the place of the error.
-/

namespace CodeAtlas.Python

/-- What a simple statement means for an outline. -/
inductive Action where
  /-- It imports the given names. -/
  | imports (names : List Text)
  /-- It is an expression or an assignment. The pieces are those of the string literal that it
  consists of, if it consists of one. -/
  | expression (pieces : List Text)
  /-- It is a `print` or `exec` statement. -/
  | obsolete
  /-- It is a `return` statement. -/
  | returns
  /-- It is something else. -/
  | other
  deriving DecidableEq, Repr

/-- A simple statement. -/
structure Simple where
  /-- The line it begins on. -/
  line : Nat
  /-- What it means. -/
  action : Action
  deriving DecidableEq, Repr

/-- A header of a compound statement. -/
inductive Header where
  | ifH | elifH | elseH | whileH | forH | tryH | exceptH | exceptStarH | finallyH | withH
  | matchH | caseH
  /-- A function with the given name. -/
  | funcH (name : Text)
  /-- A class with the given name. -/
  | classH (name : Text)
  deriving DecidableEq, Repr

/-- What a logical line is. -/
inductive Form where
  /-- A decorator. -/
  | decorator
  /-- Simple statements. -/
  | simple (statements : List Simple)
  /-- A header, with the simple statements behind its colon. -/
  | header (h : Header) (inline : List Simple)
  deriving DecidableEq, Repr

/-! ### Simple statements -/

namespace Action

/-- An action unless something is stuck; the place counts from `offset`. -/
def unlessStuck (a : Action) (offset : Nat) : Option Nat → Except Nat Action
  | none => .ok a
  | some n => .error (offset + n)

/-- Stuck at the first token, if there is one. -/
def endStuckAt (ts : List Tok) : Option Nat := if ts.isEmpty then none else some 0

/-- The place where some tokens stop being an expression statement. -/
def expressionStuckAt (ts : List Tok) : Option Nat :=
  Expression.stuckAt (.statement true) (.element false) ts

/-- The source texts of the string literals at the front, and the tokens after them. -/
def literals : List Lexeme → List Text × List Lexeme
  | [] => ([], [])
  | l :: ls =>
    match l.tok with
    | .string s => (s :: (literals ls).1, (literals ls).2)
    | _ => ([], l :: ls)

/-- The pieces of the string literal that a statement consists of; a comma may follow it. -/
def pieces (ls : List Lexeme) : List Text :=
  match literals ls with
  | (ps, []) => ps
  | (ps, [l]) => if l.tok = .mark .comma ∧ l.gap = [] then ps else []
  | _ => []

/-- An expression statement. -/
def ofExpression (ls : List Lexeme) : Except Nat Action :=
  unlessStuck (.expression (pieces ls)) 0 (expressionStuckAt (ls.map (·.tok)))

/-- The place where the tokens after `print` stop being those of a `print` statement. -/
def printStuckAt : List Tok → Option Nat
  | .mark .shiftRight :: ts =>
    (Expression.stuckAt .many (.operand true true) ts).map (· + 1)
  | ts => Expression.stuckAt .many (.operand true true) ts

/-- The place where the tokens after `exec` stop being those of an `exec` statement. -/
def execStuckAt : List Tok → Option Nat
  | [] => some 0
  | t :: ts =>
    match t with
    | .string _ | .name _ | .soft _ =>
      match ts with
      | [] => none
      | .keyword .inK :: rest =>
        (Expression.stuckAt .listed (.operand true true) rest).map (· + 2)
      | _ => some 1
    | _ => some 0

/-- The first reading if it fits, else the second if it fits, else the later of the two
places. -/
def either (first : Except Nat Action) (second : Action) : Option Nat → Except Nat Action
  | none =>
    match first with
    | .ok a => .ok a
    | .error _ => .ok second
  | some n =>
    match first with
    | .ok a => .ok a
    | .error m => .error (max m n)

/-- What follows `global` and `nonlocal`: words with commas between them. -/
def wordsStuckAt : List Tok → Option Nat
  | [] => some 0
  | t :: ts =>
    if t.word?.isSome then
      match ts with
      | [] => none
      | c :: rest =>
        if c = .mark .comma then (wordsStuckAt rest).map (· + 2) else some 1
    else some 0

/-- What a simple statement is, or the number of tokens before the first one that cannot stand
where it does. -/
def read (ls : List Lexeme) : Except Nat Action :=
  match ls with
  | [] => .error 0
  | l :: rest =>
    let ts := rest.map (·.tok)
    match l.tok with
    | .keyword .passK | .keyword .breakK | .keyword .continueK =>
      unlessStuck .other 1 (endStuckAt ts)
    | .keyword .importK =>
      unlessStuck (.imports (Import.plainNames rest)) 1 (Import.plainStuckAt ts)
    | .keyword .fromK => unlessStuck (.imports (Import.fromNames rest)) 1 (Import.fromStuckAt ts)
    | .keyword .globalK | .keyword .nonlocalK => unlessStuck .other 1 (wordsStuckAt ts)
    | .keyword .returnK => unlessStuck .returns 1 (Expression.stuckAt .many (.element true) ts)
    | .keyword .delK => unlessStuck .other 1 (Expression.stuckAt .many (.element false) ts)
    | .keyword .raiseK => unlessStuck .other 1 (Expression.stuckAt .raising (.element true) ts)
    | .keyword .assertK =>
      unlessStuck .other 1 (Expression.stuckAt .listed (.operand true true) ts)
    | .soft .printK =>
      if ts.head? = some (.mark .shiftRight) then unlessStuck .obsolete 1 (printStuckAt ts)
      else either (ofExpression ls) .obsolete ((printStuckAt ts).map (· + 1))
    | .soft .execK => either (ofExpression ls) .obsolete ((execStuckAt ts).map (· + 1))
    | .soft .typeK =>
      either (ofExpression ls) .other ((Expression.stuckAt .aliasHeader .header ts).map (· + 1))
    | _ => ofExpression ls

end Action

/-- The line of the token at a place in some tokens, or the line where they end. -/
def lineAt (ls : List Lexeme) (stop n : Nat) : Nat := ((ls[n]?).map (·.line)).getD stop

namespace Simple

/-- A simple statement that a token on line `stop` ends, or the line of an error. -/
def read (ls : List Lexeme) (stop : Nat) : Except Nat Simple :=
  match Action.read ls with
  | .ok a => .ok ⟨lineAt ls stop 0, a⟩
  | .error n => .error (lineAt ls stop n)

/-- The tokens between semicolons, each run with the line of what ends it. -/
def split (stop : Nat) : List Lexeme → List (List Lexeme × Nat)
  | [] => [([], stop)]
  | l :: ls =>
    if l.tok = .mark .semicolon then ([], l.line) :: split stop ls
    else
      match split stop ls with
      | [] => [([l], stop)]
      | (p, e) :: rest => (l :: p, e) :: rest

/-- The statements that runs of tokens make; the last run may be empty. -/
def readRuns : List (List Lexeme × Nat) → Except Nat (List Simple)
  | [] => .ok []
  | (p, e) :: rest =>
    if p.isEmpty && rest.isEmpty then .ok []
    else
      match read p e with
      | .error n => .error n
      | .ok s =>
        match readRuns rest with
        | .error n => .error n
        | .ok ss => .ok (s :: ss)

/-- The simple statements of a line, or the line of an error. -/
def readAll (ls : List Lexeme) (stop : Nat) : Except Nat (List Simple) :=
  readRuns (split stop ls)

end Simple

/-! ### Headers -/

namespace Header

/-- The tokens up to the colon that ends a header, and the tokens behind it. The colon stands
outside brackets and belongs to no `lambda`. -/
def split : Nat → Nat → List Lexeme → List Lexeme × Option (List Lexeme)
  | _, _, [] => ([], none)
  | depth, lambdas, l :: ls =>
    let further (depth lambdas : Nat) : List Lexeme × Option (List Lexeme) :=
      (l :: (split depth lambdas ls).1, (split depth lambdas ls).2)
    match l.tok with
    | .mark .roundOpen | .mark .squareOpen | .mark .curlyOpen | .fieldOpen =>
      further (depth + 1) lambdas
    | .mark .roundClose | .mark .squareClose | .mark .curlyClose | .fieldClose =>
      further (depth - 1) lambdas
    | .keyword .lambdaK => further depth (if depth = 0 then lambdas + 1 else lambdas)
    | .mark .colon =>
      if depth = 0 then
        if lambdas = 0 then ([], some ls) else further depth (lambdas - 1)
      else further depth lambdas
    | _ => further depth lambdas

/-- A header after its keyword, whose tokens up to the colon a test must accept. -/
def read (h : Header) (stuckAt : List Tok → Option Nat) (ls : List Lexeme) (stop : Nat) :
    Except Nat Form :=
  let (middle, tail) := split 0 0 ls
  match stuckAt (middle.map (·.tok)), tail with
  | some n, _ => .error (lineAt ls stop n)
  | none, none => .error stop
  | none, some [] => .ok (.header h [])
  | none, some inline =>
    match Simple.readAll inline stop with
    | .error n => .error n
    | .ok ss => .ok (.header h ss)

/-- What follows `except`: nothing, an expression, or two. -/
def exceptStuckAt : List Tok → Option Nat
  | [] => none
  | ts => Expression.stuckAt (.pair false) (.operand true true) ts

/-- What follows `case`: patterns, and perhaps `if` with a condition. -/
def caseStuckAt (ts : List Tok) : Option Nat :=
  let pattern := ts.takeWhile (· != .keyword .ifK)
  match Pattern.stuckAt pattern with
  | some n => some n
  | none =>
    match ts.drop pattern.length with
    | [] => none
    | _ :: guard =>
      (Expression.stuckAt .one (.operand true true) guard).map (· + pattern.length + 1)

/-- The place where a line that begins with `match` stops being a header. Nothing may follow
its colon. -/
def matchStuckAt (ls : List Lexeme) : Option Nat :=
  let (middle, tail) := split 0 0 ls
  match Expression.stuckAt .many (.element false) (middle.map (·.tok)), tail with
  | some n, _ => some n
  | none, none => some ls.length
  | none, some [] => none
  | none, some _ => some (middle.length + 1)

/-- The name that a header defines. -/
def definedName (ls : List Lexeme) : Text := ((ls.head?.bind fun l => l.tok.word?)).getD []

/-- The header that begins with a keyword, if one does, read to its end. -/
def ofKeyword? (k : Keyword) (ls : List Lexeme) (stop : Nat) : Option (Except Nat Form) :=
  let condition := Expression.stuckAt .one (.operand true true)
  match k with
  | .ifK => some (read .ifH condition ls stop)
  | .elifK => some (read .elifH condition ls stop)
  | .whileK => some (read .whileH condition ls stop)
  | .elseK => some (read .elseH Action.endStuckAt ls stop)
  | .tryK => some (read .tryH Action.endStuckAt ls stop)
  | .finallyK => some (read .finallyH Action.endStuckAt ls stop)
  | .forK => some (read .forH (Expression.stuckAt (.loop true) (.element false)) ls stop)
  | .withK => some (read .withH (Expression.stuckAt .many (.element false)) ls stop)
  | .exceptK => some (read .exceptH exceptStuckAt ls stop)
  | .defK =>
    some (read (.funcH (definedName ls)) (Expression.stuckAt .funcHeader .header) ls stop)
  | .classK =>
    some (read (.classH (definedName ls)) (Expression.stuckAt .classHeader .header) ls stop)
  | _ => none

end Header

/-! ### Logical lines -/

namespace Row

/-- A logical line that holds simple statements. -/
def readSimple (r : Row) : Except Nat Form :=
  match Simple.readAll r.lexemes r.stop with
  | .error n => .error n
  | .ok ss => .ok (.simple ss)

/-- A decorator. -/
def readDecorator (r : Row) : Except Nat Form :=
  match Expression.stuckAt .one (.operand true true) (r.rest.map (·.tok)) with
  | some n => .error (lineAt r.rest r.stop n)
  | none => .ok .decorator

/-- A logical line that begins with `match`. -/
def readMatch (r : Row) : Except Nat Form :=
  match Header.matchStuckAt r.rest with
  | none => .ok (.header .matchH [])
  | some n =>
    match r.readSimple with
    | .ok f => .ok f
    | .error m => .error (max (lineAt r.rest r.stop n) m)

/-- A logical line that begins with `async`. -/
def readAsync (r : Row) : Except Nat Form :=
  match r.rest with
  | l :: ls =>
    match l.tok with
    | .keyword .defK =>
      Header.read (.funcH (Header.definedName ls)) (Expression.stuckAt .funcHeader .header) ls
        r.stop
    | .keyword .forK =>
      Header.read .forH (Expression.stuckAt (.loop true) (.element false)) ls r.stop
    | .keyword .withK =>
      Header.read .withH (Expression.stuckAt .many (.element false)) ls r.stop
    | _ => r.readSimple
  | [] => r.readSimple

/-- What a logical line is, or the line of an error. In the block of a `match` statement every
line begins with `case`. -/
def form (r : Row) (inMatch : Bool) : Except Nat Form :=
  if inMatch then
    if r.first.tok = .soft .caseK then Header.read .caseH Header.caseStuckAt r.rest r.stop
    else .error r.line
  else
    match r.first.tok with
    | .mark .at => r.readDecorator
    | .exceptStar =>
      Header.read .exceptStarH (Expression.stuckAt .one (.operand true true)) r.rest r.stop
    | .soft .matchK => r.readMatch
    | .soft .asyncK => r.readAsync
    | .keyword k => (Header.ofKeyword? k r.rest r.stop).getD r.readSimple
    | _ => r.readSimple

end Row

end CodeAtlas.Python
