import CodeAtlas.Docstring.Literal
import CodeAtlas.Python.Suite
import CodeAtlas.Text.Newline

/-!
# The outline of a Python program

An outline lists the docstring, the imports, the classes with their methods and the functions
of a module. Only the statements of the module itself count, and of a class its own; nothing
nested deeper is reported. A program with a syntax error has no outline, nor has one with a
`print` or `exec` statement or a `return` outside of any function.

Two things come from outside: the names of characters, and what a parser that reads on after a
syntax error makes of a text. Of that only the place of the first error counts.
-/

namespace CodeAtlas.Python

/-- An imported name. -/
structure ImportEntry where
  /-- The name. -/
  name : Text
  /-- The line of its statement. -/
  line : Nat
  deriving DecidableEq, Repr

/-- A function. -/
structure FunctionEntry where
  /-- The name. -/
  name : Text
  /-- The line of `def`, or of `async` before it. -/
  line : Nat
  /-- The docstring, if there is one. -/
  docstring : Option Text
  deriving DecidableEq, Repr

/-- A class. -/
structure ClassEntry where
  /-- The name. -/
  name : Text
  /-- The line of `class`. -/
  line : Nat
  /-- The docstring, if there is one. -/
  docstring : Option Text
  /-- The functions defined directly in it. -/
  methods : List FunctionEntry
  deriving DecidableEq, Repr

/-- The outline of a module. -/
structure Outline where
  /-- The docstring, if there is one. -/
  docstring : Option Text
  /-- The imported names, in order. -/
  imports : List ImportEntry
  /-- The classes, in order. -/
  classes : List ClassEntry
  /-- The functions, in order. -/
  functions : List FunctionEntry
  deriving DecidableEq, Repr

/-- What an outline takes from outside. -/
structure Reader where
  /-- The characters by their names. -/
  names : Docstring.CharacterNames
  /-- How many characters of a text that has a syntax error come before its first error. -/
  recovery : Text → Nat

/-- The line of what stands in a text behind the given number of characters. -/
def lineOf (s : Text) (place : Nat) : Nat := feeds (s.take place) + 1

/-- The line of the first error in a text that has a syntax error. -/
def Reader.errorLine (r : Reader) (s : Text) : Nat := lineOf s (r.recovery s)

/-- Why a text has no outline. -/
inductive OutlineError where
  /-- The program is not valid; the line is the one blamed. -/
  | malformed (line : Nat)
  deriving DecidableEq, Repr

namespace Suite

section Docstrings

variable (names : Docstring.CharacterNames)

/-- The docstring of a body: its first statement, if that is a string literal. -/
def docstring : Suite → Option Text
  | .simple ⟨_, .expression (p :: ps)⟩ _ => Docstring.ofLiterals? names (p :: ps)
  | _ => none

/-- The functions that the statements of a suite itself define. -/
def functions : Suite → List FunctionEntry
  | .nil => []
  | .simple _ next => functions next
  | .define line .functionDef name body next => ⟨name, line, docstring names body⟩ :: functions next
  | .define _ .classDef _ _ next => functions next
  | .block _ next => functions next

/-- The classes that the statements of a suite itself define. -/
def classes : Suite → List ClassEntry
  | .nil => []
  | .simple _ next => classes next
  | .define line .classDef name body next =>
    ⟨name, line, docstring names body, functions names body⟩ :: classes next
  | .define _ .functionDef _ _ next => classes next
  | .block _ next => classes next

end Docstrings

/-- The names imported by the statements of a suite itself. -/
def imports : Suite → List ImportEntry
  | .nil => []
  | .simple ⟨line, .imports names⟩ next => names.map (⟨·, line⟩) ++ imports next
  | .simple _ next => imports next
  | .define _ _ _ _ next => imports next
  | .block _ next => imports next

/-- The line of the first statement that a program may not contain, blocks being searched in
place: a `print` or `exec` statement anywhere, and a `return` unless the innermost definition
around it is a function. -/
def firstRejected (inFunction : Bool) : Suite → Option Nat
  | .nil => none
  | .simple s next =>
    match s.action with
    | .obsolete => some s.line
    | .returns => if inFunction then firstRejected inFunction next else some s.line
    | _ => firstRejected inFunction next
  | .define _ kind _ body next =>
    (firstRejected (kind == .functionDef) body).or (firstRejected inFunction next)
  | .block body next => (firstRejected inFunction body).or (firstRejected inFunction next)

/-- The outline of a module. -/
def outline (names : Docstring.CharacterNames) (m : Suite) : Outline :=
  ⟨m.docstring names, m.imports, m.classes names, m.functions names⟩

end Suite

namespace Outline

/-- The outline of a program text, whose line ends are normalized first. -/
def ofText (r : Reader) (source : Text) : Except OutlineError Outline :=
  match Suite.parse (Text.normalizeNewlines source) with
  | .error _ => .error (.malformed (r.errorLine (Text.normalizeNewlines source)))
  | .ok m =>
    match m.firstRejected false with
    | some line => .error (.malformed line)
    | none => .ok (m.outline r.names)

end Outline

end CodeAtlas.Python
