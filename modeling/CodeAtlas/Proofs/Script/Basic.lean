import CodeAtlas.Proofs.Docstring.Quoting
import CodeAtlas.Python.Outline

/-!
# Scripts

A small fragment of Python as data: imports in all their forms, functions and classes with
decorators and docstrings, and conditional blocks, nested to any depth. A script has a printed
form, one statement on a line and four more spaces for each body, and an outline that is read
off the data alone, without any parsing.
-/

namespace CodeAtlas.Python

/-! ### Names -/

/-- The words that are no plain names. -/
def reserved : List Text :=
  Import.future ::
    (Keyword.all.map (·.spelling.toList) ++ SoftKeyword.all.map (·.spelling.toList))

/-- Whether a text is an ASCII identifier that is not reserved. -/
def isPlainName : Text → Bool
  | [] => false
  | c :: s =>
    (c.isAlpha || c == '_') && s.all (fun d => d.isAlphanum || d == '_') &&
      !reserved.contains (c :: s)

/-- A name with a single reading. -/
structure PlainName where
  /-- The name as text. -/
  text : Text
  /-- It is plain. -/
  plain : isPlainName text = true
  deriving DecidableEq

/-- One or more things. -/
structure Series (α : Type) where
  /-- The first one. -/
  first : α
  /-- The others. -/
  others : List α

namespace Series

variable {α : Type}

/-- All things of a series. -/
def toList (s : Series α) : List α := s.first :: s.others

end Series

/-- A name with dots between its parts. -/
abbrev DottedName := Series PlainName

/-- A dotted name as text. -/
def DottedName.text (d : DottedName) : Text := Text.join ['.'] (d.toList.map PlainName.text)

/-! ### Imports -/

/-- An imported name, and the name it is bound to if that is another one. -/
structure Imported where
  /-- The name. -/
  name : DottedName
  /-- The name after `as`. -/
  alias? : Option PlainName

/-- An imported name as it is printed. -/
def Imported.text (i : Imported) : Text :=
  i.name.text ++
    match i.alias? with
    | none => []
    | some a => " as ".toList ++ a.text

/-- Imported names as they are printed. -/
def importedText (names : Series Imported) : Text :=
  Text.join [',', ' '] (names.toList.map Imported.text)

/-- Where names are imported from. -/
inductive Origin where
  /-- A module, with the given number of dots before its name. -/
  | module (dots : Nat) (name : DottedName)
  /-- A package that only dots name, one more than the given number. -/
  | package (more : Nat)

namespace Origin

/-- An origin as it is printed. -/
def text : Origin → Text
  | module dots name => List.replicate dots '.' ++ name.text
  | package more => List.replicate (more + 1) '.'

/-- A name imported from an origin as an outline reports it. -/
def qualify (o : Origin) (name : Text) : Text :=
  match o with
  | module _ m => m.text ++ '.' :: name
  | package _ => name

end Origin

/-- An import statement. -/
inductive ImportForm where
  /-- `import` of some names. -/
  | names (names : Series Imported)
  /-- `from` an origin, `import` of some names. -/
  | namesFrom (o : Origin) (names : Series Imported)
  /-- `from` an origin, `import` of everything. -/
  | allFrom (o : Origin)
  /-- `from __future__`, `import` of some names. -/
  | future (names : Series Imported)

namespace ImportForm

/-- An import statement as it is printed. -/
def text : ImportForm → Text
  | names ns => "import ".toList ++ importedText ns
  | namesFrom o ns => "from ".toList ++ (o.text ++ (" import ".toList ++ importedText ns))
  | allFrom o => "from ".toList ++ (o.text ++ " import *".toList)
  | future ns => "from __future__ import ".toList ++ importedText ns

/-- The names that an outline reports for an import statement. -/
def reported : ImportForm → List Text
  | names ns => ns.toList.map fun i => i.name.text
  | namesFrom o ns => ns.toList.map fun i => o.qualify i.name.text
  | allFrom o => [o.qualify ['*']]
  | future ns => ns.toList.map fun i => "__future__.".toList ++ i.name.text

end ImportForm

/-! ### Statements -/

/-- How a definition begins. -/
inductive Definer where
  /-- `def`, perhaps after `async`. -/
  | funcD (isAsync : Bool)
  /-- `class`. -/
  | classD

/-- The line that begins a definition, as it is printed. -/
def Definer.text (name : PlainName) : Definer → Text
  | funcD false => "def ".toList ++ (name.text ++ "():".toList)
  | funcD true => "async def ".toList ++ (name.text ++ "():".toList)
  | classD => "class ".toList ++ (name.text ++ [':'])

/-- A list of statements, each with the statements after it. -/
inductive Block where
  /-- No statements. -/
  | done
  /-- An import. -/
  | importing (form : ImportForm) (next : Block)
  /-- A definition with its decorators, its docstring and the rest of its body. -/
  | define (decorators : List PlainName) (definer : Definer) (name : PlainName)
    (doc? : Option Text) (body next : Block)
  /-- `if True:` with its body. -/
  | conditional (body next : Block)

/-- A program. -/
structure Script where
  /-- The docstring of the module. -/
  doc? : Option Text
  /-- The statements after it. -/
  body : Block
  /-- Whether `pass` stands at the end of the module, as it does at the end of every body. -/
  ended : Bool

/-! ### The printed form -/

/-- A line of a printed script. -/
inductive Line where
  /-- An import. -/
  | importing (form : ImportForm)
  /-- A decorator. -/
  | decorator (name : PlainName)
  /-- The line that begins a definition. -/
  | header (definer : Definer) (name : PlainName)
  /-- `if True:`. -/
  | condition
  /-- A docstring. -/
  | docstring (doc : Text)
  /-- `pass`. -/
  | pass

/-- A line without its indentation, as it is printed. -/
def Line.text : Line → Text
  | importing f => f.text
  | decorator n => '@' :: n.text
  | header d n => d.text n
  | condition => "if True:".toList
  | docstring s => Docstring.quote s
  | pass => "pass".toList

namespace Block

/-- The lines of a docstring that may be missing, each with its indentation. -/
def docLines (indent : Nat) (doc? : Option Text) : List (Nat × Line) :=
  doc?.toList.map fun s => (indent, .docstring s)

/-- The lines of a block, each with its indentation. -/
def lines (indent : Nat) : Block → List (Nat × Line)
  | done => []
  | importing f next => (indent, .importing f) :: next.lines indent
  | define ds d n doc? body next =>
    ds.map (fun a => (indent, .decorator a)) ++ (indent, .header d n) ::
      (docLines (indent + 4) doc? ++ body.lines (indent + 4) ++ (indent + 4, .pass) ::
        next.lines indent)
  | conditional body next =>
    (indent, .condition) :: (body.lines (indent + 4) ++ (indent + 4, .pass) :: next.lines indent)

end Block

/-- A line with its indentation and its line end. -/
def printLine (l : Nat × Line) : Text := List.replicate l.1 ' ' ++ (l.2.text ++ ['\n'])

namespace Script

/-- The lines of a script, each with its indentation. -/
def lines (s : Script) : List (Nat × Line) :=
  Block.docLines 0 s.doc? ++ s.body.lines 0 ++ if s.ended then [(0, .pass)] else []

/-- A script as text. -/
def print (s : Script) : Text := s.lines.flatMap printLine

end Script

example :
    Script.print ⟨some "a\n\"b".toList,
      .define [⟨"w".toList, by decide⟩] (.funcD true) ⟨"f".toList, by decide⟩ none
        (.importing (.allFrom (.package 1)) .done) .done, false⟩ =
      "\"a\\n\\\"b\"\n@w\nasync def f():\n    from .. import *\n    pass\n".toList := by
  decide +kernel

/-! ### The outline -/

/-- The docstring of a body that begins with the given one. -/
def docEntry (doc? : Option Text) : Option Text := doc?.bind Docstring.ofText?

namespace Block

/-- How many lines a docstring takes that may be missing. -/
def docSize (doc? : Option Text) : Nat := if doc?.isSome then 1 else 0

/-- How many lines a block takes. -/
def size : Block → Nat
  | done => 0
  | importing _ next => 1 + next.size
  | define ds _ _ doc? body next => ds.length + 1 + (docSize doc? + body.size + 1) + next.size
  | conditional body next => 1 + (body.size + 1) + next.size

/-- The imports in a block itself, which begins on the given line. -/
def imports (line : Nat) : Block → List ImportEntry
  | done => []
  | importing f next => f.reported.map (⟨·, line⟩) ++ next.imports (line + 1)
  | define ds _ _ doc? body next =>
    next.imports (line + (ds.length + 1 + (docSize doc? + body.size + 1)))
  | conditional body next => next.imports (line + (1 + (body.size + 1)))

/-- The functions that a block itself defines. -/
def functions (line : Nat) : Block → List FunctionEntry
  | done => []
  | importing _ next => next.functions (line + 1)
  | define ds d n doc? body next =>
    let after := next.functions (line + (ds.length + 1 + (docSize doc? + body.size + 1)))
    match d with
    | .funcD _ => ⟨n.text, line + ds.length, docEntry doc?⟩ :: after
    | .classD => after
  | conditional body next => next.functions (line + (1 + (body.size + 1)))

/-- The classes that a block itself defines, each with the functions of its own body. -/
def classes (line : Nat) : Block → List ClassEntry
  | done => []
  | importing _ next => next.classes (line + 1)
  | define ds d n doc? body next =>
    let after := next.classes (line + (ds.length + 1 + (docSize doc? + body.size + 1)))
    match d with
    | .funcD _ => after
    | .classD =>
      ⟨n.text, line + ds.length, docEntry doc?,
        body.functions (line + ds.length + 1 + docSize doc?)⟩ :: after
  | conditional body next => next.classes (line + (1 + (body.size + 1)))

end Block

/-- The outline of a script. -/
def Script.outline (s : Script) : Outline :=
  let line := 1 + Block.docSize s.doc?
  ⟨docEntry s.doc?, s.body.imports line, s.body.classes line, s.body.functions line⟩

end CodeAtlas.Python
