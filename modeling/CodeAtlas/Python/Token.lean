import CodeAtlas.Text.Basic

/-!
# Tokens of a Python program

Words are keywords, soft keywords (which may also name things) or plain names. A string literal
keeps its source text, because docstrings are decoded from it. A format string is a run of
tokens: its opening, the brackets of its replacement fields with the tokens inside, and its
closing.
-/

namespace CodeAtlas.Python

/-- The words that never name a variable. -/
inductive Keyword where
  | falseK | noneK | trueK | andK | asK | assertK | breakK | classK | continueK | defK | delK
  | elifK | elseK | exceptK | finallyK | forK | fromK | globalK | ifK | importK | inK | isK
  | lambdaK | nonlocalK | notK | orK | passK | raiseK | returnK | tryK | whileK | withK | yieldK
  deriving DecidableEq, Repr

namespace Keyword

/-- All keywords. -/
def all : List Keyword :=
  [falseK, noneK, trueK, andK, asK, assertK, breakK, classK, continueK, defK, delK, elifK, elseK,
    exceptK, finallyK, forK, fromK, globalK, ifK, importK, inK, isK, lambdaK, nonlocalK, notK, orK,
    passK, raiseK, returnK, tryK, whileK, withK, yieldK]

/-- The spelling of a keyword. -/
def spelling : Keyword → String
  | falseK => "False"
  | noneK => "None"
  | trueK => "True"
  | andK => "and"
  | asK => "as"
  | assertK => "assert"
  | breakK => "break"
  | classK => "class"
  | continueK => "continue"
  | defK => "def"
  | delK => "del"
  | elifK => "elif"
  | elseK => "else"
  | exceptK => "except"
  | finallyK => "finally"
  | forK => "for"
  | fromK => "from"
  | globalK => "global"
  | ifK => "if"
  | importK => "import"
  | inK => "in"
  | isK => "is"
  | lambdaK => "lambda"
  | nonlocalK => "nonlocal"
  | notK => "not"
  | orK => "or"
  | passK => "pass"
  | raiseK => "raise"
  | returnK => "return"
  | tryK => "try"
  | whileK => "while"
  | withK => "with"
  | yieldK => "yield"

end Keyword

/-- The words that begin a statement or an operand in some places and are names in others. -/
inductive SoftKeyword where
  | printK | execK | matchK | caseK | typeK | asyncK | awaitK
  deriving DecidableEq, Repr

namespace SoftKeyword

/-- All soft keywords. -/
def all : List SoftKeyword := [printK, execK, matchK, caseK, typeK, asyncK, awaitK]

/-- The spelling of a soft keyword. -/
def spelling : SoftKeyword → String
  | printK => "print"
  | execK => "exec"
  | matchK => "match"
  | caseK => "case"
  | typeK => "type"
  | asyncK => "async"
  | awaitK => "await"

end SoftKeyword

/-- Punctuation. The operators that only ever join two operands are one mark. -/
inductive Mark where
  | roundOpen | roundClose | squareOpen | squareClose | curlyOpen | curlyClose
  | comma | colon | semicolon | dot | ellipsis | equals | walrus | arrow | at
  | star | doubleStar | slash | plus | minus | tilde | bar | shiftRight
  /-- A comparison, or an arithmetic operator not listed here. -/
  | infixOp
  /-- An operator joined with `=`. -/
  | augmented
  deriving DecidableEq, Repr

/-- A token. -/
inductive Tok where
  /-- A keyword. -/
  | keyword (k : Keyword)
  /-- The keyword `except` with a star joined to it. -/
  | exceptStar
  /-- A soft keyword. -/
  | soft (k : SoftKeyword)
  /-- Any other word. -/
  | name (s : Text)
  /-- A number. -/
  | number
  /-- A string literal, with its source text. -/
  | string (source : Text)
  /-- The opening of a format string. -/
  | formatOpen
  /-- The brace that opens a replacement field. -/
  | fieldOpen
  /-- A conversion such as `!r`. -/
  | conversion
  /-- The colon before a format specification. -/
  | formatSpec
  /-- The brace that closes a replacement field. -/
  | fieldClose
  /-- The closing of a format string. -/
  | formatClose
  /-- Punctuation. -/
  | mark (m : Mark)
  /-- A place where no token can be read. -/
  | invalid
  deriving DecidableEq, Repr

namespace Tok

/-- The token that a word is. -/
def ofWord (s : Text) : Tok :=
  match Keyword.all.find? (fun k => k.spelling.toList = s) with
  | some k => .keyword k
  | none =>
    match SoftKeyword.all.find? (fun k => k.spelling.toList = s) with
    | some k => .soft k
    | none => .name s

/-- The spelling of a token that is a word. -/
def word? : Tok → Option Text
  | .keyword k => some k.spelling.toList
  | .soft k => some k.spelling.toList
  | .name s => some s
  | _ => none

end Tok

/-- A token in its place. -/
structure Lexeme where
  /-- The token. -/
  tok : Tok
  /-- The line it begins on. -/
  line : Nat
  /-- The comments and line continuations between the token before and this one. -/
  gap : List Text
  deriving DecidableEq, Repr

/-- A logical line: the tokens up to a line end outside brackets. -/
structure Row where
  /-- The width of its indentation. -/
  indent : Nat
  /-- Its first token. -/
  first : Lexeme
  /-- Its other tokens. -/
  rest : List Lexeme
  /-- The line it ends on. -/
  stop : Nat
  deriving Repr

namespace Row

/-- All tokens of a row. -/
def lexemes (r : Row) : List Lexeme := r.first :: r.rest

/-- The line a row begins on. -/
def line (r : Row) : Nat := r.first.line

/-- Whether a row may open a block: it ends with a colon. -/
def opens (r : Row) : Bool := ((r.lexemes.getLast?).map (·.tok)) == some (.mark .colon)

end Row

end CodeAtlas.Python
