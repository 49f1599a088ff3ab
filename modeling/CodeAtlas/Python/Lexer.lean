import CodeAtlas.Python.Token
import CodeAtlas.Unicode.Identifier

/-!
# From characters to logical lines

`Front.read` says what stands at the front of a text: white space, a comment, a token, a line
end, or nothing that can be read. It knows the innermost open bracket or format string and no
line numbers. `scan` repeats it, counts lines, measures the indentation of each logical line
and keeps what is open.

Indentation is measured in columns: a space is one, a tab eight wherever it stands, and a form
feed or carriage return starts again at zero. Lines that are blank or hold only a comment are
no logical lines.

Outside brackets a line feed ends the logical line always, also where the statement cannot end, and
a keyword is one always, also where only a name could stand. So a program is refused that goes on
with a statement on the next line (`import`, a line feed, `os`) or has a keyword for a name
(`x = import`).
-/

namespace CodeAtlas.Python

/-- Something open around the current place. -/
inductive Nest where
  /-- A bracket that the given character closes. -/
  | bracket (close : Char) (line : Nat)
  /-- The text of a format string with the given quote, which may be triple and raw. -/
  | format (quote : Char) (triple raw : Bool) (line : Nat)
  /-- A replacement field, with the number of `lambda`s that wait for their colon. -/
  | field (lambdas : Nat)
  /-- The format specification of a replacement field of a format string with the given
  quote. -/
  | spec (quote : Char) (triple : Bool)
  deriving Repr

/-- What a token does to the list of things that are open. -/
inductive Change where
  /-- Nothing. -/
  | keep
  /-- A bracket opens. -/
  | openBracket (close : Char)
  /-- A format string opens. -/
  | openFormat (quote : Char) (triple raw : Bool)
  /-- A replacement field opens. -/
  | openField
  /-- A replacement field turns to its format specification. -/
  | openSpec (quote : Char) (triple : Bool)
  /-- The innermost thing closes. -/
  | close
  /-- A `lambda` in a replacement field waits for its colon. -/
  | await
  /-- A `lambda` in a replacement field has met its colon. -/
  | meet
  deriving Repr

/-- The open things after a token on the given line. -/
def Change.apply (line : Nat) (stack : List Nest) : Change → List Nest
  | .keep => stack
  | .openBracket c => .bracket c line :: stack
  | .openFormat q t r => .format q t r line :: stack
  | .openField => .field 0 :: stack
  | .openSpec q t => .spec q t :: stack.drop 1
  | .close => stack.drop 1
  | .await =>
    match stack with
    | .field n :: rest => .field (n + 1) :: rest
    | _ => stack
  | .meet =>
    match stack with
    | .field n :: rest => .field (n - 1) :: rest
    | _ => stack

/-- What stands at the front of a text. The sizes do not count the first character. -/
inductive Front where
  /-- A line end. -/
  | newline
  /-- White space, part of the text of a format string, or with a note a comment or a line
  continuation. -/
  | skip (more : Nat) (note : Option Text)
  /-- A token. -/
  | token (tok : Tok) (more : Nat) (change : Change)
  /-- Nothing that can be read. -/
  | stuck
  deriving Repr

namespace Front

/-! ### Numbers -/

/-- The size of the longest run of digits at the front, with single low lines after digits. -/
def digitRun (digit : Char → Bool) : Text → Nat
  | [] => 0
  | c :: '_' :: s => if digit c then 2 + digitRun digit s else 0
  | c :: s => if digit c then 1 + digitRun digit s else 0

/-- The size of the longest run of digits at the front, with single low lines before
digits. -/
def digitRunAfter (digit : Char → Bool) : Text → Nat
  | [] => 0
  | '_' :: c :: s => if digit c then 2 + digitRunAfter digit s else 0
  | c :: s => if digit c then 1 + digitRunAfter digit s else 0

/-- One more if the text after the first `n` characters begins with one of some letters. -/
def withSuffix (letters : List Char) (s : Text) (n : Nat) : Nat :=
  match (s.drop n).head? with
  | some c => if letters.contains c then n + 1 else n
  | none => n

/-- Whether a character is a hexadecimal digit. -/
def isHex (c : Char) : Bool := c.isDigit || ('a' ≤ c && c ≤ 'f') || ('A' ≤ c && c ≤ 'F')

/-- The size of an integer with a base letter, or zero. -/
def basedSize (s : Text) : Nat :=
  let sized (digit : Char → Bool) (t : Text) : Nat :=
    let n := digitRunAfter digit t
    if n = 0 then 0 else withSuffix ['l', 'L'] s (2 + n)
  match s with
  | '0' :: c :: t =>
    if c = 'x' ∨ c = 'X' then sized isHex t
    else if c = 'o' ∨ c = 'O' then sized (fun d => '0' ≤ d && d ≤ '7') t
    else if c = 'b' ∨ c = 'B' then sized (fun d => d == '0' || d == '1') t
    else 0
  | _ => 0

/-- The size with an exponent, if there is one after the first `n` characters. -/
def withExponent (s : Text) (n : Nat) : Nat :=
  match s.drop n with
  | c :: t =>
    if c = 'e' ∨ c = 'E' then
      let (signs, t) :=
        match t with
        | '+' :: u => (1, u)
        | '-' :: u => (1, u)
        | _ => (0, t)
      let k := digitRun Char.isDigit t
      if k = 0 then n else n + 1 + signs + k
    else n
  | [] => n

/-- The size of the number at the front of a text, or zero: the longest of a based integer, a
decimal integer, and a number with a point or an exponent. -/
def numberSize (s : Text) : Nat :=
  let whole := digitRun Char.isDigit s
  let plain := if whole = 0 then 0 else withSuffix ['l', 'L', 'j', 'J'] s whole
  let pointed :=
    match s.drop whole with
    | '.' :: t =>
      let k := digitRun Char.isDigit t
      if whole = 0 ∧ k = 0 then 0
      else withSuffix ['j', 'J'] s (withExponent s (whole + 1 + k))
    | _ => 0
  let scaled :=
    if whole = 0 then 0
    else
      let k := withExponent s whole
      if k = whole then 0 else withSuffix ['j', 'J'] s k
  max (max (basedSize s) plain) (max pointed scaled)

/-! ### Strings -/

/-- The size of the body of a string up to its closing quote; `none` when it does not close. A
backslash keeps the next character from closing it. -/
def bodySize (quote : Char) (triple : Bool) : Text → Option Nat
  | [] => none
  | c :: s =>
    if c = '\\' then
      match s with
      | [] => none
      | _ :: t => (bodySize quote triple t).map (· + 2)
    else if c = quote then
      if triple then
        match s with
        | d :: e :: _ =>
          if d = quote ∧ e = quote then some 0 else (bodySize quote triple s).map (· + 1)
        | _ => none
      else some 0
    else if c = '\n' ∧ !triple then none
    else (bodySize quote triple s).map (· + 1)

/-- Whether a letter may stand before the opening quote of a string. -/
def isStringLetter (c : Char) : Bool := "rRbBuUfF".toList.contains c

/-- Whether a character may delimit a string. -/
def isQuote (c : Char) : Bool := c == '"' || c == '\'' || c == '\x60'

/-- Whether a text begins with three copies of a quote. A backquote is never tripled. -/
def startsTriple (quote : Char) (s : Text) : Bool :=
  quote != '\x60' && [quote, quote, quote].isPrefixOf s

/-- The string literal or the opening of a format string at the front of a text that begins
with the given letters and then a quote. -/
def readString (s letters : Text) (quote : Char) : Front :=
  let n := letters.length
  let triple := startsTriple quote (s.drop n)
  let q := if triple then 3 else 1
  if letters.any (fun c => c == 'f' || c == 'F') then
    .token .formatOpen (n + q - 1)
      (.openFormat quote triple (letters.any fun c => c == 'r' || c == 'R'))
  else
    match bodySize quote triple (s.drop (n + q)) with
    | some k => .token (.string (s.take (n + q + k + q))) (n + q + k + q - 1) .keep
    | none => .stuck

/-! ### The text of a format string -/

/-- The size of the run at the front that is plain text of a format string. -/
def formatRun (quote : Char) (triple raw : Bool) : Text → Nat
  | [] => 0
  | ['\\'] => 1
  | '\\' :: d :: s =>
    if d = '\x7b' ∨ d = '\x7d' then 1 + formatRun quote triple raw (d :: s)
    else if d = 'N' ∧ !raw ∧ s.head? = some '\x7b' then
      let name := s.takeWhile (· != '\x7d')
      if name.length < s.length then
        3 + name.length + formatRun quote triple raw (s.drop (name.length + 1))
      else 2
    else 2 + formatRun quote triple raw s
  | c :: s =>
    if c = '\x7b' ∨ c = '\x7d' then
      if s.head? = some c then 2 + formatRun quote triple raw (s.drop 1) else 0
    else if c = quote ∧ (!triple || startsTriple quote (c :: s)) then 0
    else if c = '\n' ∧ !triple then 0
    else 1 + formatRun quote triple raw s
termination_by s => s.length
decreasing_by all_goals simp only [List.length_cons, List.length_drop]; omega

/-- The size of the run at the front that is plain text of a format specification. -/
def specRun (quote : Char) (triple : Bool) : Text → Nat
  | [] => 0
  | c :: s =>
    if c = '\x7b' ∨ c = '\x7d' then 0
    else if c = quote ∧ (!triple || startsTriple quote (c :: s)) then 0
    else if c = '\n' ∧ !triple then 0
    else 1 + specRun quote triple s

/-- The front of a text inside a format string. -/
def readFormat (quote : Char) (triple raw : Bool) (c : Char) (s : Text) : Front :=
  match formatRun quote triple raw (c :: s) with
  | n + 1 => .skip n none
  | 0 =>
    if c = '\x7b' then .token .fieldOpen 0 .openField
    else if c = quote then .token .formatClose (if triple then 2 else 0) .close
    else .stuck

/-- The front of a text inside a format specification. -/
def readSpec (quote : Char) (triple : Bool) (c : Char) (s : Text) : Front :=
  match specRun quote triple (c :: s) with
  | n + 1 => .skip n none
  | 0 =>
    if c = '\x7b' then .token .fieldOpen 0 .openField
    else if c = '\x7d' then .token .fieldClose 0 .close
    else .stuck

/-! ### Punctuation -/

/-- The marks by their spelling, the longer ones first. -/
def marks : List (String × Mark) :=
  [("**=", .augmented), ("//=", .augmented), (">>=", .augmented), ("<<=", .augmented),
    ("...", .ellipsis), ("+=", .augmented), ("-=", .augmented), ("*=", .augmented),
    ("/=", .augmented), ("%=", .augmented), ("@=", .augmented), ("&=", .augmented),
    ("|=", .augmented), ("^=", .augmented), (":=", .walrus), ("->", .arrow), ("**", .doubleStar),
    ("//", .infixOp), (">>", .shiftRight), ("<<", .infixOp), ("==", .infixOp), ("!=", .infixOp),
    ("<=", .infixOp), (">=", .infixOp), ("<>", .infixOp), ("+", .plus), ("-", .minus),
    ("*", .star), ("/", .slash), ("%", .infixOp), ("@", .at), ("&", .infixOp), ("|", .bar),
    ("^", .infixOp), ("~", .tilde), ("<", .infixOp), (">", .infixOp), ("=", .equals),
    (":", .colon), (",", .comma), (".", .dot), (";", .semicolon)]

/-- The longest mark that a text begins with. -/
def mark? (s : Text) : Option (Mark × Nat) :=
  marks.findSome? fun (spelling, m) =>
    if spelling.toList.isPrefixOf s then some (m, spelling.length) else none

/-- The bracket that a character opens, with the character that closes it. -/
def opening? (c : Char) : Option (Mark × Char) :=
  if c = '(' then some (.roundOpen, ')')
  else if c = '[' then some (.squareOpen, ']')
  else if c = '\x7b' then some (.curlyOpen, '\x7d')
  else none

/-- The bracket that a character closes. -/
def closing? (c : Char) : Option Mark :=
  if c = ')' then some .roundClose
  else if c = ']' then some .squareClose
  else if c = '\x7d' then some .curlyClose
  else none

/-- The word at the front of a text that begins with the given character. -/
def readWord (stack : List Nest) (c : Char) (s : Text) : Front :=
  let more := s.takeWhile Identifier.isContinue
  match Tok.ofWord (c :: more), stack with
  | .keyword .exceptK, _ =>
    if (s.drop more.length).head? = some '*' then .token .exceptStar (more.length + 1) .keep
    else .token (.keyword .exceptK) more.length .keep
  | .keyword .lambdaK, .field _ :: _ => .token (.keyword .lambdaK) more.length .await
  | t, _ => .token t more.length .keep

/-- Whether a character is white space between tokens; a line feed is not. -/
def isSpace (c : Char) : Bool :=
  c == ' ' || c == '\t' || c == '\x0c' || c == '\r' || c == '\ufeff' || c == '\u200b' ||
    c == '\u2060'

/-- The mark at the front of a text. A colon directly in a replacement field begins its format
specification unless a `lambda` waits for it. -/
def readMark (stack : List Nest) (c : Char) (s : Text) : Front :=
  match opening? c with
  | some (m, close) => .token (.mark m) 0 (.openBracket close)
  | none =>
    match closing? c, stack with
    | some m, .bracket close _ :: _ => if c = close then .token (.mark m) 0 .close else .stuck
    | some m, .field _ :: _ => if m = .curlyClose then .token .fieldClose 0 .close else .stuck
    | some _, _ => .stuck
    | none, .field n :: rest =>
      if c = ':' then
        if n = 0 then
          match rest with
          | .format q t _ _ :: _ => .token .formatSpec 0 (.openSpec q t)
          | .spec q t :: _ => .token .formatSpec 0 (.openSpec q t)
          | _ => .stuck
        else .token (.mark .colon) 0 .meet
      else
        match mark? (c :: s) with
        | some (m, n) => .token (.mark m) (n - 1) .keep
        | none =>
          if c = '!' ∧ (s.head?.map Char.isAlpha) = some true then .token .conversion 1 .keep
          else .stuck
    | none, _ =>
      match mark? (c :: s) with
      | some (m, n) => .token (.mark m) (n - 1) .keep
      | none => .stuck

/-- The front of a text outside the text of a format string. -/
def readCode (stack : List Nest) (c : Char) (s : Text) : Front :=
  if c = '\n' then .newline
  else if isSpace c then .skip 0 none
  else if c = '#' then
    let comment := s.takeWhile (· != '\n')
    .skip comment.length (some (c :: comment))
  else if c = '\\' then
    match s with
    | [] => .skip 0 none
    | '\n' :: _ => .skip 1 (some ['\\', '\n'])
    | _ => .stuck
  else
    let letters := (c :: s).takeWhile isStringLetter
    match ((c :: s).drop letters.length).head? with
    | some q =>
      if isQuote q then readString (c :: s) letters q
      else if Identifier.isStart c then readWord stack c s
      else
        match numberSize (c :: s) with
        | n + 1 => .token .number n .keep
        | 0 => readMark stack c s
    | none => readWord stack c s

/-- What stands at the front of a text that begins with the given character. -/
def read (stack : List Nest) (c : Char) (s : Text) : Front :=
  match stack with
  | .format q t r _ :: _ => readFormat q t r c s
  | .spec q t :: _ => readSpec q t c s
  | _ => readCode stack c s

end Front

/-! ### Logical lines -/

/-- Where in a logical line the current place is. -/
inductive Place where
  /-- In the indentation, which has the given width so far. -/
  | margin (width : Nat)
  /-- After the indentation of the given width, before the first token. -/
  | settled (width : Nat)
  /-- After the first token. -/
  | inside
  deriving Repr

/-- The place after white space, a comment or a line continuation that begins with the given
character. -/
def Place.skip (c : Char) : Place → Place
  | .margin w =>
    if c = ' ' then .margin (w + 1)
    else if c = '\t' then .margin (w + 8)
    else if c = '\x0c' ∨ c = '\r' then .margin 0
    else if c = '\\' ∨ c = '#' then .margin w
    else .settled w
  | p => p

/-- What scanning the rest of a program gives: the rest of the current logical line and where
it ends, the lines after it, and what never closes. -/
structure Reading where
  /-- The tokens that still belong to the current logical line. -/
  here : List Lexeme
  /-- The line on which it ends. -/
  stop : Nat
  /-- The logical lines after it. -/
  rows : List Row
  /-- What is still open at the end. -/
  nests : List Nest
  deriving Repr

namespace Reading

/-- A reading with one more token in front. -/
def cons (place : Place) (l : Lexeme) (r : Reading) : Reading :=
  match place with
  | .inside => { r with here := l :: r.here }
  | .margin w => ⟨[], r.stop, ⟨w, l, r.here, r.stop⟩ :: r.rows, r.nests⟩
  | .settled w => ⟨[], r.stop, ⟨w, l, r.here, r.stop⟩ :: r.rows, r.nests⟩

/-- A reading of what comes after the end of a logical line. -/
def newline (line : Nat) (r : Reading) : Reading := { r with here := [], stop := line }

end Reading

/-- How many line feeds a text has. -/
def feeds (s : Text) : Nat := s.count '\n'

/-- The line blamed for something unreadable: that of the format string whose text it is in,
or its own. -/
def blame (line : Nat) : List Nest → Nat
  | .format _ _ _ l :: _ => l
  | _ => line

/-- The logical lines of a text. -/
def scan (line : Nat) (place : Place) (stack : List Nest) (gap : List Text) : Text → Reading
  | [] => ⟨[], line, [], stack⟩
  | c :: s =>
    match Front.read stack c s with
    | .newline =>
      if stack.isEmpty then
        (scan (line + 1) (.margin 0) [] [] s).newline line
      else scan (line + 1) place stack gap s
    | .skip more note =>
      scan (line + feeds (c :: s.take more)) (place.skip c) stack (gap ++ note.toList)
        (s.drop more)
    | .token t more change =>
      (scan (line + feeds (c :: s.take more)) .inside (change.apply line stack) []
        (s.drop more)).cons place ⟨t, line, gap⟩
    | .stuck => Reading.cons place ⟨.invalid, blame line stack, gap⟩ ⟨[], line, [], []⟩
termination_by s => s.length
decreasing_by all_goals simp only [List.length_cons, List.length_drop]; omega

/-- A program as logical lines. -/
structure Scanned where
  /-- The logical lines. -/
  rows : List Row
  /-- What never closes. -/
  nests : List Nest
  /-- The last line. -/
  last : Nat

/-- The text without a byte order mark at its front. -/
def dropMark : Text → Text
  | '\ufeff' :: s => s
  | s => s

/-- The number of lines of a text, where a line feed at the very end begins no further line. -/
def lastLine (s : Text) : Nat := if s.getLast? = some '\n' then feeds s else feeds s + 1

/-- The logical lines of a whole program. -/
def Scanned.ofText (s : Text) : Scanned :=
  let r := scan 1 (.margin 0) [] [] (dropMark s)
  ⟨r.rows, r.nests, lastLine s⟩

end CodeAtlas.Python
