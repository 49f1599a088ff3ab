import CodeAtlas.Python.Recognizer
import CodeAtlas.Python.Token

/-!
# The tokens of `case` patterns

Whether a run of tokens is what may stand between `case` and its guard: one pattern, or several
with commas between them.
-/

namespace CodeAtlas.Python.Pattern

/-- Brackets around patterns, or none. -/
inductive Frame where
  /-- No brackets. -/
  | base
  /-- Round brackets around a sequence or a group. -/
  | round
  /-- Square brackets. -/
  | square
  /-- The round brackets of a class pattern. -/
  | arguments
  /-- Braces, at a key or at a value. -/
  | mapping (value : Bool)
  deriving DecidableEq, Repr

/-- What may come next. -/
inductive Phase where
  /-- A pattern; it may be left out, or not. -/
  | pattern (optional : Bool)
  /-- An alternative, which is no starred name. -/
  | alternative
  /-- What follows a name or a dotted name. -/
  | named (dotted : Bool)
  /-- A word after a dot. -/
  | attribute
  /-- What follows a string. -/
  | string
  /-- A number after a minus sign. -/
  | signed
  /-- What follows a number. -/
  | number
  /-- The second number of a complex one. -/
  | imaginary
  /-- What follows a pattern. -/
  | after
  /-- A name after a star. -/
  | star
  /-- A name after `as`. -/
  | alias
  /-- What follows a pattern that takes no alternative. -/
  | closed
  deriving DecidableEq, Repr

/-- A state: what may come next, the innermost brackets, and those around them. -/
structure State where
  /-- What may come next. -/
  phase : Phase
  /-- The innermost brackets. -/
  top : Frame
  /-- The brackets around them, from the inside out. -/
  outer : List Frame
  deriving DecidableEq, Repr

namespace State

/-- The same brackets in another phase. -/
def go (q : State) (p : Phase) : Option State := some { q with phase := p }

/-- One more bracket. -/
def push (q : State) (f : Frame) (p : Phase) : Option State := some ⟨p, f, q.top :: q.outer⟩

/-- The innermost bracket closed. -/
def close (q : State) : Option State :=
  match q.outer with
  | [] => none
  | f :: fs => some ⟨.after, f, fs⟩

end State

/-- The state after a token that ends a pattern. -/
def ends (q : State) (t : Tok) : Option State :=
  match t, q.top with
  | .mark .comma, .mapping false => none
  | .mark .comma, .mapping true => some ⟨.pattern true, .mapping false, q.outer⟩
  | .mark .comma, _ => q.go (.pattern true)
  | .mark .roundClose, .round => q.close
  | .mark .roundClose, .arguments => q.close
  | .mark .squareClose, .square => q.close
  | .mark .curlyClose, .mapping true => q.close
  | _, _ => none

/-- The state after a token that follows a pattern. -/
def continueAfter (q : State) (t : Tok) : Option State :=
  match t, q.top with
  | .mark .bar, _ => q.go .alternative
  | .keyword .asK, _ => q.go .alias
  | .mark .colon, .mapping false => some ⟨.pattern false, .mapping true, q.outer⟩
  | _, _ => ends q t

/-- The state after a token that begins a pattern without a star. -/
def beginSimple (q : State) (t : Tok) : Option State :=
  match t with
  | .name _ | .soft _ => q.go (.named false)
  | .keyword .noneK | .keyword .trueK | .keyword .falseK => q.go .after
  | .string _ => q.go .string
  | .number => q.go .number
  | .mark .minus => q.go .signed
  | .mark .roundOpen => q.push .round (.pattern true)
  | .mark .squareOpen => q.push .square (.pattern true)
  | .mark .curlyOpen => q.push (.mapping false) (.pattern true)
  | _ => none

/-- The state after a token that begins a pattern. -/
def begin (q : State) (optional : Bool) (t : Tok) : Option State :=
  match t, q.top with
  | .mark .star, _ => q.go .star
  | .mark .doubleStar, .mapping false => some ⟨.star, .mapping true, q.outer⟩
  | .mark .roundClose, .round => if optional then q.close else none
  | .mark .roundClose, .arguments => if optional then q.close else none
  | .mark .squareClose, .square => if optional then q.close else none
  | .mark .curlyClose, .mapping false => if optional then q.close else none
  | _, _ => beginSimple q t

/-- The state after one more token. -/
def step (q : State) (t : Tok) : Option State :=
  match q.phase with
  | .pattern optional => begin q optional t
  | .alternative => beginSimple q t
  | .named dotted =>
    match t with
    | .mark .dot => q.go .attribute
    | .mark .roundOpen => q.push .arguments (.pattern true)
    | .mark .equals => if q.top = .arguments ∧ !dotted then q.go .alternative else none
    | _ => continueAfter q t
  | .attribute => if t.word?.isSome then q.go (.named true) else none
  | .string =>
    match t with
    | .string _ => q.go .string
    | _ => continueAfter q t
  | .signed => if t = .number then q.go .number else none
  | .number =>
    match t with
    | .mark .plus | .mark .minus => q.go .imaginary
    | _ => continueAfter q t
  | .imaginary => if t = .number then q.go .after else none
  | .after => continueAfter q t
  | .star =>
    match t with
    | .name _ | .soft _ => q.go .closed
    | _ => none
  | .alias =>
    match t with
    | .name _ | .soft _ => q.go .closed
    | _ => none
  | .closed => ends q t

/-- Whether the tokens may end here. -/
def final (q : State) : Bool :=
  match q.top, q.phase with
  | .base, .pattern optional => optional
  | .base, .named _ | .base, .string | .base, .number | .base, .after | .base, .closed => true
  | _, _ => false

/-- The recognizer of patterns. -/
def recognizer : Recognizer Tok := ⟨State, step, final⟩

/-- The place where some tokens stop being patterns. -/
def stuckAt (ts : List Tok) : Option Nat := recognizer.stuckAt ⟨.pattern false, .base, []⟩ ts

end CodeAtlas.Python.Pattern
