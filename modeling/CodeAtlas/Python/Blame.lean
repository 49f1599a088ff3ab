import CodeAtlas.Python.Expression

/-!
# The token to blame

Where some tokens stop being an expression, a header or an expression statement, the token that
is stuck is to blame, with two exceptions. When two expressions stand side by side inside
brackets, the first one is; and when an `if` in an expression lacks its `else`, the expression
before the `if` is.
-/

namespace CodeAtlas.Python.Expression

/-- A token with the one before it and the state in which it comes. -/
structure Moment where
  /-- The token before. -/
  previous : Option Tok
  /-- The state in which the token comes. -/
  state : State
  /-- The token. -/
  tok : Tok
  deriving DecidableEq, Repr

/-- The moments of some tokens up to the first one that is refused. -/
def moments (previous : Option Tok) (q : State) : List Tok → List Moment
  | [] => []
  | t :: ts =>
    ⟨previous, q, t⟩ ::
      match step q t with
      | none => []
      | some q' => moments (some t) q' ts

namespace Moment

/-- Whether an expression begins here, or an element in place of one. -/
def starts (m : Moment) : Bool :=
  match m.state.phase with
  | .element _ | .slice | .yielded | .operand false true => true
  | .operand true _ =>
    m.previous != some (.keyword .andK) && m.previous != some (.keyword .orK) &&
      m.previous != some (.keyword .notK)
  | _ => false

/-- Whether it is a whole expression that begins here, and not what a star takes apart. Only an
argument may be a whole expression behind a star. -/
def startsWhole (m : Moment) : Bool :=
  m.tok != .mark .star &&
    (match m.previous, m.state.top with
      | some (.mark .star), .arguments _ _ _ | some (.mark .doubleStar), .arguments _ _ _ => true
      | some (.mark .star), _ | some (.mark .doubleStar), _ => false
      | _, _ => true)

/-- Whether the token is a word that may begin some other statement. -/
def isContextual (m : Moment) : Bool :=
  match m.tok with
  | .name s => s == ['_']
  | .soft .matchK | .soft .caseK => true
  | _ => false

/-- Whether the token is a word. -/
def isWord (m : Moment) : Bool :=
  match m.tok with
  | .name _ | .soft _ => true
  | _ => false

/-- Whether the token opens a string. -/
def isString (m : Moment) : Bool :=
  match m.tok with
  | .string _ | .formatOpen => true
  | _ => false

end Moment

/-- Whether a frame is a pair of brackets. -/
def Frame.isBracket : Frame → Bool
  | .group _ _ _ _ | .braces _ _ | .arguments _ _ _ | .subscript _ _ | .comprehension _ _ _
  | .parameters _ => true
  | _ => false

/-- Whether elements of a frame are whole expressions. -/
def Frame.holdsExpressions : Frame → Bool
  | .group _ _ _ _ | .braces _ _ | .arguments _ _ _ | .subscript _ _ => true
  | .lambda .default | .parameters .default | .parameters .hint => true
  | _ => false

/-- Whether some tokens begin with a whole expression. -/
def beginsWithExpression (ts : List Tok) : Bool :=
  (moments none ⟨.operand true true, .base .one, []⟩ ts).any fun m =>
    match step m.state m.tok with
    | some q => final q
    | none => false

/-- The last of some moments, the newest first, in which an expression starts with the given
number of frames around it. -/
def lastStart? (depth : Nat) (past : List (Moment × Nat)) : Option (Moment × Nat) :=
  past.find? fun p => p.1.state.outer.length == depth && p.1.starts

/-- The place of the expression to blame in place of a stuck token, if there is one. The moments
before it come newest first, the tokens from it on follow. -/
def blamedStart? (past : List (Moment × Nat)) (m : Moment) (ts : List Tok) : Option Nat :=
  match m.state.phase, m.state.top with
  | .after _ _, .choice =>
    if m.tok = .mark .colon then none
    else (lastStart? (m.state.outer.length - 1) past).map (·.2)
  | .after _ _, top =>
    if top.holdsExpressions && (top :: m.state.outer).any Frame.isBracket &&
        beginsWithExpression ts then
      match lastStart? m.state.outer.length past, past.head? with
      | some (first, i), some (last, k) =>
        let alone := i == k && first.isWord
        if !first.startsWhole || first.isContextual || (alone && m.isString) ||
            (alone && (last.tok == .soft .printK || last.tok == .soft .execK)) then none
        else some i
      | _, _ => none
    else none
  | _, _ => none

/-- The place of the token to blame when the one at place `n` is stuck. -/
def blamed (q : State) (ts : List Tok) (n : Nat) : Nat :=
  let ms := (moments none q ts).zipIdx
  match ms[n]? with
  | none => n
  | some (m, _) => min n ((blamedStart? (ms.take n).reverse m (ts.drop n)).getD n)

/-- The place of the token to blame when some tokens are not the given construct. -/
def stuckAt (b : Base) (p : Phase) (ts : List Tok) : Option Nat :=
  (recognizer.stuckAt ⟨p, .base b, []⟩ ts).map (blamed ⟨p, .base b, []⟩ ts)

end CodeAtlas.Python.Expression
