import CodeAtlas.Python.Recognizer
import CodeAtlas.Python.Token

/-!
# The tokens of expressions, headers and expression statements

Whether a run of tokens is an expression, the header of a compound statement or an expression
statement is decided by one pass with a stack of frames, one for each bracket or other
construct that is open. Operators need no precedence here, since only the shape counts: where
an operand must stand, what may follow one, and which operands can be assigned to.
-/

namespace CodeAtlas.Python.Expression

/-- What the operand just read looks like. -/
inductive Shape where
  /-- A single name. -/
  | name
  /-- An attribute, a subscript, or a list of things that can be assigned to. -/
  | target
  /-- A string, which may be continued by another. -/
  | string
  /-- Anything else. -/
  | value
  deriving DecidableEq, Repr

/-- Which part of a comprehension is being read. -/
inductive Clause where
  /-- The targets after `for`; they can all be assigned to so far, or not. -/
  | targets (ok : Bool)
  /-- What comes after `in`. -/
  | source
  /-- A condition after `if`. -/
  | condition
  deriving DecidableEq, Repr

/-- What has been read of a parameter. -/
inductive Slot where
  /-- Nothing that an operand would belong to. -/
  | empty
  /-- A name; the operand is its annotation. -/
  | hint
  /-- A starred name; the operand is its annotation. -/
  | starHint
  /-- The operand is a default value. -/
  | default
  /-- The operand is a tuple of names. -/
  | tuple
  deriving DecidableEq, Repr

/-- What a display in braces turned out to be. -/
inductive Braces where
  /-- Not decided yet. -/
  | start
  /-- A dictionary, at a key. -/
  | key
  /-- A dictionary, at a value; it is the value of the first key or not. -/
  | entry (first : Bool)
  /-- A set. -/
  | set
  deriving DecidableEq, Repr

/-- The outermost construct. -/
inductive Base where
  /-- One expression. -/
  | one
  /-- Expressions with commas between them and perhaps at the end. -/
  | many
  /-- Expressions with commas between them. -/
  | listed
  /-- At most two expressions with a comma between them. -/
  | pair (second : Bool)
  /-- What follows `raise`. -/
  | raising
  /-- An expression statement; all parts so far can be assigned to, or not. -/
  | statement (ok : Bool)
  /-- The annotation of an assignment. -/
  | annotated
  /-- The right side of an assignment; all parts so far can be assigned to, or not. -/
  | assigned (ok : Bool)
  /-- The targets of a `for` statement; they can all be assigned to so far, or not. -/
  | loop (ok : Bool)
  /-- The header of a function, of a class, or of a type alias. -/
  | funcHeader | classHeader | aliasHeader
  deriving DecidableEq, Repr

/-- Something open. A frame that makes an operand knows whether that operand stands alone at
the start of its element. -/
inductive Frame where
  /-- The outermost construct. -/
  | base (b : Base)
  /-- Round or square brackets around elements: one element so far, and all of them can be
  assigned to. -/
  | group (square single ok fresh : Bool)
  /-- Braces. -/
  | braces (b : Braces) (fresh : Bool)
  /-- The arguments of a call: one so far, and the current one follows a keyword. -/
  | arguments (single keyword fresh : Bool)
  /-- A subscript, with the number of colons in the current slice. -/
  | subscript (colons : Nat) (fresh : Bool)
  /-- A comprehension that ends with the given mark. -/
  | comprehension (close : Mark) (clause : Clause) (fresh : Bool)
  /-- Between `if` and `else`. -/
  | choice
  /-- The parameters of a `lambda`. -/
  | lambda (slot : Slot)
  /-- The parameters of a function. -/
  | parameters (slot : Slot)
  /-- Type parameters; the current one has a bound. -/
  | typeParameters (bound : Bool)
  /-- A format string. -/
  | format (fresh : Bool)
  /-- A replacement field. -/
  | field
  /-- A format specification. -/
  | spec
  deriving DecidableEq, Repr

/-- What may come next. -/
inductive Phase where
  /-- An element; it may be left out, or not. -/
  | element (optional : Bool)
  /-- An operand: any expression may begin here or only a primary one, and the operand stands
  alone at the start of its element, or not. -/
  | operand (full fresh : Bool)
  /-- What follows an operand. -/
  | after (fresh : Bool) (shape : Shape)
  /-- A word after a dot. -/
  | attribute (fresh : Bool)
  /-- What follows `await`, which may have been a name. -/
  | awaited (fresh : Bool)
  /-- `in` after `not`. -/
  | negated
  /-- What follows `is`. -/
  | identity
  /-- `for` after `async`. -/
  | asyncFor
  /-- What follows `yield`. -/
  | yielded
  /-- A part of a slice, which may be left out. -/
  | slice
  /-- The end of the arguments after a lone comma. -/
  | closing
  /-- A parameter; it may be left out, or not. -/
  | parameter (optional : Bool)
  /-- What follows the name of a parameter. -/
  | named
  /-- What follows a star among parameters. -/
  | starred
  /-- The name after two stars among parameters. -/
  | doubleStarred
  /-- What follows a starred name. -/
  | starNamed
  /-- What follows a complete parameter. -/
  | parameterEnd
  /-- The text of a format string or specification. -/
  | text
  /-- What follows `=` in a replacement field. -/
  | debugged
  /-- What follows the conversion in a replacement field. -/
  | converted
  /-- The name that a header defines. -/
  | header
  /-- What follows that name; type parameters may still come, or not. -/
  | headerName (typed : Bool)
  /-- What follows the parameters of a function. -/
  | returns
  /-- Nothing. -/
  | done
  deriving DecidableEq, Repr

/-- A state: what may come next, the innermost frame, and the frames around it. -/
structure State where
  /-- What may come next. -/
  phase : Phase
  /-- The innermost frame. -/
  top : Frame
  /-- The frames around it, from the inside out. -/
  outer : List Frame
  deriving DecidableEq, Repr

namespace State

/-- The same frames in another phase. -/
def go (q : State) (p : Phase) : Option State := some { q with phase := p }

/-- The innermost frame replaced. -/
def turn (q : State) (f : Frame) (p : Phase) : Option State := some { q with phase := p, top := f }

/-- One more frame. -/
def push (q : State) (f : Frame) (p : Phase) : Option State := some ⟨p, f, q.top :: q.outer⟩

/-- The innermost frame taken away. -/
def pop (q : State) (p : Phase) : Option State :=
  match q.outer with
  | [] => none
  | f :: fs => some ⟨p, f, fs⟩

end State

/-- Whether the frame reads targets, which take no operators. -/
def Frame.readsTargets : Frame → Bool
  | .base (.loop _) => true
  | .comprehension _ (.targets _) _ => true
  | .lambda .tuple | .parameters .tuple => true
  | _ => false

/-- Whether an operand can be assigned to. -/
def assignable (fresh : Bool) : Shape → Bool
  | .name | .target => fresh
  | _ => false

/-- The state after a token that begins an operand. -/
def beginOperand (q : State) (full fresh : Bool) : Tok → Option State
  | .name _ => q.go (.after fresh .name)
  | .soft .awaitK => q.go (.awaited fresh)
  | .soft _ => q.go (.after fresh .name)
  | .keyword .falseK | .keyword .noneK | .keyword .trueK => q.go (.after fresh .value)
  | .number => q.go (.after fresh .value)
  | .string _ => q.go (.after fresh .string)
  | .formatOpen => q.push (.format fresh) .text
  | .mark .ellipsis => q.go (.after fresh .value)
  | .mark .roundOpen => q.push (.group false true true fresh) (.element true)
  | .mark .squareOpen => q.push (.group true true true fresh) (.element true)
  | .mark .curlyOpen => q.push (.braces .start fresh) (.element true)
  | .mark .plus | .mark .minus | .mark .tilde => q.go (.operand false false)
  | .keyword .notK => if full then q.go (.operand true false) else none
  | .keyword .lambdaK => if full then q.push (.lambda .empty) (.parameter true) else none
  | _ => none

/-- The state after the innermost bracket closes around something assignable or not. -/
def closeWith (q : State) (fresh : Bool) (shape : Shape) : Option State :=
  match q.outer with
  | .base .classHeader :: _ => q.pop .done
  | _ => q.pop (.after fresh shape)

/-- The shape of brackets around elements that can all be assigned to, or not. -/
def groupShape (ok : Bool) : Shape := if ok then .target else .value

/-- The state after a comprehension begins inside a frame, if the frame allows one. -/
def beginComprehension (q : State) (p : Phase) : Option State :=
  match q.top with
  | .group square true _ fresh =>
    q.turn (.comprehension (if square then .squareClose else .roundClose) (.targets true) fresh) p
  | .braces .start fresh => q.turn (.comprehension .curlyClose (.targets true) fresh) p
  | .braces (.entry true) fresh => q.turn (.comprehension .curlyClose (.targets true) fresh) p
  | .arguments true false fresh =>
    if q.outer.head? = some (.base .classHeader) then none
    else q.turn (.comprehension .roundClose (.targets true) fresh) p
  | .comprehension close .source fresh => q.turn (.comprehension close (.targets true) fresh) p
  | .comprehension close .condition fresh =>
    q.turn (.comprehension close (.targets true) fresh) p
  | _ => none

/-- The state after a token that ends a parameter. -/
def endParameter (q : State) (t : Tok) : Option State :=
  match t, q.top with
  | .mark .comma, .lambda _ => q.turn (.lambda .empty) (.parameter true)
  | .mark .comma, .parameters _ => q.turn (.parameters .empty) (.parameter true)
  | .mark .colon, .lambda _ => q.pop (.operand true false)
  | .mark .roundClose, .parameters _ => q.pop .returns
  | _, _ => none

/-- The state after a token that belongs to the innermost frame and not to the operand before
it. -/
def endOperand (q : State) (ok isName : Bool) (t : Tok) : Option State :=
  match t, q.top with
  | .keyword .forK, _ => beginComprehension q (.element false)
  | .soft .asyncK, _ => beginComprehension q .asyncFor
  | .keyword .elseK, .choice => q.pop (.operand true false)
  -- the outermost construct
  | .mark .comma, .base .many => q.go (.element true)
  | .mark .comma, .base .listed => q.go (.operand true true)
  | .mark .comma, .base (.pair false) => q.turn (.base (.pair true)) (.operand true true)
  | .mark .comma, .base .raising => q.go (.operand true true)
  | .keyword .fromK, .base .raising => q.turn (.base .one) (.operand true true)
  | .mark .comma, .base (.statement b) => q.turn (.base (.statement (b && ok))) (.element true)
  | .mark .comma, .base (.assigned b) => q.turn (.base (.assigned (b && ok))) (.element true)
  | .mark .comma, .base (.loop b) => q.turn (.base (.loop (b && ok))) (.element true)
  | .mark .equals, .base (.statement b) =>
    if b && ok then q.turn (.base (.assigned true)) (.element false) else none
  | .mark .equals, .base (.assigned b) =>
    if b && ok then q.turn (.base (.assigned true)) (.element false) else none
  | .mark .equals, .base .annotated => q.turn (.base (.assigned true)) (.element false)
  | .mark .augmented, .base (.statement b) =>
    if b && ok then q.turn (.base (.assigned true)) (.element false) else none
  | .mark .augmented, .base (.assigned b) =>
    if b && ok then q.turn (.base (.assigned true)) (.element false) else none
  | .mark .colon, .base (.statement b) =>
    if b && ok then q.turn (.base .annotated) (.operand true true) else none
  | .keyword .inK, .base (.loop b) =>
    if b && ok then q.turn (.base .many) (.element false) else none
  -- brackets
  | .mark .comma, .group square _ b fresh =>
    q.turn (.group square false (b && ok) fresh) (.element true)
  | .mark .roundClose, .group false _ b fresh => closeWith q fresh (groupShape (b && ok))
  | .mark .squareClose, .group true _ b fresh => closeWith q fresh (groupShape (b && ok))
  | .mark .colon, .braces .start fresh => q.turn (.braces (.entry true) fresh) (.operand true true)
  | .mark .colon, .braces .key fresh => q.turn (.braces (.entry false) fresh) (.operand true true)
  | .mark .comma, .braces .start fresh => q.turn (.braces .set fresh) (.element true)
  | .mark .comma, .braces .set _ => q.go (.element true)
  | .mark .comma, .braces (.entry _) fresh => q.turn (.braces .key fresh) (.element true)
  | .mark .curlyClose, .braces .key _ => none
  | .mark .curlyClose, .braces _ fresh => closeWith q fresh .value
  | .mark .comma, .arguments _ _ fresh => q.turn (.arguments false false fresh) (.element true)
  | .mark .equals, .arguments _ false fresh =>
    if isName then q.turn (.arguments false true fresh) (.operand true true) else none
  | .mark .roundClose, .arguments _ _ fresh => closeWith q fresh .value
  | .mark .comma, .subscript _ fresh => q.turn (.subscript 0 fresh) (.element true)
  | .mark .colon, .subscript n fresh =>
    if n < 2 then q.turn (.subscript (n + 1) fresh) .slice else none
  | .mark .squareClose, .subscript _ fresh => closeWith q fresh .target
  -- comprehensions
  | .mark .comma, .comprehension close (.targets b) fresh =>
    q.turn (.comprehension close (.targets (b && ok)) fresh) (.element true)
  | .keyword .inK, .comprehension close (.targets b) fresh =>
    if b && ok then q.turn (.comprehension close .source fresh) (.operand true true) else none
  | .mark .comma, .comprehension _ .source _ => q.go (.operand true true)
  | .keyword .ifK, .comprehension close .source fresh =>
    q.turn (.comprehension close .condition fresh) (.operand true true)
  | .keyword .ifK, .comprehension close .condition fresh =>
    q.turn (.comprehension close .condition fresh) (.operand true true)
  | .mark m, .comprehension close .source fresh =>
    if m = close then closeWith q fresh .value else none
  | .mark m, .comprehension close .condition fresh =>
    if m = close then closeWith q fresh .value else none
  -- parameters
  | .mark .equals, .parameters .hint => q.turn (.parameters .default) (.operand true true)
  | .mark .equals, .lambda .tuple =>
    if ok then q.turn (.lambda .default) (.operand true true) else none
  | .mark .equals, .parameters .tuple =>
    if ok then q.turn (.parameters .default) (.operand true true) else none
  | t, .lambda slot => if ok || slot != .tuple then endParameter q t else none
  | t, .parameters slot => if ok || slot != .tuple then endParameter q t else none
  | .mark .colon, .typeParameters false => q.turn (.typeParameters true) (.operand true true)
  | .mark .comma, .typeParameters _ => q.turn (.typeParameters false) (.element true)
  | .mark .squareClose, .typeParameters _ => q.pop (.headerName false)
  -- replacement fields
  | .mark .comma, .field => q.go (.element true)
  | .mark .equals, .field => q.go .debugged
  | .conversion, .field => q.go .converted
  | .formatSpec, .field => q.turn .spec .text
  | .fieldClose, .field => q.pop .text
  | _, _ => none

/-- The state after a token that follows an operand. -/
def continueOperand (q : State) (fresh : Bool) (shape : Shape) (t : Tok) : Option State :=
  match t with
  | .mark .dot => q.go (.attribute fresh)
  | .mark .roundOpen => q.push (.arguments true false fresh) (.element true)
  | .mark .squareOpen => q.push (.subscript 0 fresh) (.element false)
  | .string _ =>
    if shape = .string then q.go (.after fresh .string) else none
  | .formatOpen =>
    if shape = .string then q.push (.format fresh) .text else none
  | _ =>
    let ends := endOperand q (assignable fresh shape) (fresh && shape == .name) t
    if q.top.readsTargets then ends
    else
      match t with
      | .mark .plus | .mark .minus | .mark .star | .mark .slash | .mark .doubleStar | .mark .at
      | .mark .bar | .mark .shiftRight | .mark .infixOp => q.go (.operand false false)
      | .keyword .andK | .keyword .orK => q.go (.operand true false)
      | .keyword .inK => q.go (.operand false false)
      | .keyword .asK => q.go (.operand false false)
      | .keyword .isK => q.go .identity
      | .keyword .notK => q.go .negated
      | .keyword .ifK =>
        match q.top with
        | .comprehension _ _ _ => ends
        | _ => q.push .choice (.operand true false)
      | .mark .walrus => if fresh && shape == .name then q.go (.operand true false) else none
      | _ => ends

/-- The state after a token where an element may begin. -/
def beginElement (q : State) (optional : Bool) (t : Tok) : Option State :=
  match t, q.top with
  -- the element is left out
  | .mark .equals, .base (.statement b) =>
    if optional && b then q.turn (.base (.assigned true)) (.element false) else none
  | .mark .equals, .base (.assigned b) =>
    if optional && b then q.turn (.base (.assigned true)) (.element false) else none
  | .mark .augmented, .base (.statement b) =>
    if optional && b then q.turn (.base (.assigned true)) (.element false) else none
  | .mark .augmented, .base (.assigned b) =>
    if optional && b then q.turn (.base (.assigned true)) (.element false) else none
  | .keyword .inK, .base (.loop b) =>
    if optional && b then q.turn (.base .many) (.element false) else none
  | .keyword .inK, .comprehension close (.targets b) fresh =>
    if optional && b then q.turn (.comprehension close .source fresh) (.operand true true) else none
  | .mark .roundClose, .group false _ b fresh =>
    if optional then closeWith q fresh (groupShape b) else none
  | .mark .squareClose, .group true _ b fresh =>
    if optional then closeWith q fresh (groupShape b) else none
  | .mark .curlyClose, .braces _ fresh => if optional then closeWith q fresh .value else none
  | .mark .roundClose, .arguments _ _ fresh => if optional then closeWith q fresh .value else none
  | .mark .comma, .arguments true false _ => q.go .closing
  | .mark .squareClose, .subscript _ fresh =>
    if optional then closeWith q fresh .target else none
  | .mark .squareClose, .typeParameters _ => if optional then q.pop (.headerName false) else none
  | .mark .equals, .field => if optional then q.go .debugged else none
  | .conversion, .field => if optional then q.go .converted else none
  | .formatSpec, .field => if optional then q.turn .spec .text else none
  | .fieldClose, .field => if optional then q.pop .text else none
  -- the element begins with something that only some frames allow
  | .mark .colon, .subscript _ fresh => q.turn (.subscript 1 fresh) .slice
  | .mark .doubleStar, .braces .start fresh =>
    q.turn (.braces (.entry false) fresh) (.operand true true)
  | .mark .doubleStar, .braces .key fresh =>
    q.turn (.braces (.entry false) fresh) (.operand true true)
  | .mark .star, .braces .start fresh => q.turn (.braces .set fresh) (.operand true true)
  | .mark .star, .braces .key _ => none
  | .mark .star, .arguments _ _ fresh => q.turn (.arguments false true fresh) (.operand true true)
  | .mark .doubleStar, .arguments _ _ fresh =>
    q.turn (.arguments false true fresh) (.operand true true)
  | .mark .doubleStar, .typeParameters _ => q.go (.operand true true)
  | .mark .star, _ => q.go (.operand false true)
  | .keyword .yieldK, .base (.statement _) => q.turn (.base (.statement false)) .yielded
  | .keyword .yieldK, .base (.assigned _) => q.turn (.base (.assigned false)) .yielded
  | .keyword .yieldK, .group square single _ fresh =>
    q.turn (.group square single false fresh) .yielded
  | .keyword .yieldK, .field => q.go .yielded
  | _, _ => beginOperand q true true t

/-- The state after a token that follows `yield`. -/
def continueYield (q : State) (t : Tok) : Option State :=
  match t, q.top with
  | .keyword .fromK, .base _ => q.turn (.base .one) (.operand true true)
  | .keyword .fromK, _ => q.go (.operand true true)
  | .mark .roundClose, .group false _ _ fresh => closeWith q fresh .value
  | .mark .squareClose, .group true _ _ fresh => closeWith q fresh .value
  | .mark .equals, .field => q.go .debugged
  | .conversion, .field => q.go .converted
  | .formatSpec, .field => q.turn .spec .text
  | .fieldClose, .field => q.pop .text
  | .mark .star, _ => q.go (.operand false true)
  | _, _ => beginOperand q true true t

/-- The state after a token that may begin a parameter. -/
def beginParameter (q : State) (optional : Bool) (t : Tok) : Option State :=
  match t, q.top with
  | .name _, _ => q.go .named
  | .soft _, _ => q.go .named
  | .mark .star, _ => q.go .starred
  | .mark .doubleStar, _ => q.go .doubleStarred
  | .mark .slash, _ => q.go .parameterEnd
  | .mark .roundOpen, .lambda _ =>
    some ⟨.element true, .group false true true true, .lambda .tuple :: q.outer⟩
  | .mark .roundOpen, .parameters _ =>
    some ⟨.element true, .group false true true true, .parameters .tuple :: q.outer⟩
  | .mark .colon, .lambda _ => if optional then q.pop (.operand true false) else none
  | .mark .roundClose, .parameters _ => if optional then q.pop .returns else none
  | _, _ => none

/-- The state after one more token. -/
def step (q : State) (t : Tok) : Option State :=
  match q.phase with
  | .element optional => beginElement q optional t
  | .operand full fresh => beginOperand q full fresh t
  | .after fresh shape => continueOperand q fresh shape t
  | .attribute fresh => if t.word?.isSome then q.go (.after fresh .target) else none
  | .awaited fresh =>
    match continueOperand q fresh .name t with
    | some q' => some q'
    | none => beginOperand q false false t
  | .negated => if t = .keyword .inK then q.go (.operand false false) else none
  | .identity =>
    if t = .keyword .notK then q.go (.operand false false) else beginOperand q false false t
  | .asyncFor => if t = .keyword .forK then q.go (.element false) else none
  | .yielded => continueYield q t
  | .slice =>
    match endOperand q false false t with
    | some q' => some q'
    | none => beginOperand q true true t
  | .closing =>
    match t, q.top with
    | .mark .roundClose, .arguments _ _ fresh => closeWith q fresh .value
    | _, _ => none
  | .parameter optional => beginParameter q optional t
  | .named =>
    match t, q.top with
    | .mark .equals, .lambda _ => q.turn (.lambda .default) (.operand true true)
    | .mark .equals, .parameters _ => q.turn (.parameters .default) (.operand true true)
    | .mark .colon, .parameters _ => q.turn (.parameters .hint) (.operand true true)
    | _, _ => endParameter q t
  | .starred =>
    match t with
    | .name _ | .soft _ => q.go .starNamed
    | _ => endParameter q t
  | .doubleStarred =>
    match t with
    | .name _ | .soft _ => q.go .starNamed
    | _ => none
  | .starNamed =>
    match t, q.top with
    | .mark .colon, .parameters _ => q.turn (.parameters .starHint) (.element false)
    | _, _ => endParameter q t
  | .parameterEnd => endParameter q t
  | .text =>
    match t, q.top with
    | .fieldOpen, _ => q.push .field (.element false)
    | .formatClose, .format fresh => q.pop (.after fresh .string)
    | .fieldClose, .spec => q.pop .text
    | _, _ => none
  | .debugged =>
    match t with
    | .conversion => q.go .converted
    | .formatSpec => q.turn .spec .text
    | .fieldClose => q.pop .text
    | _ => none
  | .converted =>
    match t with
    | .formatSpec => q.turn .spec .text
    | .fieldClose => q.pop .text
    | _ => none
  | .header => if t.word?.isSome then q.go (.headerName true) else none
  | .headerName typed =>
    match t, q.top with
    | .mark .squareOpen, _ =>
      if typed then q.push (.typeParameters false) (.element false) else none
    | .mark .roundOpen, .base .funcHeader => q.push (.parameters .empty) (.parameter true)
    | .mark .roundOpen, .base .classHeader => q.push (.arguments true false true) (.element true)
    | .mark .equals, .base .aliasHeader => q.turn (.base .one) (.operand true true)
    | _, _ => none
  | .returns => if t = .mark .arrow then q.turn (.base .one) (.operand true true) else none
  | .done => none

/-- Whether the tokens may end here. -/
def final (q : State) : Bool :=
  match q.top with
  | .base b =>
    match q.phase with
    | .after _ _ | .awaited _ =>
      match b with
      | .loop _ => false
      | _ => true
    | .element optional =>
      match b with
      | .loop _ => false
      | _ => optional
    | .yielded | .done | .returns => true
    | .headerName _ => b == .classHeader
    | _ => false
  | _ => false

/-- The recognizer of expressions, headers and expression statements. -/
def recognizer : Recognizer Tok := ⟨State, step, final⟩

end CodeAtlas.Python.Expression
