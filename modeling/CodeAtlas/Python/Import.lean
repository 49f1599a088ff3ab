import CodeAtlas.Python.Recognizer
import CodeAtlas.Python.Token

/-!
# Import statements

Whether a run of tokens is what may follow `import` or `from`, and which names it imports.
Every word may be a name here. Names keep their dots; a name imported from a module is written
after the module's name, and the dots of a relative import are left out. Comments and line
continuations between the parts of a dotted name count as parts of it.
-/

namespace CodeAtlas.Python.Import

/-- What may come next. -/
inductive State where
  /-- A module after `from`. -/
  | module
  /-- What follows the dots of a relative import. -/
  | dots
  /-- What follows the name of a module; it is `__future__`, or not. -/
  | moduleNamed (future : Bool)
  /-- A word after a dot in the name of a module. -/
  | moduleAttribute
  /-- What is imported; from `__future__`, or not. -/
  | names (future : Bool)
  /-- A name; it may be left out, or not; in round brackets, or not. -/
  | name (optional bracketed : Bool)
  /-- What follows a name. -/
  | named (bracketed : Bool)
  /-- A word after a dot in a name. -/
  | attribute (bracketed : Bool)
  /-- A word after `as`. -/
  | alias (bracketed : Bool)
  /-- What follows that word. -/
  | aliased (bracketed : Bool)
  /-- Nothing. -/
  | done
  deriving DecidableEq, Repr

/-- The state after a token that ends a name. -/
def ends (bracketed : Bool) : Tok → Option State
  | .mark .comma => some (.name true bracketed)
  | .mark .roundClose => if bracketed then some .done else none
  | _ => none

/-- The name of the module whose imports turn on language features. -/
def future : Text := "__future__".toList

/-- The state after one more token. -/
def step (q : State) (t : Tok) : Option State :=
  match q with
  | .module =>
    match t with
    | .mark .dot | .mark .ellipsis => some .dots
    | _ => t.word?.map fun w => .moduleNamed (w = future)
  | .dots =>
    match t with
    | .mark .dot | .mark .ellipsis => some .dots
    | .keyword .importK => some (.names false)
    | _ => if t.word?.isSome then some (.moduleNamed false) else none
  | .moduleNamed f =>
    match t with
    | .mark .dot => if f then none else some .moduleAttribute
    | .keyword .importK => some (.names f)
    | _ => none
  | .moduleAttribute => if t.word?.isSome then some (.moduleNamed false) else none
  | .names f =>
    match t with
    | .mark .star => if f then none else some .done
    | .mark .roundOpen => some (.name false true)
    | _ => if t.word?.isSome then some (.named false) else none
  | .name optional b =>
    if t.word?.isSome then some (.named b)
    else if optional ∧ b ∧ t = .mark .roundClose then some .done
    else none
  | .named b =>
    match t with
    | .mark .dot => some (.attribute b)
    | .keyword .asK => some (.alias b)
    | _ => ends b t
  | .attribute b => if t.word?.isSome then some (.named b) else none
  | .alias b => if t.word?.isSome then some (.aliased b) else none
  | .aliased b => ends b t
  | .done => none

/-- Whether the tokens may end here. -/
def final : State → Bool
  | .name optional bracketed => optional && !bracketed
  | .named bracketed | .aliased bracketed => !bracketed
  | .done => true
  | _ => false

/-- The recognizer of imports. -/
def recognizer : Recognizer Tok := ⟨State, step, final⟩

/-- The place where the tokens after `import` stop being names. -/
def plainStuckAt (ts : List Tok) : Option Nat := recognizer.stuckAt (.name false false) ts

/-- The place where the tokens after `from` stop being a module and what is imported. -/
def fromStuckAt (ts : List Tok) : Option Nat := recognizer.stuckAt .module ts

/-! ### The names -/

/-- The further parts of a dotted name, and the tokens after it. -/
def dottedRest : List Lexeme → List Text × List Lexeme
  | d :: w :: ls =>
    if d.tok = .mark .dot then
      match w.tok.word? with
      | some s =>
        let (parts, rest) := dottedRest ls
        (d.gap ++ w.gap ++ s :: parts, rest)
      | none => ([], d :: w :: ls)
    else ([], d :: w :: ls)
  | ls => ([], ls)

/-- The dotted name at the front of some tokens, and the tokens after it. -/
def dotted? : List Lexeme → Option (Text × List Lexeme)
  | [] => none
  | w :: ls =>
    w.tok.word?.map fun s =>
      let (parts, rest) := dottedRest ls
      (Text.join ['.'] (s :: parts), rest)

/-- The pieces of a list between the members that satisfy a test. -/
def pieces {α : Type} (p : α → Bool) : List α → List (List α)
  | [] => [[]]
  | a :: as =>
    if p a then [] :: pieces p as
    else
      match pieces p as with
      | [] => [[a]]
      | x :: xs => (a :: x) :: xs

/-- The names in a list of imports with commas between them. -/
def namesOf (ls : List Lexeme) : List Text :=
  (pieces (fun l => l.tok == .mark .comma) ls).filterMap fun p => (dotted? p).map (·.1)

/-- The tokens without round brackets around them. -/
def unbracket (ls : List Lexeme) : List Lexeme :=
  match ls with
  | [] => []
  | l :: rest => if l.tok = .mark .roundOpen then rest.dropLast else ls

/-- The names that the tokens after `import` import. -/
def plainNames (ls : List Lexeme) : List Text := namesOf ls

/-- The module that the tokens after `from` name, if they name one, and the tokens that say
what is imported. -/
def moduleOf (ls : List Lexeme) : Option Text × List Lexeme :=
  let isDots (l : Lexeme) : Bool := l.tok == .mark .dot || l.tok == .mark .ellipsis
  let rest := ls.dropWhile isDots
  let relative := rest.length < ls.length
  if relative ∧ (rest.head?.map (·.tok)) = some (.keyword .importK) then (none, rest.drop 1)
  else
    match dotted? rest with
    | some (m, rest) => (some m, rest.drop 1)
    | none => (none, [])

/-- A name after the name of its module. -/
def qualify (module? : Option Text) (name : Text) : Text :=
  match module? with
  | some m => m ++ '.' :: name
  | none => name

/-- The names that the tokens after `from` import. -/
def fromNames (ls : List Lexeme) : List Text :=
  let (m, rest) := moduleOf ls
  let names :=
    if (rest.head?.map (·.tok)) = some (.mark .star) then ["*".toList] else namesOf (unbracket rest)
  names.map (qualify m)

end CodeAtlas.Python.Import
