import CodeAtlas.Json.Basic
import CodeAtlas.Docstring.Escape

/-!
# Reading structured data

The text is read into tokens, and the tokens into a value by one pass that keeps the open
containers on a stack. A repeated key keeps its first place and its last value.
-/

namespace CodeAtlas.Json

/-- The tokens of the text of a value. -/
inductive Token where
  /-- A value that is no container. -/
  | scalar (value : Json)
  /-- `[`. -/
  | openArray
  /-- `]`. -/
  | closeArray
  /-- An opening brace. -/
  | openObject
  /-- A closing brace. -/
  | closeObject
  /-- `,`. -/
  | comma
  /-- `:`. -/
  | colon

/-! ### Strings -/

/-- The code of four hexadecimal digits and the text after them. -/
def readUnit? (s : Text) : Option Nat :=
  if (s.take 4).length = 4 then Text.hexValue? (s.take 4) else none

/-- The character that one letter after the backslash stands for. -/
def readSimple? : Char → Option Char
  | '"' => some '"'
  | '\\' => some '\\'
  | '/' => some '/'
  | 'b' => some '\x08'
  | 'f' => some '\x0c'
  | 'n' => some '\n'
  | 'r' => some '\r'
  | 't' => some '\t'
  | _ => none

/-- The character of a `\u` escape, or of two that make a surrogate pair, with the number of
characters it takes after the `u`. -/
def readUnicode? (s : Text) : Option (Char × Nat) := do
  let hi ← readUnit? s
  if 0xD800 ≤ hi ∧ hi ≤ 0xDBFF then
    match s.drop 4 with
    | '\\' :: 'u' :: t => do
      let lo ← readUnit? t
      if 0xDC00 ≤ lo ∧ lo ≤ 0xDFFF then
        (Docstring.Escape.scalar? (0x10000 + (hi - 0xD800) * 1024 + (lo - 0xDC00))).map (·, 10)
      else none
    | _ => none
  else (Docstring.Escape.scalar? hi).map (·, 4)

/-- The rest of a string up to its closing quote, and the text after that. -/
def readString (acc : Text) : Text → Option (Text × Text)
  | [] => none
  | c :: s =>
    if c = '"' then some (acc.reverse, s)
    else if c = '\\' then
      match s with
      | [] => none
      | d :: t =>
        if d = 'u' then
          match readUnicode? t with
          | none => none
          | some (v, n) => readString (v :: acc) (t.drop n)
        else
          match readSimple? d with
          | none => none
          | some v => readString (v :: acc) t
    else if c.toNat < 32 then none
    else readString (c :: acc) s
termination_by s => s.length
decreasing_by all_goals simp only [List.length_cons, List.length_drop]; omega

theorem readString_length {acc s t r : Text} (h : readString acc s = some (t, r)) :
    r.length < s.length := by
  fun_induction readString acc s with
  | case1 | case3 | case4 | case6 | case8 => simp at h
  | case2 => simp only [Option.some.injEq, Prod.mk.injEq] at h; simp [h.2]
  | case5 | case7 | case9 =>
    rename_i ih
    have := ih h
    simp only [List.length_drop, List.length_cons] at this ⊢
    omega

/-! ### Numbers -/

/-- Digits added to a significand while it stays below `2 ^ 64`; the digits that no longer
count are returned unread. -/
def takeDigits (m : Nat) : Text → Nat × Text
  | [] => (m, [])
  | c :: s =>
    if 10 * m + (c.toNat - 48) < Nat.pow 2 64 then takeDigits (10 * m + (c.toNat - 48)) s
    else (m, c :: s)

/-- The number with the given digits before the point, after it, and exponent. -/
def numberOf? (negative : Bool) (whole : Text) (fraction : Option Text)
    (exponent : Option (Bool × Text)) : Option JsonNumber :=
  let (m, dropped) := takeDigits 0 whole
  match fraction, exponent, dropped with
  | none, none, [] =>
    if !negative then some (.int m)
    else if m = 0 ∨ Nat.pow 2 63 < m then (Binary64.ofDecimal true ⟨m, 0⟩).map .float
    else some (.int (-(m : Int)))
  | _, _, _ =>
    let (m, unread) := takeDigits m (fraction.getD [])
    let fractionRead := (fraction.getD []).length - unread.length
    let e : Int :=
      match exponent with
      | none => 0
      | some (minus, ds) =>
        let n : Nat := ds.foldl (fun v c => 10 * v + (c.toNat - 48)) 0
        if minus then -(n : Int) else (n : Int)
    let scale : Int := (dropped.length : Int) - (fractionRead : Int) + e
    (Binary64.ofDecimal negative ⟨m, scale⟩).map .float

/-- A number at the front of a text, and how many characters it takes. -/
def readNumber? (s : Text) : Option (JsonNumber × Nat) :=
  let negative := s.head? == some '-'
  let s₀ := if negative then s.drop 1 else s
  let whole := s₀.takeWhile Char.isDigit
  let s₁ := s₀.drop whole.length
  let (fraction, s₂) :=
    match s₁ with
    | '.' :: t => (some (t.takeWhile Char.isDigit), t.dropWhile Char.isDigit)
    | _ => (none, s₁)
  let (exponent, s₃) :=
    match s₂ with
    | c :: t =>
      if c = 'e' ∨ c = 'E' then
        match t with
        | '-' :: u => (some (true, u.takeWhile Char.isDigit), u.dropWhile Char.isDigit)
        | '+' :: u => (some (false, u.takeWhile Char.isDigit), u.dropWhile Char.isDigit)
        | _ => (some (false, t.takeWhile Char.isDigit), t.dropWhile Char.isDigit)
      else (none, s₂)
    | [] => (none, s₂)
  if whole.isEmpty ∨ (whole.head? = some '0' ∧ 1 < whole.length) ∨ fraction = some [] ∨
      exponent.map (·.2) = some [] then none
  else (numberOf? negative whole fraction exponent).map fun n => (n, s.length - s₃.length)

/-! ### Tokens -/

/-- The words that stand for a value. -/
def readWord? (s : Text) : Option (Json × Nat) :=
  if "null".toList.isPrefixOf s then some (.null, 4)
  else if "true".toList.isPrefixOf s then some (.bool true, 4)
  else if "false".toList.isPrefixOf s then some (.bool false, 5)
  else none

/-- A token of one character. -/
def readMark? (c : Char) : Option Token :=
  if c = '[' then some .openArray
  else if c = ']' then some .closeArray
  else if c = '\x7b' then some .openObject
  else if c = '\x7d' then some .closeObject
  else if c = ',' then some .comma
  else if c = ':' then some .colon
  else none

/-- The tokens of a text. -/
def tokens (acc : List Token) : Text → Option (List Token)
  | [] => some acc.reverse
  | c :: s =>
    if c = ' ' ∨ c = '\n' ∨ c = '\t' ∨ c = '\r' then tokens acc s
    else
      match readMark? c with
      | some t => tokens (t :: acc) s
      | none =>
        if c = '"' then
          match h : readString [] s with
          | none => none
          | some (v, r) =>
            have : r.length < s.length := readString_length h
            tokens (.scalar (.str v) :: acc) r
        else if c = '-' ∨ c.isDigit then
          match readNumber? (c :: s) with
          | none => none
          | some (n, k) => tokens (.scalar (.num n) :: acc) (s.drop (k - 1))
        else
          match readWord? (c :: s) with
          | none => none
          | some (v, k) => tokens (.scalar v :: acc) (s.drop (k - 1))
termination_by s => s.length
decreasing_by all_goals simp only [List.length_cons, List.length_drop]; omega

/-! ### Values -/

/-- An open container: the children read so far, the newest first. -/
inductive Open where
  /-- An array. -/
  | array (done : List Json)
  /-- An object in which a key has been read. -/
  | object (done : List (Text × Json)) (key : Text)

/-- What may come next. -/
inductive Expect where
  /-- A value. -/
  | value
  /-- A value, or the end of an array that has no elements. -/
  | firstElement
  /-- A key, or the end of an object that has no members. -/
  | firstKey (done : List (Text × Json))
  /-- A key. -/
  | key (done : List (Text × Json))
  /-- The colon after a key. -/
  | colon (done : List (Text × Json)) (key : Text)
  /-- A comma or the end of the innermost container, or of the text. -/
  | after (value : Json)

/-- The state after one more token. -/
def Expect.step (stack : List Open) : Expect → Token → Option (List Open × Expect)
  | .value, .scalar v => some (stack, .after v)
  | .value, .openArray => some (.array [] :: stack, .firstElement)
  | .value, .openObject => some (stack, .firstKey [])
  | .firstElement, .scalar v => some (stack, .after v)
  | .firstElement, .openArray => some (.array [] :: stack, .firstElement)
  | .firstElement, .openObject => some (stack, .firstKey [])
  | .firstElement, .closeArray => some (stack.drop 1, .after (.arr []))
  | .firstKey done, .scalar (.str k) => some (stack, .colon done k)
  | .firstKey _, .closeObject => some (stack, .after (.obj []))
  | .key done, .scalar (.str k) => some (stack, .colon done k)
  | .colon done k, .colon => some (.object done k :: stack, .value)
  | .after v, .comma =>
    match stack with
    | .array done :: rest => some (.array (v :: done) :: rest, .value)
    | .object done k :: rest => some (rest, .key (insert k v done))
    | [] => none
  | .after v, .closeArray =>
    match stack with
    | .array done :: rest => some (rest, .after (.arr (v :: done).reverse))
    | _ => none
  | .after v, .closeObject =>
    match stack with
    | .object done k :: rest => some (rest, .after (.obj (insert k v done)))
    | _ => none
  | _, _ => none

/-- The value that a list of tokens makes. -/
def ofTokens (stack : List Open) (e : Expect) : List Token → Option Json
  | [] =>
    match stack, e with
    | [], .after v => some v
    | _, _ => none
  | t :: ts =>
    match e.step stack t with
    | none => none
    | some (stack, e) => ofTokens stack e ts

/-- The value that a text holds. -/
def parse? (s : Text) : Option Json := (tokens [] s).bind (ofTokens [] .value)

end CodeAtlas.Json
