import CodeAtlas.Text.Hex

/-!
# Backslash escapes

The body of a string literal is read from left to right as a sequence of items: an ordinary
character stands for itself, and a backslash together with what follows may stand for a
character or for nothing. A backslash that begins no escape stands for itself alone, and what
follows it is read on its own. An escape may name a character; which names there are is a parameter.
-/

namespace CodeAtlas.Docstring

/-- The characters by their names. -/
abbrev CharacterNames := Text → Option Char

/-- What an escape stands for, and how many characters after the backslash it takes. -/
structure Escape where
  /-- The text it stands for: one character, or none for an escaped line end. -/
  value : Text
  /-- The characters it takes after the backslash. -/
  size : Nat
  deriving DecidableEq, Repr

namespace Escape

/-- The character with a given code, unless the code is a surrogate or too large. -/
def scalar? (code : Nat) : Option Char :=
  if h : code.isValidChar then some ⟨UInt32.ofNat code, by
    have : code < 2 ^ 32 := by rcases h with h | ⟨_, h⟩ <;> omega
    rw [UInt32.isValidChar, UInt32.toNat_ofNat', Nat.mod_eq_of_lt this]
    exact h⟩
  else none

/-- The characters that one letter after the backslash stands for. -/
def simple? : Char → Option Char
  | '\\' => some '\\'
  | '\'' => some '\''
  | '"' => some '"'
  | 'a' => some '\x07'
  | 'b' => some '\x08'
  | 'f' => some '\x0c'
  | 'n' => some '\n'
  | 'r' => some '\r'
  | 't' => some '\t'
  | 'v' => some '\x0b'
  | _ => none

/-- Whether a character is an octal digit. -/
def isOctal (c : Char) : Bool := '0' ≤ c && c ≤ '7'

/-- One to three octal digits, as many as there are. -/
def octal? (s : Text) : Option Escape :=
  let digits := (s.take 3).takeWhile isOctal
  if digits.isEmpty then none
  else
    (scalar? (digits.foldl (fun v c => 8 * v + (c.toNat - '0'.toNat)) 0)).map
      fun c => ⟨[c], digits.length⟩

/-- Exactly `count` hexadecimal digits after the letter. -/
def hex? (count : Nat) (s : Text) : Option Escape :=
  let digits := s.take count
  if digits.length = count then do
    let code ← Text.hexValue? digits
    let c ← scalar? code
    some ⟨[c], count + 1⟩
  else none

/-- A name in braces after the letter. -/
def named? (names : CharacterNames) : Text → Option Escape
  | '\x7b' :: s =>
    let name := s.takeWhile (· != '\x7d')
    if name.length < s.length then
      (names name).map fun c => ⟨[c], name.length + 3⟩
    else none
  | _ => none

/-- The escape that the text after a backslash begins with. -/
def read? (names : CharacterNames) : Text → Option Escape
  | [] => none
  | c :: s =>
    if c = '\n' then some ⟨[], 1⟩
    else
      match simple? c with
      | some v => some ⟨[v], 1⟩
      | none =>
        if c = 'x' then hex? 2 s
        else if c = 'u' then hex? 4 s
        else if c = 'U' then hex? 8 s
        else if c = 'N' then named? names s
        else octal? (c :: s)

end Escape

/-- The text that the body of a literal stands for. -/
def unescape (names : CharacterNames) : Text → Text
  | [] => []
  | c :: s =>
    if c = '\\' then
      match Escape.read? names s with
      | some e => e.value ++ unescape names (s.drop e.size)
      | none => c :: unescape names s
    else c :: unescape names s
termination_by s => s.length
decreasing_by all_goals simp only [List.length_cons, List.length_drop]; omega

end CodeAtlas.Docstring
