import CodeAtlas.Text.Hex
import CodeAtlas.Unicode.NameTable

/-!
# Looking up a character by its name

A name is looked up without regard to ASCII case and otherwise letter for letter. Hangul
syllables are named by their parts and unified ideographs by their code, so neither needs a
table.
-/

namespace CodeAtlas.CharacterName

/-- The character at a name's position in a run whose first code is `code`. -/
def findIn (name : Text) : Nat → List Text → Option Char
  | _, [] => none
  | code, n :: ns => if n = name then some (Char.ofNat code) else findIn name (code + 1) ns

/-- The first character of the table with the given upper-case name. -/
def inTable? (name : Text) : Option Char :=
  table.findSome? fun run =>
    findIn name run.first (run.names.flatMap fun line => Text.splitAt '|' line.toList)

/-! ### Hangul syllables -/

/-- The short names of the leading consonants, in code order. -/
def leading : List String :=
  ["G", "GG", "N", "D", "DD", "R", "M", "B", "BB", "S", "SS", "", "J", "JJ", "C", "K", "T", "P",
    "H"]

/-- The short names of the vowels, in code order. -/
def vowels : List String :=
  ["A", "AE", "YA", "YAE", "EO", "E", "YEO", "YE", "O", "WA", "WAE", "OE", "YO", "U", "WEO", "WE",
    "WI", "YU", "EU", "YI", "I"]

/-- The short names of the trailing consonants, in code order; the first is their absence. -/
def trailing : List String :=
  ["", "G", "GG", "GS", "N", "NJ", "NH", "D", "L", "LG", "LM", "LB", "LS", "LT", "LP", "LH", "M",
    "B", "BS", "S", "SS", "NG", "J", "C", "K", "T", "P", "H"]

/-- The position of the longest part that the text begins with, and the rest of the text. -/
def longestPart (parts : List String) (s : Text) : Option (Nat × Text) :=
  let found := parts.zipIdx.filterMap fun (p, i) =>
    (p.toList.isPrefixOf? s).map fun rest => (i, rest)
  found.foldl (fun best c =>
    match best with
    | none => some c
    | some b => if c.2.length < b.2.length then some c else some b) none

/-- The Hangul syllable with the given short names of its parts. Each part is read as long as
it can be. -/
def syllable? (parts : Text) : Option Char := do
  let (l, rest) ← longestPart leading parts
  let (v, rest) ← longestPart vowels rest
  let (t, rest) ← longestPart trailing rest
  if rest.isEmpty then some (Char.ofNat (0xAC00 + (l * 21 + v) * 28 + t)) else none

/-! ### Unified ideographs -/

/-- The ranges of the unified ideographs that a code may name. -/
def ideographs : List (Nat × Nat) :=
  [(0x3400, 0x4DBF), (0x4E00, 0x9FFF), (0x20000, 0x2A6DF), (0x2A700, 0x2B739), (0x2B740, 0x2B81D),
    (0x2B820, 0x2CEA1), (0x2CEB0, 0x2EBE0), (0x2EBF0, 0x2EE5D), (0x30000, 0x3134A),
    (0x31350, 0x323AF)]

/-- The unified ideograph with the given code of one to five digits. -/
def ideograph? (digits : Text) : Option Char := do
  let code ← Text.hexValue? digits
  if digits.length ≤ 5 ∧ ideographs.any (fun r => r.1 ≤ code && code ≤ r.2) then
    some (Char.ofNat code)
  else none

/-! ### All names -/

/-- The character with the given name, in any mix of ASCII cases. -/
def lookup? (name : Text) : Option Char :=
  let name := name.map Char.toUpper
  match "HANGUL SYLLABLE ".toList.isPrefixOf? name with
  | some parts => syllable? parts
  | none =>
    match "CJK UNIFIED IDEOGRAPH-".toList.isPrefixOf? name with
    | some digits => ideograph? digits
    | none => inTable? name

end CodeAtlas.CharacterName
