/-!
# Texts

A text is a list of characters. This module holds the operations on texts that every other
part of the library uses: splitting at a separator and joining again, taking a delimiter off,
decimal numerals, and sizes in UTF-8 bytes. Splitting and joining serve any list.
-/

namespace CodeAtlas

/-- A text: a list of Unicode scalar values. -/
abbrev Text := List Char

/-- Whether a code lies in one of some ranges in code order. -/
def within (code : Nat) : List (Nat × Nat) → Bool
  | [] => false
  | (lo, hi) :: rs => if code < lo then false else code ≤ hi || within code rs

namespace Text

/-- Whether the character occurs in the text. -/
def has (c : Char) (s : Text) : Bool := s.any (· == c)

theorem has_iff {c : Char} {s : Text} : has c s = true ↔ c ∈ s := by
  simp [has]

section Pieces

variable {α : Type}

/-- The pieces of a list between the occurrences of a separator; always at least one. -/
def splitAt [DecidableEq α] (sep : α) : List α → List (List α)
  | [] => [[]]
  | c :: s =>
    if c = sep then [] :: splitAt sep s
    else
      match splitAt sep s with
      | [] => [[c]]
      | piece :: pieces => (c :: piece) :: pieces

/-- The lists one after another with `sep` between neighbours. -/
def join (sep : List α) : List (List α) → List α
  | [] => []
  | [s] => s
  | s :: t :: rest => s ++ sep ++ join sep (t :: rest)

theorem splitAt_ne_nil [DecidableEq α] (sep : α) (s : List α) : splitAt sep s ≠ [] := by
  cases s with
  | nil => simp [splitAt]
  | cons c s =>
    unfold splitAt
    split
    · simp
    · split <;> simp

/-- Joining the pieces with the separator gives the list back. -/
theorem join_splitAt [DecidableEq α] (sep : α) (s : List α) : join [sep] (splitAt sep s) = s := by
  induction s with
  | nil => rfl
  | cons c s ih =>
    obtain ⟨p, ps, hp⟩ : ∃ p ps, splitAt sep s = p :: ps := by
      cases h : splitAt sep s with
      | nil => exact absurd h (splitAt_ne_nil sep s)
      | cons p ps => exact ⟨p, ps, rfl⟩
    rw [hp] at ih
    unfold splitAt
    by_cases hc : c = sep
    · simp [hc, hp, join, ih]
    · rw [if_neg hc, hp]
      cases ps with
      | nil => simpa [join] using ih
      | cons q qs => simpa [join] using ih

end Pieces

/-- The lines of a text, which `'\n'` separates. -/
def lines (s : Text) : List Text := splitAt '\n' s

/-- The lines joined again. -/
def unlines (ls : List Text) : Text := join ['\n'] ls

/-- The first of the given prefixes that the text has, with what follows it. -/
def stripAnyPrefix (s : Text) : List Text → Option (Text × Text)
  | [] => none
  | p :: ps =>
    match p.isPrefixOf? s with
    | some rest => some (p, rest)
    | none => stripAnyPrefix s ps

/-- The text between two copies of the first delimiter it begins with. There is no second
try with another delimiter when the closing copy is missing. -/
def stripDelimiters (s : Text) (delimiters : List Text) : Option Text :=
  match stripAnyPrefix s delimiters with
  | some (d, rest) => d.isSuffixOf? rest
  | none => none

/-- The decimal numeral of a number. -/
def ofNat (n : Nat) : Text := Nat.toDigits 10 n

/-- The decimal numeral of an integer. -/
def ofInt : Int → Text
  | .ofNat n => ofNat n
  | .negSucc n => '-' :: ofNat (n + 1)

/-- The length of the text's UTF-8 encoding. -/
def byteSize : Text → Nat
  | [] => 0
  | c :: s => c.utf8Size + byteSize s

/-- What is left after the first `n` bytes of the UTF-8 encoding; `none` when the text is
shorter or the cut would fall inside a character. -/
def dropBytes? : Nat → Text → Option Text
  | 0, s => some s
  | _ + 1, [] => none
  | n + 1, c :: s => if c.utf8Size ≤ n + 1 then dropBytes? (n + 1 - c.utf8Size) s else none

/-- The same text with ASCII letters in lower case. -/
def asciiLower (s : Text) : Text := s.map Char.toLower

end Text

end CodeAtlas
