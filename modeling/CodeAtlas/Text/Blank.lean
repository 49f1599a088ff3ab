import CodeAtlas.Text.Basic

/-!
# White space

The characters with the Unicode property `White_Space`, and trimming them off the ends of a
text.
-/

namespace CodeAtlas

/-- Whether a character has the Unicode property `White_Space`. -/
def isBlank (c : Char) : Bool :=
  let n := c.toNat
  (0x09 ≤ n && n ≤ 0x0D) || n == 0x20 || n == 0x85 || n == 0xA0 || n == 0x1680 ||
    (0x2000 ≤ n && n ≤ 0x200A) || n == 0x2028 || n == 0x2029 || n == 0x202F || n == 0x205F ||
    n == 0x3000

namespace Text

/-- The text without its leading white space. -/
def trimStart (s : Text) : Text := s.dropWhile isBlank

/-- The text without its trailing white space. -/
def trimEnd (s : Text) : Text := (s.reverse.dropWhile isBlank).reverse

/-- The text without white space at either end. -/
def trim (s : Text) : Text := trimEnd (trimStart s)

/-- Whether the text holds nothing but white space. -/
def allBlank (s : Text) : Bool := s.all isBlank

theorem trimStart_eq_nil_iff (s : Text) : trimStart s = [] ↔ allBlank s = true := by
  rw [allBlank, List.all_eq_true]
  induction s with
  | nil => simp [trimStart]
  | cons c s ih =>
    unfold trimStart at ih ⊢
    by_cases h : isBlank c = true
    · simp [h, ih]
    · simp [h]

end Text

end CodeAtlas
