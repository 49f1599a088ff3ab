import CodeAtlas.Docstring.Literal
import Mathlib

/-!
# Writing a text as a string literal

`quote` writes any text as one literal between double quotes, on one line: backslashes, double
quotes and control characters are escaped, everything else stands as it is. Decoding gives the
text back (`decode?_quote`), so the docstring that the literal makes is the text cleaned
(`ofLiterals?_quote`).
-/

namespace CodeAtlas.Docstring

variable {names : CharacterNames}

/-- Whether a character is a control character. -/
def isControl (c : Char) : Bool := c.toNat < 0x20 || (0x7F ≤ c.toNat && c.toNat ≤ 0x9F)

/-- The two hexadecimal digits of a code below 256. -/
def hexPair (code : Nat) : Text := [Nat.digitChar (code / 16), Nat.digitChar (code % 16)]

/-- A character as it stands in a literal between double quotes. -/
def spell (c : Char) : Text :=
  if c = '\\' then ['\\', '\\']
  else if c = '"' then ['\\', '"']
  else if c = '\n' then ['\\', 'n']
  else if c = '\r' then ['\\', 'r']
  else if c = '\t' then ['\\', 't']
  else if isControl c then '\\' :: 'x' :: hexPair c.toNat
  else [c]

/-- The body of the literal for a text. -/
def spellAll (s : Text) : Text := s.flatMap spell

/-- The literal for a text. -/
def quote (s : Text) : Text := '"' :: (spellAll s ++ ['"'])

/-- The docstring that a text makes: the text cleaned, and none if nothing is left. -/
def ofText? (s : Text) : Option Text := if (clean s).isEmpty then none else some (clean s)

/-! ### Reading an escape back -/

theorem scalar?_toNat (c : Char) : Escape.scalar? c.toNat = some c := by
  have hv : c.toNat.isValidChar := c.valid
  rw [Escape.scalar?, dif_pos hv]
  congr 1
  apply Char.ext
  apply UInt32.toNat_inj.mp
  rw [UInt32.toNat_ofNat']
  exact Nat.mod_eq_of_lt c.val.toNat_lt

theorem toNat_lt_of_isControl {c : Char} (h : isControl c = true) : c.toNat < 160 := by
  simp only [isControl, Bool.or_eq_true, Bool.and_eq_true, decide_eq_true_eq] at h
  omega

theorem hexValue?_hexPair : ∀ n < 160, Text.hexValue? (hexPair n) = some n := by
  decide +kernel

theorem isAlphanum_hexPair : ∀ n < 160, (hexPair n).all Char.isAlphanum = true := by
  decide +kernel

theorem read?_hexPair {c : Char} (h : c.toNat < 160) (s : Text) :
    Escape.read? names ('x' :: (hexPair c.toNat ++ s)) = some ⟨[c], 3⟩ := by
  have htake : (hexPair c.toNat ++ s).take 2 = hexPair c.toNat := rfl
  simp only [Escape.read?, Escape.simple?, Escape.hex?, htake, hexValue?_hexPair _ h]
  simp [hexPair, scalar?_toNat]

/-- A character stands for itself, or a backslash and one more character begin an escape that
is read back as it. -/
theorem spell_cases (c : Char) :
    (spell c = [c] ∧ c ≠ '\\' ∧ c ≠ '"' ∧ isControl c = false) ∨
      ∃ d e, spell c = '\\' :: d :: e ∧ (∀ x ∈ e, x.isAlphanum = true) ∧ isControl d = false ∧
        ∀ (names : CharacterNames) (s : Text),
          Escape.read? names (d :: (e ++ s)) = some ⟨[c], e.length + 1⟩ := by
  unfold spell
  split_ifs with h₁ h₂ h₃ h₄ h₅ h₆
  · exact .inr ⟨'\\', [], rfl, by simp, by decide, fun _ s => by rw [h₁]; rfl⟩
  · exact .inr ⟨'"', [], rfl, by simp, by decide, fun _ s => by rw [h₂]; rfl⟩
  · exact .inr ⟨'n', [], rfl, by simp, by decide, fun _ s => by rw [h₃]; rfl⟩
  · exact .inr ⟨'r', [], rfl, by simp, by decide, fun _ s => by rw [h₄]; rfl⟩
  · exact .inr ⟨'t', [], rfl, by simp, by decide, fun _ s => by rw [h₅]; rfl⟩
  · have hlt := toNat_lt_of_isControl h₆
    exact .inr ⟨'x', hexPair c.toNat, rfl, List.all_eq_true.mp (isAlphanum_hexPair _ hlt),
      by decide, fun _ => read?_hexPair hlt⟩
  · exact .inl ⟨rfl, h₁, h₂, by simpa using h₆⟩

/-! ### Decoding a literal -/

theorem unescape_cons {c : Char} (h : c ≠ '\\') (s : Text) :
    unescape names (c :: s) = c :: unescape names s := by
  rw [unescape, if_neg h]

theorem unescape_backslash {e s v : Text} (h : Escape.read? names (e ++ s) = some ⟨v, e.length⟩) :
    unescape names ('\\' :: (e ++ s)) = v ++ unescape names s := by
  rw [unescape, if_pos rfl, h]
  simp only [List.drop_left]

theorem unescape_spell (c : Char) (s : Text) :
    unescape names (spell c ++ s) = c :: unescape names s := by
  rcases spell_cases c with ⟨h, hc, -, -⟩ | ⟨d, e, h, -, -, hr⟩
  · rw [h]
    exact unescape_cons hc s
  · rw [h]
    exact unescape_backslash (e := d :: e) (hr names s)

theorem unescape_spellAll (s : Text) : unescape names (spellAll s) = s := by
  induction s with
  | nil => rw [spellAll, List.flatMap_nil, unescape]
  | cons c s ih => rw [spellAll, List.flatMap_cons, unescape_spell, ← spellAll, ih]

/-- The body of a literal does not begin with its quote, so the quote is not read as a tripled
one. -/
theorem spellAll_head (s : Text) : (spellAll s).head? ≠ some '"' := by
  cases s with
  | nil => simp [spellAll]
  | cons c s =>
    rcases spell_cases c with ⟨h, -, hc, -⟩ | ⟨d, e, h, -⟩
    · simpa [spellAll, h] using hc
    · simp [spellAll, h]

theorem stripDelimiters_quote (s : Text) :
    Text.stripDelimiters (quote s) quotes = some (spellAll s) := by
  have hd : ("\"\"\"".toList).isPrefixOf? (quote s) = none := by
    have hs := spellAll_head s
    unfold quote
    cases h : spellAll s with
    | nil => rfl
    | cons d t =>
      have hd : d ≠ '"' := by simpa [h] using hs
      simp [List.isPrefixOf?, hd.symm]
  have hs : ("'''".toList).isPrefixOf? (quote s) = none := rfl
  have hq : ("\"".toList).isPrefixOf? (quote s) = some (spellAll s ++ ['"']) := rfl
  simp only [Text.stripDelimiters, quotes, Text.stripAnyPrefix, hd, hs, hq]
  simp [List.isSuffixOf?, List.isPrefixOf?]

theorem decode?_quote (s : Text) : decode? names (quote s) = some s := by
  have hl : literalPrefix (quote s) = [] := rfl
  have hd : (quote s).dropWhile Char.isAlpha = quote s := rfl
  simp only [decode?, hl, hd, stripDelimiters_quote]
  simp [Text.has, unescape_spellAll]

/-- The docstring that the literal for a text makes is the text cleaned. -/
theorem ofLiterals?_quote (s : Text) : ofLiterals? names [quote s] = ofText? s := by
  simp [ofLiterals?, decodeAll?, decode?_quote, ofText?]

/-! ### One line -/

theorem toNat_of_isAlphanum {c : Char} (h : c.isAlphanum = true) :
    48 ≤ c.toNat ∧ c.toNat ≤ 122 := by
  simp only [Char.isAlphanum, Char.isAlpha, Char.isUpper, Char.isLower, Char.isDigit, ge_iff_le,
    Bool.or_eq_true, Bool.and_eq_true, decide_eq_true_eq, UInt32.le_iff_toNat_le] at h
  have hc : c.val.toNat = c.toNat := rfl
  rcases h with (h | h) | h <;> simp [hc] at h <;> omega

theorem isControl_of_isAlphanum {c : Char} (h : c.isAlphanum = true) : isControl c = false := by
  have := toNat_of_isAlphanum h
  simp only [isControl, Bool.or_eq_false_iff, Bool.and_eq_false_iff, decide_eq_false_iff_not]
  omega

theorem isControl_of_mem_spellAll {s : Text} : ∀ c ∈ spellAll s, isControl c = false := by
  intro c hc
  obtain ⟨d, -, hd⟩ := List.mem_flatMap.mp hc
  rcases spell_cases d with ⟨h, -, -, hctl⟩ | ⟨x, e, h, he, hx, -⟩
  · rw [h, List.mem_singleton] at hd
    exact hd ▸ hctl
  · rw [h, List.mem_cons, List.mem_cons] at hd
    rcases hd with rfl | rfl | hd
    · decide
    · exact hx
    · exact isControl_of_isAlphanum (he c hd)

end CodeAtlas.Docstring
