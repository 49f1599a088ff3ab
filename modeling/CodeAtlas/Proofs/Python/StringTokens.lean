import CodeAtlas.Proofs.Docstring.Literals
import CodeAtlas.Proofs.Python.LineOrder

/-!
# String tokens

A string token carries its literal as it is written: some letters, and a body between two delimiters
that do not stand bare in it (`Scanned.isWritten_of_mem_rows`). The closing delimiter is looked for
from the front (`closes_of_bodySize`), while decoding takes it off at the end. A string between
backquotes is a token too, but decodes to nothing.
-/

namespace CodeAtlas.Python

open Docstring (Bare Literal)

namespace Front

/-! ### The end of a string -/

/-- Whether a delimiter closes a text after a body of the given size, where it stands bare for the
first time. -/
def Closes (d : Text) (k : Nat) (s : Text) : Prop :=
  ∃ body rest, s = body ++ (d ++ rest) ∧ body.length = k ∧ ¬ Bare d body

namespace Closes

variable {d s : Text} {k : Nat}

theorem here (hd : d ≠ []) (h : d <+: s) : Closes d 0 s := by
  obtain ⟨rest, rfl⟩ := h
  exact ⟨[], rest, rfl, rfl, fun hb => hd (List.prefix_nil.mp (Docstring.bare_nil_iff.mp hb))⟩

/-- A character that escapes nothing, where the delimiter does not stand. -/
theorem plain {c : Char} (hc : c ≠ '\\') (hd : ¬ d <+: c :: s) (h : Closes d k s) :
    Closes d (k + 1) (c :: s) := by
  obtain ⟨body, rest, rfl, rfl, hbare⟩ := h
  refine ⟨c :: body, rest, rfl, rfl, fun hb => ?_⟩
  cases hb with
  | here hpre => exact hd (hpre.trans (List.prefix_append (c :: body) (d ++ rest)))
  | plain _ hb => exact hbare hb
  | escaped _ => exact hc rfl

/-- A backslash and the character that it escapes. -/
theorem escaped {c : Char} (hd : ∀ t, ¬ d <+: '\\' :: t) (h : Closes d k s) :
    Closes d (k + 2) ('\\' :: c :: s) := by
  obtain ⟨body, rest, rfl, rfl, hbare⟩ := h
  refine ⟨'\\' :: c :: body, rest, rfl, rfl, fun hb => ?_⟩
  cases hb with
  | here hpre => exact hd _ hpre
  | plain hc _ => exact hc rfl
  | escaped hb => exact hbare hb

end Closes

/-- The delimiter that a quote makes, alone or three times. -/
def delimiter (quote : Char) (triple : Bool) : Text :=
  if triple then [quote, quote, quote] else [quote]

variable {quote : Char} {triple : Bool}

theorem length_delimiter (quote : Char) (triple : Bool) :
    (delimiter quote triple).length = if triple then 3 else 1 := by
  cases triple <;> rfl

theorem delimiter_ne_nil : delimiter quote triple ≠ [] := by
  cases triple <;> simp [delimiter]

theorem not_delimiter_of_ne {c : Char} (h : c ≠ quote) (s : Text) :
    ¬ delimiter quote triple <+: c :: s := by
  cases triple <;> simp [delimiter, h.symm]

/-- The body of a string reaches to the first place where its delimiter stands bare. -/
theorem closes_of_bodySize (hquote : quote ≠ '\\') {s : Text} {k : Nat}
    (h : bodySize quote triple s = some k) : Closes (delimiter quote triple) k s := by
  fun_induction bodySize quote triple s generalizing k with
  | case1 | case2 | case6 | case8 => cases h
  | case3 c s ih =>
    obtain ⟨k, hk, rfl⟩ := Option.map_eq_some_iff.mp h
    exact .escaped (not_delimiter_of_ne hquote.symm) (ih hk)
  | case4 htriple c e s heq =>
    cases h
    obtain ⟨rfl, rfl⟩ := heq
    exact .here delimiter_ne_nil ⟨s, by simp [delimiter, htriple]⟩
  | case5 htriple c e s hne hquote' ih =>
    obtain ⟨k, hk, rfl⟩ := Option.map_eq_some_iff.mp h
    refine .plain hquote' ?_ (ih hk)
    rintro ⟨t, ht⟩
    simp only [delimiter, if_pos htriple, List.cons_append, List.cons.injEq] at ht
    exact hne ⟨ht.2.1.symm, ht.2.2.1.symm⟩
  | case7 s htriple =>
    cases h
    exact .here delimiter_ne_nil ⟨s, by simp [delimiter, htriple]⟩
  | case9 c s hc hne _ ih =>
    obtain ⟨k, hk, rfl⟩ := Option.map_eq_some_iff.mp h
    exact .plain hc (not_delimiter_of_ne hne s) (ih hk)

end Front

/-! ### Strings as they are written -/

/-- Whether a text is a string as it is written: a literal, or one between backquotes. -/
inductive IsWritten : Text → Prop where
  /-- It is a literal. -/
  | literal (p : Literal) : IsWritten p.source
  /-- It stands between backquotes. -/
  | backquoted {letters body : Text} : (∀ c ∈ letters, c.isAlpha = true) →
      IsWritten (letters ++ (['\x60'] ++ (body ++ ['\x60'])))

/-- What decodes to something is a literal. -/
theorem IsWritten.exists_literal {names : Docstring.CharacterNames} {s : Text} (h : IsWritten s)
    (hs : (Docstring.decode? names s).isSome = true) : ∃ p : Literal, p.source = s := by
  cases h with
  | literal p => exact ⟨p, rfl⟩
  | @backquoted letters body hletters =>
    have hrest : (letters ++ (['\x60'] ++ (body ++ ['\x60']))).dropWhile Char.isAlpha =
        ['\x60'] ++ (body ++ ['\x60']) :=
      Text.dropWhile_append_of_head? hletters (by simp)
    have hnone : Text.stripDelimiters (['\x60'] ++ (body ++ ['\x60'])) Docstring.quotes = none :=
      rfl
    simp only [Docstring.decode?, hrest, hnone] at hs
    split at hs <;> cases hs

/-- Whether a token carries a string as it is written, if it is one. -/
def Tok.IsWritten : Tok → Prop
  | .string s => Python.IsWritten s
  | _ => True

theorem Tok.isWritten_ofWord (s : Text) : (Tok.ofWord s).IsWritten := by
  unfold Tok.ofWord
  split
  · trivial
  · split <;> trivial

namespace Front

theorem isStringLetter_iff {c : Char} :
    isStringLetter c = true ↔ c ∈ ['r', 'R', 'b', 'B', 'u', 'U', 'f', 'F'] := by
  rw [isStringLetter, List.contains_iff_mem]
  rfl

theorem isQuote_iff {c : Char} : isQuote c = true ↔ c = '"' ∨ c = '\'' ∨ c = '\x60' := by
  simp [isQuote, or_assoc]

theorem delimiter_startsTriple (quote : Char) (s : Text) :
    delimiter quote (startsTriple quote (quote :: s)) <+: quote :: s := by
  cases h : startsTriple quote (quote :: s) with
  | false => exact List.prefix_append [quote] s
  | true =>
    simp only [startsTriple, Bool.and_eq_true] at h
    exact List.isPrefixOf_iff_prefix.mp h.2

/-- Letters and a body between two delimiters are a string as it is written. -/
theorem isWritten_of_not_bare {letters body : Text} {quote : Char} {triple : Bool}
    (hletters : ∀ c ∈ letters, isStringLetter c = true) (hquote : isQuote quote = true)
    (htriple : quote = '\x60' → triple = false) (hbare : ¬ Bare (delimiter quote triple) body) :
    IsWritten (letters ++ (delimiter quote triple ++ (body ++ delimiter quote triple))) := by
  have hliteral (hd : delimiter quote triple ∈ Docstring.quotes) :
      IsWritten (letters ++ (delimiter quote triple ++ (body ++ delimiter quote triple))) := by
    refine .literal ⟨letters, delimiter quote triple, body, fun c hc => ?_, hd, hbare⟩
    have hall : ∀ c ∈ ['r', 'R', 'b', 'B', 'u', 'U', 'f', 'F'],
        c ∈ ['r', 'u', 'b', 'f', 'R', 'U', 'B', 'F'] := by simp
    exact hall c (isStringLetter_iff.mp (hletters c hc))
  rcases isQuote_iff.mp hquote with rfl | rfl | rfl
  · exact hliteral (by cases triple <;> decide)
  · exact hliteral (by cases triple <;> decide)
  · rw [htriple rfl]
    refine .backquoted fun c hc => ?_
    have hall : ∀ c ∈ ['r', 'R', 'b', 'B', 'u', 'U', 'f', 'F'], c.isAlpha = true := by simp
    exact hall c (isStringLetter_iff.mp (hletters c hc))

theorem isWritten_of_readString {letters s : Text} {quote : Char} {t : Tok} {more : Nat}
    {change : Change} (hletters : ∀ c ∈ letters, isStringLetter c = true)
    (hquote : isQuote quote = true)
    (h : readString (letters ++ quote :: s) letters quote = .token t more change) :
    t.IsWritten := by
  obtain ⟨after, hafter⟩ := delimiter_startsTriple quote s
  have hne : quote ≠ '\\' := by
    rintro rfl
    cases hquote
  have hback : quote = '\x60' → startsTriple quote (quote :: s) = false := by
    rintro rfl
    rfl
  -- What is read before the quote decides the letters, and the quotes at the front the delimiter.
  simp only [readString, List.drop_left] at h
  generalize startsTriple quote (quote :: s) = triple at h hafter hback
  rw [← length_delimiter quote triple, ← hafter, ← List.append_assoc, ← List.length_append,
    List.drop_left] at h
  split at h
  · cases h
    exact trivial
  · cases hsize : bodySize quote triple after with
    | none =>
      rw [hsize] at h
      cases h
    | some k =>
      obtain ⟨body, rest, rfl, rfl, hbare⟩ := closes_of_bodySize hne hsize
      rw [hsize] at h
      cases h
      simp only [← List.append_assoc, ← List.length_append, List.take_left]
      simp only [List.append_assoc]
      exact isWritten_of_not_bare hletters hquote hback hbare

variable {stack : List Nest} {c : Char} {s : Text} {t : Tok} {more : Nat} {change : Change}

theorem isWritten_of_readWord (h : readWord stack c s = .token t more change) : t.IsWritten := by
  have hword := Tok.isWritten_ofWord (c :: s.takeWhile Identifier.isContinue)
  unfold readWord at h
  grind [Tok.IsWritten]

theorem isWritten_of_readMark (h : readMark stack c s = .token t more change) : t.IsWritten := by
  unfold readMark at h
  grind [Tok.IsWritten]

theorem isWritten_of_readFormat {triple raw : Bool}
    (h : readFormat quote triple raw c s = .token t more change) : t.IsWritten := by
  unfold readFormat at h
  grind [Tok.IsWritten]

theorem isWritten_of_readSpec {triple : Bool}
    (h : readSpec quote triple c s = .token t more change) : t.IsWritten := by
  unfold readSpec at h
  grind [Tok.IsWritten]

theorem isWritten_of_readCode (h : readCode stack c s = .token t more change) : t.IsWritten := by
  have hletters : ∀ d ∈ (c :: s).takeWhile isStringLetter, isStringLetter d = true :=
    fun d hd => List.mem_takeWhile_imp hd
  obtain ⟨after, hafter⟩ := List.takeWhile_prefix (l := c :: s) isStringLetter
  unfold readCode at h
  split at h
  · cases h
  split at h
  · cases h
  split at h
  · cases h
  split at h
  · split at h <;> cases h
  dsimp only at h
  split at h
  · next q hq =>
    split at h
    · next hquote =>
      generalize (c :: s).takeWhile isStringLetter = letters at h hletters hafter hq
      rw [← hafter, List.drop_left] at hq
      obtain ⟨rest, rfl⟩ := List.head?_eq_some_iff.mp hq
      rw [← hafter] at h
      exact isWritten_of_readString hletters hquote h
    · split at h
      · exact isWritten_of_readWord h
      · split at h
        · cases h
          trivial
        · exact isWritten_of_readMark h
  · exact isWritten_of_readWord h

/-- A string token carries a string as it is written. -/
theorem isWritten_of_read (h : read stack c s = .token t more change) : t.IsWritten := by
  unfold read at h
  split at h
  · exact isWritten_of_readFormat h
  · exact isWritten_of_readSpec h
  · exact isWritten_of_readCode h

end Front

/-! ### The tokens of a program -/

/-- Whether the tokens of a reading have a property, those of its logical lines among them. -/
def Reading.Has (p : Tok → Prop) (r : Reading) : Prop :=
  (∀ l ∈ r.here, p l.tok) ∧ ∀ row ∈ r.rows, ∀ l ∈ row.lexemes, p l.tok

namespace Reading.Has

variable {p : Tok → Prop} {r : Reading}

theorem nil (line : Nat) (nests : List Nest) : Reading.Has p ⟨[], line, [], nests⟩ :=
  ⟨nofun, nofun⟩

theorem newline (h : r.Has p) (line : Nat) : (r.newline line).Has p := ⟨nofun, h.2⟩

theorem cons {l : Lexeme} (hl : p l.tok) (h : r.Has p) (place : Place) :
    (r.cons place l).Has p := by
  have hls : ∀ k ∈ l :: r.here, p k.tok := List.forall_mem_cons.mpr ⟨hl, h.1⟩
  cases place with
  | inside => exact ⟨hls, h.2⟩
  | margin w | settled w => exact ⟨nofun, List.forall_mem_cons.mpr ⟨hls, h.2⟩⟩

end Reading.Has

theorem isWritten_scan (line : Nat) (place : Place) (stack : List Nest) (gap : List Text)
    (s : Text) : (scan line place stack gap s).Has Tok.IsWritten := by
  fun_induction scan line place stack gap s with
  | case1 line place stack gap => exact .nil line _
  | case2 line place stack gap c s _ _ ih => exact ih.newline line
  | case3 line place stack gap c s _ _ ih => exact ih
  | case4 line place stack gap c s more note _ ih => exact ih
  | case5 line place stack gap c s t more change hread ih =>
    exact .cons (Front.isWritten_of_read hread) ih place
  | case6 line place stack gap c s _ => exact .cons trivial (.nil line []) place

/-- Every string token of a program carries a string as it is written. -/
theorem Scanned.isWritten_of_mem_rows {s : Text} {row : Row} (hrow : row ∈ (ofText s).rows) :
    ∀ l ∈ row.lexemes, l.tok.IsWritten :=
  (isWritten_scan 1 (.margin 0) [] [] (dropMark s)).2 row hrow

end CodeAtlas.Python
