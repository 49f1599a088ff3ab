import CodeAtlas.Proofs.Text.Splitting
import CodeAtlas.Python.Lexer
import Mathlib

/-!
# Reading a line token by token

`Reads s ts` says that the text `s`, outside of brackets and on one line, is read as the tokens
`ts`, whatever comes after it, as long as that begins with a character that ends a word. Texts
that are read this way can be put side by side (`Reads.append`, `Reads.space`), so what a line
is read as follows from its parts: words, marks and string literals.
-/

namespace CodeAtlas.Python

/-! ### Steps of the scan -/

namespace Reading

/-- A reading with more tokens in front of it. -/
def consAll (place : Place) (ls : List Lexeme) (r : Reading) : Reading :=
  match ls with
  | [] => r
  | l :: ls => Reading.cons place l { r with here := ls ++ r.here }

theorem consAll_consAll (place : Place) {ks : List Lexeme} (hk : ks ≠ []) (ls : List Lexeme)
    (r : Reading) : (r.consAll .inside ls).consAll place ks = r.consAll place (ks ++ ls) := by
  cases ks with
  | nil => exact absurd rfl hk
  | cons k ks => cases ls <;> simp [consAll, cons]

end Reading

variable {stack : List Nest} {c d : Char} {s rest : Text} {t : Tok}

theorem scan_token {more : Nat} {change : Change}
    (h : Front.read stack c s = .token t more change) (line : Nat) (place : Place)
    (gap : List Text) :
    scan line place stack gap (c :: s) =
      (scan (line + feeds (c :: s.take more)) .inside (change.apply line stack) []
        (s.drop more)).cons place ⟨t, line, gap⟩ := by
  rw [scan, h]

theorem scan_skip {more : Nat} {note : Option Text}
    (h : Front.read stack c s = .skip more note) (line : Nat) (place : Place) (gap : List Text) :
    scan line place stack gap (c :: s) =
      scan (line + feeds (c :: s.take more)) (place.skip c) stack (gap ++ note.toList)
        (s.drop more) := by
  rw [scan, h]

theorem scan_newline (line : Nat) (place : Place) (gap : List Text) (s : Text) :
    scan line place [] gap ('\n' :: s) = (scan (line + 1) (.margin 0) [] [] s).newline line := by
  rw [scan]
  rfl

theorem dropMark_eq_self {s : Text} (h : s.head? ≠ some '\ufeff') : dropMark s = s := by
  unfold dropMark
  split
  · exact absurd rfl h
  · rfl

/-- A token that is one piece of a line. -/
theorem scan_token_append (h : Front.read stack c (s ++ rest) = .token t s.length .keep)
    (hn : '\n' ∉ c :: s) (line : Nat) (place : Place) :
    scan line place stack [] (c :: s ++ rest) =
      (scan line .inside stack [] rest).cons place ⟨t, line, []⟩ := by
  have hf : feeds (c :: s) = 0 := List.count_eq_zero.mpr hn
  rw [List.cons_append, scan_token h, List.take_left, List.drop_left, hf]
  rfl

theorem read_space (s : Text) : Front.read [] ' ' s = .skip 0 none := rfl

theorem scan_space (line : Nat) (s : Text) :
    scan line .inside [] [] (' ' :: s) = scan line .inside [] [] s := by
  rw [scan_skip (read_space s)]
  rfl

/-- Spaces at the start of a line are its indentation. -/
theorem scan_indent (line w n : Nat) (s : Text) :
    scan line (.margin w) [] [] (List.replicate n ' ' ++ s) =
      scan line (.margin (w + n)) [] [] s := by
  induction n generalizing w with
  | zero => rfl
  | succ n ih =>
    rw [List.replicate_succ, List.cons_append, scan_skip (read_space _)]
    exact (ih (w + 1)).trans (by rw [Nat.add_assoc, Nat.add_comm 1])

/-! ### Texts that are read as tokens -/

/-- Whether a character ends a word that stands before it. -/
def isBoundary (c : Char) : Bool :=
  c == ' ' || c == ',' || c == '.' || c == ':' || c == '(' || c == '\n'

/-- A token on a line with nothing but white space before it. -/
def Tok.at (line : Nat) (t : Tok) : Lexeme := ⟨t, line, []⟩

@[simp] theorem Tok.at_tok (line : Nat) (t : Tok) : (t.at line).tok = t := rfl

@[simp] theorem Tok.at_line (line : Nat) (t : Tok) : (t.at line).line = line := rfl

@[simp] theorem Tok.at_gap (line : Nat) (t : Tok) : (t.at line).gap = [] := rfl

theorem Tok.map_tok_at (line : Nat) (ts : List Tok) : (ts.map (Tok.at line)).map (·.tok) = ts := by
  simp [Function.comp_def]

/-- The text, which holds no line end of its own, is read as the tokens after others on its line,
whatever comes after it. -/
structure ReadsInside (s : Text) (ts : List Tok) : Prop where
  /-- No line end of another kind stands in it. -/
  noReturn : '\r' ∉ s
  /-- The scan finds the tokens. -/
  scan_eq : ∀ (line : Nat) (c : Char) (rest : Text), isBoundary c = true →
    scan line .inside [] [] (s ++ c :: rest) =
      (scan line .inside [] [] (c :: rest)).consAll .inside (ts.map (Tok.at line))

/-- The text is read as the tokens, of which there is at least one, wherever it stands. -/
structure Reads (s : Text) (ts : List Tok) : Prop where
  /-- There is a token. -/
  ne_nil : ts ≠ []
  /-- No line end of another kind stands in it. -/
  noReturn : '\r' ∉ s
  /-- The scan finds the tokens. -/
  scan_eq : ∀ (line : Nat) (place : Place) (c : Char) (rest : Text), isBoundary c = true →
    scan line place [] [] (s ++ c :: rest) =
      (scan line .inside [] [] (c :: rest)).consAll place (ts.map (Tok.at line))

namespace Reads

variable {s' : Text} {ts ts' : List Tok}

theorem inside (h : Reads s ts) : ReadsInside s ts :=
  ⟨h.noReturn, fun line => h.scan_eq line .inside⟩

/-- A space inside a line is skipped. -/
theorem inside_space (h : Reads s ts) : ReadsInside (' ' :: s) ts := by
  refine ⟨by simpa using h.noReturn, fun line c rest hc => ?_⟩
  exact (scan_space line _).trans (h.scan_eq line .inside c rest hc)

/-- A text that begins with a boundary may follow directly. -/
theorem append (hc : isBoundary c = true) (h : Reads s ts) (h' : Reads (c :: s') ts') :
    Reads (s ++ c :: s') (ts ++ ts') := by
  refine ⟨by simp [h.ne_nil], ?_, fun line place d rest hd => ?_⟩
  · exact fun hm => (List.mem_append.mp hm).elim h.noReturn h'.noReturn
  · have h₂ := h'.scan_eq line .inside d rest hd
    rw [List.cons_append] at h₂
    rw [List.append_assoc, List.cons_append, h.scan_eq line place c _ hc, h₂,
      Reading.consAll_consAll place (by simpa using h.ne_nil), List.map_append]

/-- Any text may follow after a space. -/
theorem space_inside (h : Reads s ts) (h' : ReadsInside s' ts') :
    Reads (s ++ ' ' :: s') (ts ++ ts') := by
  refine ⟨by simp [h.ne_nil], by simp [h.noReturn, h'.noReturn], fun line place d rest hd => ?_⟩
  rw [List.append_assoc, List.cons_append, h.scan_eq line place ' ' _ rfl, scan_space,
    h'.scan_eq line d rest hd, Reading.consAll_consAll place (by simpa using h.ne_nil),
    List.map_append]

theorem space (h : Reads s ts) (h' : Reads s' ts') : Reads (s ++ ' ' :: s') (ts ++ ts') :=
  h.space_inside h'.inside

/-- A text that is read as one token. -/
theorem single (hn : '\n' ∉ c :: s) (hr : '\r' ∉ c :: s)
    (h : ∀ d rest, isBoundary d = true →
      Front.read [] c (s ++ d :: rest) = .token t s.length .keep) : Reads (c :: s) [t] := by
  refine ⟨by simp, hr, fun line place d rest hd => ?_⟩
  exact scan_token_append (h d rest hd) hn line place

/-- A text whose first token does not depend on a boundary after it. -/
theorem cons {k : Text} (hn : '\n' ∉ c :: k) (hr : '\r' ∉ c :: k) (h' : ReadsInside s ts)
    (h : ∀ d rest, isBoundary d = true →
      Front.read [] c (k ++ (s ++ d :: rest)) = .token t k.length .keep) :
    Reads (c :: k ++ s) (t :: ts) := by
  refine ⟨by simp, ?_, fun line place d rest hd => ?_⟩
  · exact fun hm => (List.mem_append.mp hm).elim hr h'.noReturn
  · rw [List.append_assoc, scan_token_append (h d rest hd) hn, h'.scan_eq line d rest hd]
    exact Reading.consAll_consAll place (by simp : [Tok.at line t] ≠ []) _ _

end Reads

/-! ### Words -/

/-- A character that ends a word belongs to none, opens no string and is no letter before one. -/
theorem not_of_isBoundary (h : isBoundary c = true) :
    Identifier.isContinue c = false ∧ Front.isQuote c = false ∧ Front.isStringLetter c = false := by
  simp only [isBoundary, Bool.or_eq_true, beq_iff_eq] at h
  rcases h with ((((rfl | rfl) | rfl) | rfl) | rfl) | rfl <;> decide

theorem not_isContinue_of_isQuote (h : Front.isQuote c = true) :
    Identifier.isContinue c = false := by
  simp only [Front.isQuote, Bool.or_eq_true, beq_iff_eq] at h
  rcases h with (rfl | rfl) | rfl <;> decide

theorem not_isStart_of_isSpace (h : Front.isSpace c = true) : Identifier.isStart c = false := by
  simp only [Front.isSpace, Bool.or_eq_true, beq_iff_eq] at h
  rcases h with (((((rfl | rfl) | rfl) | rfl) | rfl) | rfl) | rfl <;> decide +kernel

/-- Whether a text is a word: a character that begins an identifier and some that continue it. -/
def IsWord : Text → Prop
  | [] => False
  | c :: s => Identifier.isStart c = true ∧ s.all Identifier.isContinue = true

theorem IsWord.isContinue (h : IsWord s) : ∀ c ∈ s, Identifier.isContinue c = true := by
  cases s with
  | nil => exact h.elim
  | cons c s =>
    intro d hd
    rcases List.mem_cons.mp hd with rfl | hd
    · exact Identifier.isContinue_of_isStart h.1
    · exact List.all_eq_true.mp h.2 d hd

theorem head?_dropWhile_append {p : Char → Bool} (hd : p d = false) (s rest : Text) :
    ∃ q, ((s ++ d :: rest).dropWhile p).head? = some q ∧ (q ∈ s ∨ q = d) := by
  induction s with
  | nil => exact ⟨d, by simp [hd], .inr rfl⟩
  | cons c s ih =>
    by_cases hc : p c = true
    · obtain ⟨q, hq, hm⟩ := ih
      exact ⟨q, by simpa [hc] using hq, hm.imp_left (List.mem_cons_of_mem c)⟩
    · exact ⟨c, by simp [hc], .inl (List.mem_cons_self ..)⟩

theorem drop_length_takeWhile (p : Char → Bool) (s : Text) :
    s.drop (s.takeWhile p).length = s.dropWhile p := by
  induction s with
  | nil => rfl
  | cons c s ih => by_cases hc : p c = true <;> simp [hc, ih]

theorem takeWhile_isContinue (hs : ∀ c ∈ s, Identifier.isContinue c = true)
    (hd : isBoundary d = true) (rest : Text) :
    (s ++ d :: rest).takeWhile Identifier.isContinue = s :=
  Text.takeWhile_append_of_head? hs fun _ hc => Option.some.inj hc ▸ (not_of_isBoundary hd).1

theorem readWord_eq (hs : ∀ c ∈ s, Identifier.isContinue c = true) (hd : isBoundary d = true)
    (c : Char) (rest : Text) :
    Front.readWord [] c (s ++ d :: rest) = .token (Tok.ofWord (c :: s)) s.length .keep := by
  have hstar : d ≠ '*' := by rintro rfl; exact absurd hd (by decide)
  simp only [Front.readWord, takeWhile_isContinue hs hd, List.drop_left, List.head?_cons,
    Option.some.injEq, if_neg hstar]
  split
  · next h => rw [h]
  · next h => cases h
  · rfl

/-- The letters that may stand before a string end before a character that opens none, so a word
is read as a word. -/
theorem read_word (h : IsWord (c :: s)) (hd : isBoundary d = true) (rest : Text) :
    Front.read [] c (s ++ d :: rest) = .token (Tok.ofWord (c :: s)) s.length .keep := by
  have hne : ∀ e, Identifier.isStart e = false → c ≠ e := by
    rintro e he rfl
    exact absurd h.1 (by simp [he])
  have hsp : Front.isSpace c = false :=
    Bool.eq_false_iff.mpr fun hs => by simpa [not_isStart_of_isSpace hs] using h.1
  obtain ⟨q, hq, hmem⟩ :=
    head?_dropWhile_append (p := Front.isStringLetter) (not_of_isBoundary hd).2.2 (c :: s) rest
  have hquote : Front.isQuote q = false := by
    rcases hmem with hm | rfl
    · refine Bool.eq_false_iff.mpr fun hs => ?_
      simpa [not_isContinue_of_isQuote hs] using h.isContinue q hm
    · exact (not_of_isBoundary hd).2.1
  change Front.readCode [] c (s ++ d :: rest) = _
  rw [List.cons_append] at hq
  simp only [Front.readCode, if_neg (hne '\n' (by decide)), hsp, if_neg (hne '#' (by decide)),
    if_neg (hne '\\' (by decide)), drop_length_takeWhile, hq, hquote, h.1]
  exact readWord_eq (List.all_eq_true.mp h.2) hd c rest

theorem reads_word (h : IsWord s) : Reads s [Tok.ofWord s] := by
  cases s with
  | nil => exact h.elim
  | cons c s =>
    refine Reads.single (fun hn => ?_) (fun hr => ?_) fun d rest hd => read_word h hd rest
    · exact absurd (h.isContinue '\n' hn) (by decide)
    · exact absurd (h.isContinue '\r' hr) (by decide)

/-! ### Marks -/

theorem digitRun_eq_zero {p : Char → Bool} (hc : p c = false) (s : Text) :
    Front.digitRun p (c :: s) = 0 := by
  unfold Front.digitRun
  split <;> simp_all

theorem numberSize_eq_zero (hc : c.isDigit = false)
    (hs : c = '.' → ∀ d ∈ s.head?, d.isDigit = false) : Front.numberSize (c :: s) = 0 := by
  have h0 : c ≠ '0' := by rintro rfl; exact absurd hc (by decide)
  have hb : Front.basedSize (c :: s) = 0 := by
    unfold Front.basedSize
    split
    · next h => exact absurd (List.cons.inj h).1 h0
    · rfl
  simp only [Front.numberSize, digitRun_eq_zero hc, hb, List.drop_zero, if_true, Nat.max_self]
  by_cases hd : c = '.'
  · subst hd
    cases s with
    | nil => rfl
    | cons d s => simp [digitRun_eq_zero (hs rfl d rfl)]
  · split
    · next h => exact absurd (List.cons.inj h).1 hd
    · rfl

/-- Whether nothing but a mark begins with the character. -/
def isMarkChar (c : Char) : Bool :=
  c != '\n' && !Front.isSpace c && c != '#' && c != '\\' && !Front.isStringLetter c &&
    !Front.isQuote c && !Identifier.isStart c && !c.isDigit

theorem readCode_mark (h : isMarkChar c = true) (hs : c = '.' → ∀ d ∈ s.head?, d.isDigit = false) :
    Front.readCode stack c s = Front.readMark stack c s := by
  simp only [isMarkChar, Bool.and_eq_true, bne_iff_ne, Bool.not_eq_true'] at h
  obtain ⟨⟨⟨⟨⟨⟨⟨h₁, h₂⟩, h₃⟩, h₄⟩, h₅⟩, h₆⟩, h₇⟩, h₈⟩ := h
  simp [Front.readCode, h₁, h₂, h₃, h₄, h₅, h₆, h₇, numberSize_eq_zero h₈ hs]

/-- A mark before a boundary. -/
theorem reads_mark {m : Mark} (h : isMarkChar c = true) (hc : c ≠ '.')
    (hm : ∀ d rest, isBoundary d = true →
      Front.readMark [] c (d :: rest) = .token (.mark m) 0 .keep) : Reads [c] [.mark m] := by
  refine Reads.single (fun hn => ?_) (fun hr => ?_) fun d rest hd => ?_
  · rw [← List.mem_singleton.mp hn] at h
    exact absurd h (by decide)
  · rw [← List.mem_singleton.mp hr] at h
    exact absurd h (by decide)
  · exact (readCode_mark h fun h' => absurd h' hc).trans (hm d rest hd)

theorem ne_equals_of_isBoundary (h : isBoundary c = true) : c ≠ '=' ∧ c ≠ '*' := by
  constructor <;> rintro rfl <;> exact absurd h (by decide)

theorem reads_comma : Reads [','] [.mark .comma] :=
  reads_mark (by decide) (by decide) fun _ _ _ => rfl

theorem mark?_star (h₁ : c ≠ '=') (h₂ : c ≠ '*') :
    Front.mark? ('*' :: c :: s) = some (.star, 1) := by
  simp [Front.mark?, Front.marks, h₁.symm, h₂.symm]
  rfl

theorem mark?_colon (h : c ≠ '=') : Front.mark? (':' :: c :: s) = some (.colon, 1) := by
  simp [Front.mark?, Front.marks, h.symm]
  rfl

theorem mark?_at (h : c ≠ '=') : Front.mark? ('@' :: c :: s) = some (.at, 1) := by
  simp [Front.mark?, Front.marks, h.symm]
  rfl

theorem mark?_dot (h : ¬ ['.', '.'] <+: s) : Front.mark? ('.' :: s) = some (.dot, 1) := by
  simp [Front.mark?, Front.marks, h]
  rfl

/-- Outside of brackets the longest mark is read. -/
theorem readMark_eq {m : Mark} {n : Nat} (ho : Front.opening? c = none)
    (hc : Front.closing? c = none) (h : Front.mark? (c :: s) = some (m, n)) :
    Front.readMark [] c s = .token (.mark m) (n - 1) .keep := by
  simp [Front.readMark, ho, hc, h]

theorem reads_star : Reads ['*'] [.mark .star] := by
  refine reads_mark (by decide) (by decide) fun d rest hd => ?_
  obtain ⟨h₁, h₂⟩ := ne_equals_of_isBoundary hd
  exact readMark_eq rfl rfl (mark?_star h₁ h₂)

theorem reads_colon : Reads [':'] [.mark .colon] := by
  refine reads_mark (by decide) (by decide) fun d rest hd => ?_
  exact readMark_eq rfl rfl (mark?_colon (ne_equals_of_isBoundary hd).1)

theorem reads_at {ts : List Tok} (hc : c ≠ '=') (h : ReadsInside (c :: s) ts) :
    Reads ('@' :: c :: s) (.mark .at :: ts) := by
  refine Reads.cons (k := []) (by decide) (by decide) h fun d rest _ => ?_
  exact (readCode_mark (by decide) (by simp)).trans (readMark_eq rfl rfl (mark?_at hc))

theorem reads_dot {ts : List Tok} (hd : c.isDigit = false) (hc : c ≠ '.')
    (h : ReadsInside (c :: s) ts) : Reads ('.' :: c :: s) (.mark .dot :: ts) := by
  refine Reads.cons (k := []) (by decide) (by decide) h fun d rest _ => ?_
  exact (readCode_mark (by decide) (by simp [hd])).trans
    (readMark_eq rfl rfl (mark?_dot (by simp [hc.symm])))

theorem reads_ellipsis {ts : List Tok} (h : ReadsInside s ts) :
    Reads ('.' :: '.' :: '.' :: s) (.mark .ellipsis :: ts) := by
  refine Reads.cons (k := ['.', '.']) (by decide) (by decide) h fun d rest _ => ?_
  have hm : Front.mark? ('.' :: (['.', '.'] ++ (s ++ d :: rest))) = some (.ellipsis, 3) := rfl
  exact (readCode_mark (by decide) (by simp)).trans (readMark_eq rfl rfl hm)

/-- The tokens that a run of dots is read as. -/
def dotToks : Nat → List Tok
  | 0 => []
  | 1 => [.mark .dot]
  | 2 => [.mark .dot, .mark .dot]
  | n + 3 => .mark .ellipsis :: dotToks n

/-- A run of dots before something that is no dot. -/
theorem reads_dots {ts : List Tok} (hd : c.isDigit = false) (hc : c ≠ '.')
    (h : ReadsInside (c :: s) ts) (n : Nat) :
    ReadsInside (List.replicate n '.' ++ c :: s) (dotToks n ++ ts) := by
  induction n using dotToks.induct with
  | case1 => exact h
  | case2 => exact (reads_dot hd hc h).inside
  | case3 =>
    have h' := (reads_dot hd hc h).inside
    refine (Reads.cons (k := []) (by decide) (by decide) h' fun d rest _ => ?_).inside
    exact (readCode_mark (by decide) (by simp)).trans
      (readMark_eq rfl rfl (mark?_dot (by simp [hc.symm])))
  | case4 n ih => exact (reads_ellipsis ih).inside

/-- Empty round brackets before a colon. -/
theorem reads_brackets :
    Reads ['(', ')', ':'] [.mark .roundOpen, .mark .roundClose, .mark .colon] := by
  refine ⟨by simp, by decide, fun line place d rest hd => ?_⟩
  have ho : Front.read [] '(' (')' :: ':' :: d :: rest) =
      .token (.mark .roundOpen) 0 (.openBracket ')') :=
    readCode_mark (by decide) (by simp)
  have hc : Front.read [.bracket ')' line] ')' (':' :: d :: rest) =
      .token (.mark .roundClose) 0 .close :=
    readCode_mark (by decide) (by simp)
  have h₁ := scan_token ho line place []
  have h₂ := scan_token hc line .inside []
  have h₃ := reads_colon.scan_eq line .inside d rest hd
  exact h₁.trans (congrArg (Reading.cons place _)
    (h₂.trans (congrArg (Reading.cons .inside _) h₃)))

end CodeAtlas.Python
