import CodeAtlas.Proofs.Docstring.Escapes

/-!
# Literals side by side

A `Literal` is a string literal taken apart: the letters in front, the delimiter, and a body in
which the delimiter does not stand bare. Decoding its source text finds these parts again
(`decode?_source`), although the delimiter is guessed from the text alone. The docstring of
literals side by side is their joined values, cleaned once; so a literal may be cut between two
items of its body, and each part delimited anew (`ofLiterals?_reads_literals`).
-/

namespace CodeAtlas.Docstring

variable {names : CharacterNames}

/-! ### Literals taken apart -/

/-- Whether a delimiter stands in a body at a place that no backslash escapes. -/
inductive Bare (delimiter : Text) : Text → Prop where
  /-- It stands at the front. -/
  | here {s : Text} : delimiter <+: s → Bare delimiter s
  /-- It stands after a character that escapes nothing. -/
  | plain {c : Char} {s : Text} : c ≠ '\\' → Bare delimiter s → Bare delimiter (c :: s)
  /-- It stands after a backslash and the character that this one escapes. -/
  | escaped {c : Char} {s : Text} : Bare delimiter s → Bare delimiter ('\\' :: c :: s)

theorem bare_nil_iff {d : Text} : Bare d [] ↔ d <+: [] := by
  constructor
  · rintro ⟨h⟩
    exact h
  · exact .here

theorem bare_singleton_iff {d : Text} {c : Char} :
    Bare d [c] ↔ d <+: [c] ∨ c ≠ '\\' ∧ d <+: [] := by
  constructor
  · intro h
    cases h with
    | here h => exact .inl h
    | plain hc h => exact .inr ⟨hc, bare_nil_iff.mp h⟩
  · rintro (h | ⟨hc, h⟩)
    · exact .here h
    · exact .plain hc (.here h)

theorem bare_cons_cons_iff {d : Text} {c e : Char} {s : Text} :
    Bare d (c :: e :: s) ↔
      d <+: c :: e :: s ∨ (c ≠ '\\' ∧ Bare d (e :: s)) ∨ (c = '\\' ∧ Bare d s) := by
  constructor
  · intro h
    cases h with
    | here h => exact .inl h
    | plain hc h => exact .inr (.inl ⟨hc, h⟩)
    | escaped h => exact .inr (.inr ⟨rfl, h⟩)
  · rintro (h | ⟨hc, h⟩ | ⟨rfl, h⟩)
    · exact .here h
    · exact .plain hc h
    · exact .escaped h

instance Bare.decidable (d : Text) : (s : Text) → Decidable (Bare d s)
  | [] => decidable_of_iff _ bare_nil_iff.symm
  | [_] => decidable_of_iff _ bare_singleton_iff.symm
  | _ :: e :: s =>
    have := Bare.decidable d (e :: s)
    have := Bare.decidable d s
    decidable_of_iff _ bare_cons_cons_iff.symm

/-- A string literal. -/
structure Literal where
  /-- The letters in front of the opening delimiter. -/
  letters : Text
  /-- The delimiter. -/
  delimiter : Text
  /-- What stands between the two delimiters. -/
  body : Text
  /-- The letters are those that a literal may have, in either case. -/
  letters_mem : ∀ c ∈ letters, c ∈ ['r', 'u', 'b', 'f', 'R', 'U', 'B', 'F']
  /-- The delimiter is one of the four. -/
  delimiter_mem : delimiter ∈ quotes
  /-- The body does not close the literal. -/
  not_bare : ¬ Bare delimiter body

namespace Literal

/-- A literal as it is written. -/
def source (l : Literal) : Text := l.letters ++ (l.delimiter ++ (l.body ++ l.delimiter))

/-- Whether a letter stands in front of a literal, in either case. -/
def Has (l : Literal) (lower upper : Char) : Prop := lower ∈ l.letters ∨ upper ∈ l.letters
  deriving Decidable

/-- Whether a literal is a text, neither bytes nor a format string. -/
def IsText (l : Literal) : Prop := ¬ l.Has 'b' 'B' ∧ ¬ l.Has 'f' 'F'
  deriving Decidable

/-- Whether the body of a literal is taken as it is. -/
def IsRaw (l : Literal) : Prop := l.Has 'r' 'R'
  deriving Decidable

/-- What a literal stands for if it is a text. -/
def value (names : CharacterNames) (l : Literal) : Text :=
  if l.IsRaw then l.body else unescape names l.body

theorem value_of_isRaw {l : Literal} (h : l.IsRaw) : l.value names = l.body := if_pos h

theorem value_of_not_isRaw {l : Literal} (h : ¬ l.IsRaw) :
    l.value names = unescape names l.body := if_neg h

end Literal

/-! ### Finding the parts -/

theorem quotes_eq : quotes = [['"', '"', '"'], ['\'', '\'', '\''], ['"'], ['\'']] := rfl

theorem not_isAlpha_of_mem_quotes : ∀ d ∈ quotes, ∀ c ∈ d, c.isAlpha = false := by
  simp [quotes_eq]

theorem ne_nil_of_mem_quotes : ∀ d ∈ quotes, d ≠ [] := by
  simp [quotes_eq]

theorem stripAnyPrefix_cons_append (d rest : Text) (ds : List Text) :
    Text.stripAnyPrefix (d ++ rest) (d :: ds) = some (d, rest) := by
  have hd : d.isPrefixOf? (d ++ rest) = some rest :=
    List.isPrefixOf?_eq_some_iff_append_eq.mpr rfl
  rw [Text.stripAnyPrefix, hd]

theorem stripAnyPrefix_cons_of_not_begins {d s : Text} (h : ¬ d <+: s) (ds : List Text) :
    Text.stripAnyPrefix s (d :: ds) = Text.stripAnyPrefix s ds := by
  cases hd : d.isPrefixOf? s with
  | none => rw [Text.stripAnyPrefix, hd]
  | some rest => exact absurd ⟨rest, List.isPrefixOf?_eq_some_iff_append_eq.mp hd⟩ h

/-- A body that a quote does not close does not begin with the quote, so that the three quotes in a
row do not stand at the front of the literal. -/
theorem not_tripled {q : Char} {body : Text} (h : ¬ Bare [q] body) :
    ¬ [q, q, q] <+: [q] ++ (body ++ [q]) := by
  cases body with
  | nil => simp
  | cons c body =>
    have hc : q ≠ c := fun hc => h (.here (by simp [hc]))
    simp [hc]

/-- The delimiter that a literal begins with is found, and its body between the two. -/
theorem stripDelimiters_source {d body : Text} (hd : d ∈ quotes) (h : ¬ Bare d body) :
    Text.stripDelimiters (d ++ (body ++ d)) quotes = some body := by
  have hfind : Text.stripAnyPrefix (d ++ (body ++ d)) quotes = some (d, body ++ d) := by
    simp only [quotes_eq, List.mem_cons, List.not_mem_nil, or_false] at hd ⊢
    rcases hd with rfl | rfl | rfl | rfl
    · exact stripAnyPrefix_cons_append ..
    · rw [stripAnyPrefix_cons_of_not_begins (by simp)]
      exact stripAnyPrefix_cons_append ..
    · rw [stripAnyPrefix_cons_of_not_begins (not_tripled h),
        stripAnyPrefix_cons_of_not_begins (by simp)]
      exact stripAnyPrefix_cons_append ..
    · rw [stripAnyPrefix_cons_of_not_begins (by simp),
        stripAnyPrefix_cons_of_not_begins (not_tripled h),
        stripAnyPrefix_cons_of_not_begins (by simp)]
      exact stripAnyPrefix_cons_append ..
  rw [Text.stripDelimiters, hfind]
  exact List.isSuffixOf?_eq_some_iff_append_eq.mpr rfl

namespace Literal

variable (l : Literal)

theorem takeWhile_isAlpha_source :
    l.source.takeWhile Char.isAlpha = l.letters ∧
      l.source.dropWhile Char.isAlpha = l.delimiter ++ (l.body ++ l.delimiter) := by
  have hletters : ∀ c ∈ l.letters, c.isAlpha = true := by
    have hall : ∀ c ∈ ['r', 'u', 'b', 'f', 'R', 'U', 'B', 'F'], c.isAlpha = true := by simp
    exact fun c hc => hall c (l.letters_mem c hc)
  have hquote : ∀ c ∈ (l.delimiter ++ (l.body ++ l.delimiter)).head?, c.isAlpha = false := by
    obtain ⟨q, d, hd⟩ := List.exists_cons_of_ne_nil (ne_nil_of_mem_quotes _ l.delimiter_mem)
    rw [hd]
    rintro _ ⟨⟩
    exact not_isAlpha_of_mem_quotes _ l.delimiter_mem q (hd ▸ List.mem_cons_self ..)
  exact ⟨Text.takeWhile_append_of_head? hletters hquote,
    Text.dropWhile_append_of_head? hletters hquote⟩

/-- The letters in front are found whatever their case. -/
theorem has_literalPrefix (lower upper : Char)
    (h : ∀ c ∈ ['r', 'u', 'b', 'f', 'R', 'U', 'B', 'F'],
      c.toLower = lower ↔ c = lower ∨ c = upper) :
    (literalPrefix l.source).has lower = true ↔ l.Has lower upper := by
  simp only [literalPrefix, l.takeWhile_isAlpha_source.1, Text.has, Text.asciiLower, List.any_map,
    List.any_eq_true, Function.comp_apply, beq_iff_eq, Has]
  constructor
  · rintro ⟨c, hc, hlower⟩
    rcases (h c (l.letters_mem c hc)).mp hlower with rfl | rfl
    · exact .inl hc
    · exact .inr hc
  · rintro (hc | hc)
    · exact ⟨lower, hc, (h lower (l.letters_mem lower hc)).mpr (.inl rfl)⟩
    · exact ⟨upper, hc, (h upper (l.letters_mem upper hc)).mpr (.inr rfl)⟩

/-- Decoding a literal gives its value, and nothing for bytes and format strings. -/
theorem decode?_source :
    decode? names l.source = if l.IsText then some (l.value names) else none := by
  have hb := l.has_literalPrefix 'b' 'B' (by simp)
  have hf := l.has_literalPrefix 'f' 'F' (by simp)
  have hr := l.has_literalPrefix 'r' 'R' (by simp)
  simp only [decode?, Bool.or_eq_true, hb, hf, hr, l.takeWhile_isAlpha_source.2,
    stripDelimiters_source l.delimiter_mem l.not_bare, IsText, ← not_or]
  by_cases h : l.Has 'b' 'B' ∨ l.Has 'f' 'F'
  · rw [if_pos h, if_neg (not_not_intro h)]
  · by_cases hraw : l.Has 'r' 'R'
    · rw [if_neg h, if_pos h, if_pos hraw, value_of_isRaw hraw]
    · rw [if_neg h, if_pos h, if_neg hraw, value_of_not_isRaw hraw]

end Literal

/-- Literals side by side stand for their values one after another, if they all are texts. -/
theorem decodeAll?_source (ls : List Literal) :
    decodeAll? names (ls.map Literal.source) =
      if ∀ l ∈ ls, l.IsText then some (ls.flatMap (Literal.value names)) else none := by
  induction ls with
  | nil => rfl
  | cons l ls ih =>
    rw [List.map_cons, decodeAll?, l.decode?_source, ih]
    by_cases hl : l.IsText
    · by_cases hls : ∀ k ∈ ls, k.IsText
      · rw [if_pos hl, if_pos hls, if_pos (List.forall_mem_cons.mpr ⟨hl, hls⟩)]
        rfl
      · have hnot : ¬ ∀ k ∈ l :: ls, k.IsText := fun h => hls (List.forall_mem_cons.mp h).2
        rw [if_pos hl, if_neg hls, if_neg hnot]
        rfl
    · rw [if_neg hl, if_neg fun h => hl (List.forall_mem_cons.mp h).1]

theorem ofLiterals?_source (ls : List Literal) :
    ofLiterals? names (ls.map Literal.source) =
      if ∀ l ∈ ls, l.IsText then ofText? (ls.flatMap (Literal.value names)) else none := by
  rw [ofLiterals?, decodeAll?_source]
  split <;> simp_all [ofText?]

theorem ofText?_eq_some_iff {t s : Text} : ofText? t = some s ↔ s ≠ [] ∧ s = clean t := by
  unfold ofText?
  constructor
  · intro h
    split at h
    · cases h
    · next hne =>
      cases h
      exact ⟨fun hnil => hne (List.isEmpty_iff.mpr hnil), rfl⟩
  · rintro ⟨hne, rfl⟩
    rw [if_neg fun h => hne (List.isEmpty_iff.mp h)]

/-- The docstring that literals make, if they make one. -/
theorem ofLiterals?_source_eq_some_iff {ls : List Literal} {s : Text} :
    ofLiterals? names (ls.map Literal.source) = some s ↔
      (∀ l ∈ ls, l.IsText) ∧ s ≠ [] ∧ s = clean (ls.flatMap (Literal.value names)) := by
  rw [ofLiterals?_source]
  by_cases h : ∀ l ∈ ls, l.IsText
  · rw [if_pos h, ofText?_eq_some_iff]
    exact (and_iff_right h).symm
  · rw [if_neg h]
    exact ⟨nofun, fun hs => absurd hs.1 h⟩

/-- Texts that make a docstring all decode to something. -/
theorem isSome_decode?_of_mem {ls : List Text} {s : Text} (h : ofLiterals? names ls = some s) :
    ∀ l ∈ ls, (decode? names l).isSome = true := by
  have hall : (decodeAll? names ls).isSome = true := by
    cases hd : decodeAll? names ls with
    | none => simp [ofLiterals?, hd] at h
    | some t => rfl
  clear h
  induction ls with
  | nil => exact List.forall_mem_nil _
  | cons l ls ih =>
    rw [decodeAll?] at hall
    cases hl : decode? names l with
    | none => simp [hl] at hall
    | some t =>
      rw [hl, Option.isSome_map] at hall
      exact List.forall_mem_cons.mpr ⟨by rw [hl]; rfl, ih hall⟩

/-! ### Cutting a literal -/

theorem Escape.Fits.of_append {e s t : Text} (h : Escape.Fits e (s ++ t)) : Escape.Fits e s := by
  intro hoctal hlt c hc
  refine h hoctal hlt c ?_
  rw [List.head?_append, hc]
  rfl

/-- Less text after an item leaves it the item that it is: no escape begins or grows by it. -/
theorem Item.Precedes.of_append {i : Item} {s t : Text} (h : i.Precedes names (s ++ t)) :
    i.Precedes names s := by
  cases h with
  | plain hc => exact .plain hc
  | escape hw hf => exact .escape hw hf.of_append
  | backslash hnone =>
    refine .backslash fun w v u hw hs => hnone w v (u ++ t) hw ?_
    rw [hs, List.append_assoc]

/-- A body cut between two items is two bodies with the items of each. -/
theorem Items.exists_append {is js : List Item} {s : Text} (h : Items names (is ++ js) s) :
    ∃ t u, s = t ++ u ∧ Items names is t ∧ Items names js u := by
  induction is generalizing s with
  | nil => exact ⟨[], s, rfl, .nil, h⟩
  | cons i is ih =>
    cases h with
    | cons hi his =>
      obtain ⟨t, u, rfl, ht, hu⟩ := ih his
      exact ⟨i.spelling ++ t, u, (List.append_assoc ..).symm, .cons hi.of_append ht, hu⟩

theorem Items.eq_flatMap {is : List Item} {s : Text} (h : Items names is s) :
    s = is.flatMap Item.spelling := by
  induction h with
  | nil => rfl
  | cons _ _ ih => rw [List.flatMap_cons, ← ih]

/-- Whether a literal whose escapes are decoded has the given items for its body. -/
structure Literal.Holds (is : List Item) (l : Literal) : Prop where
  /-- It is a text. -/
  isText : l.IsText
  /-- Its escapes are decoded. -/
  not_isRaw : ¬ l.IsRaw
  /-- Its body is what the items are written as. -/
  body_eq : l.body = is.flatMap Item.spelling

/-- The parts of a body stand for what the whole body does. -/
theorem flatMap_value_of_holds {iss : List (List Item)} {ls : List Literal}
    (h : List.Forall₂ Literal.Holds iss ls) {s : Text} (hs : Items names iss.flatten s) :
    (∀ l ∈ ls, l.IsText) ∧ ls.flatMap (Literal.value names) = unescape names s := by
  rw [hs.unescape_eq]
  induction h generalizing s with
  | nil => exact ⟨List.forall_mem_nil _, rfl⟩
  | @cons is l iss ls hl _ ih =>
    rw [List.flatten_cons] at hs
    obtain ⟨t, u, -, ht, hu⟩ := hs.exists_append
    obtain ⟨htexts, hvalues⟩ := ih hu
    have hvalue : l.value names = is.flatMap Item.value := by
      rw [Literal.value_of_not_isRaw hl.not_isRaw, hl.body_eq, ← ht.eq_flatMap, ht.unescape_eq]
    refine ⟨List.forall_mem_cons.mpr ⟨hl.isText, htexts⟩, ?_⟩
    rw [List.flatMap_cons, hvalue, hvalues, List.flatten_cons, List.flatMap_append]

/-- Literals side by side make the docstring of their joined values if they all are texts, and none
otherwise. So the docstring stays the same when a literal among them is cut between the items of its
body and each part is delimited in a way of its own. -/
theorem ofLiterals?_reads_literals (names : CharacterNames) :
    (∀ ls : List Literal, ofLiterals? names (ls.map Literal.source) =
      if ∀ l ∈ ls, l.IsText then ofText? (ls.flatMap (Literal.value names)) else none) ∧
    ∀ (before after : List Literal) (l : Literal) (iss : List (List Item)) (parts : List Literal),
      l.IsText → ¬ l.IsRaw → Items names iss.flatten l.body → List.Forall₂ Literal.Holds iss parts →
        ofLiterals? names ((before ++ (parts ++ after)).map Literal.source) =
          ofLiterals? names ((before ++ l :: after).map Literal.source) := by
  refine ⟨ofLiterals?_source, ?_⟩
  intro before after l iss parts htext hraw hitems hparts
  obtain ⟨htexts, hvalues⟩ := flatMap_value_of_holds hparts hitems
  rw [← Literal.value_of_not_isRaw hraw] at hvalues
  have hall : (∀ k ∈ before ++ (parts ++ after), k.IsText) ↔
      ∀ k ∈ before ++ l :: after, k.IsText := by
    simp only [List.forall_mem_append, List.forall_mem_cons, htext, true_and]
    exact ⟨fun h => ⟨h.1, h.2.2⟩, fun h => ⟨h.1, htexts, h.2⟩⟩
  have hjoined : (before ++ (parts ++ after)).flatMap (Literal.value names) =
      (before ++ l :: after).flatMap (Literal.value names) := by
    simp only [List.flatMap_append, List.flatMap_cons, hvalues]
  rw [ofLiterals?_source, ofLiterals?_source, hjoined]
  simp only [hall]

/-- A literal between double quotes is cut before a line end. The parts are delimited by double and
by three single quotes, and the margin of the second line is still taken off, which it would not be
if each part were cleaned on its own. A format string in front leaves no docstring. -/
theorem ofLiterals?_reads_literals_cut :
    let names := CharacterName.lookup?
    ∃ (l : Literal) (iss : List (List Item)) (parts : List Literal) (format : Literal),
      l.source = "\"a'\\n\\x20b\\q\"".toList ∧
      parts.map Literal.source = ["U\"a'\"".toList, "'''\\n\\x20b\\q'''".toList] ∧
      format.source = "rF''".toList ∧
      l.IsText ∧ ¬ l.IsRaw ∧ Items names iss.flatten l.body ∧ List.Forall₂ Literal.Holds iss parts ∧
      ofLiterals? names (parts.map Literal.source) = ofLiterals? names [l.source] ∧
      ofLiterals? names [l.source] = some "a'\nb\\q".toList ∧
      ofLiterals? names ((format :: parts).map Literal.source) = none := by
  intro names
  let l : Literal := ⟨[], ['"'], "a'\\n\\x20b\\q".toList, by simp, by simp [quotes_eq],
    by decide +kernel⟩
  let first : Literal := ⟨['U'], ['"'], "a'".toList, by simp, by simp [quotes_eq],
    by decide +kernel⟩
  let second : Literal := ⟨[], ['\'', '\'', '\''], "\\n\\x20b\\q".toList, by simp,
    by simp [quotes_eq], by decide +kernel⟩
  let format : Literal := ⟨['r', 'F'], ['\''], [], by simp, by simp [quotes_eq], by decide +kernel⟩
  let iss : List (List Item) := [[⟨['a'], ['a']⟩, ⟨['\''], ['\'']⟩],
    [⟨['\\', 'n'], ['\n']⟩, ⟨"\\x20".toList, [' ']⟩, ⟨['b'], ['b']⟩, ⟨['\\'], ['\\']⟩,
      ⟨['q'], ['q']⟩]]
  have hcode : Escape.Spells names "x20".toList [' '] :=
    .hex (by decide) (hexValue?_eq_some_iff.mp (by decide +kernel)).2
  have hitems : Items names iss.flatten l.body :=
    .cons (.plain (by decide)) <| .cons (.plain (by decide)) <|
      .cons (.escape (.control (by decide))
        (Escape.fits_of_not_isOctal (List.mem_singleton_self _) rfl)) <|
      .cons (.escape hcode (Escape.fits_of_not_isOctal (List.mem_cons_self ..) rfl)) <|
      .cons (.plain (by decide)) <| .cons (.backslash (read?_eq_none_iff.mp (by decide +kernel))) <|
      .cons (.plain (by decide)) .nil
  have htext : l.IsText := by decide
  have hraw : ¬ l.IsRaw := by decide
  have hparts : List.Forall₂ Literal.Holds iss [first, second] :=
    .cons ⟨by decide, by decide, rfl⟩ (.cons ⟨by decide, by decide, rfl⟩ .nil)
  have hcut := (ofLiterals?_reads_literals names).2 [] [] l iss [first, second] htext hraw hitems
    hparts
  refine ⟨l, iss, [first, second], format, rfl, rfl, rfl, htext, hraw, hitems, hparts, hcut,
    ?_, ?_⟩
  · decide +kernel
  · exact (ofLiterals?_reads_literals names).1 [format, first, second]

end CodeAtlas.Docstring
