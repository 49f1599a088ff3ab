import CodeAtlas.Proofs.Docstring.Quoting
import CodeAtlas.Proofs.Text.Splitting
import CodeAtlas.Unicode.CharacterName
import Mathlib

/-!
# The escapes of a literal

The body of a literal is a sequence of items: characters that stand for themselves, escapes, and
backslashes that begin no escape. `Escape.Spells` lists the escapes with what each stands for, and
`Items` says how a body falls into items from left to right. Every body does so in one way, and
decoding puts the values of the items together. So a text that is spelled character by character,
in whatever way, is decoded to itself (`unescape_reads_items`).
-/

namespace CodeAtlas.Docstring

variable {names : CharacterNames}

/-! ### What an escape stands for -/

/-- Whether a character is the digit of a value in a base. -/
def IsDigit (base : Nat) (c : Char) (d : Nat) : Prop :=
  Text.hexDigit? c = some d ∧ d < base

/-- Whether a text is the numeral of a number in a base, the most significant digit first. -/
def IsNumeral (base : Nat) (s : Text) (n : Nat) : Prop :=
  ∃ ds : List Nat, List.Forall₂ (IsDigit base) s ds ∧ n = Nat.ofDigits base ds.reverse

namespace Escape

/-- The characters that stand for one character after a backslash, with that character. -/
def controls : List (Char × Char) :=
  [('\\', '\\'), ('\'', '\''), ('"', '"'), ('a', '\x07'), ('b', '\x08'), ('f', '\x0c'),
    ('n', '\n'), ('r', '\r'), ('t', '\t'), ('v', '\x0b')]

/-- The letters before a hexadecimal code, with the number of its digits. -/
def codes : List (Char × Nat) := [('x', 2), ('u', 4), ('U', 8)]

/-- What an escape consists of after its backslash, and what it stands for. -/
inductive Spells (names : CharacterNames) : Text → Text → Prop where
  /-- An escaped line end stands for nothing. -/
  | lineEnd : Spells names ['\n'] []
  /-- A quote, a backslash or a letter for a control character. -/
  | control {c v : Char} : (c, v) ∈ controls → Spells names [c] [v]
  /-- A code of one to three octal digits. -/
  | octal {digits : Text} {v : Char} : digits ≠ [] → digits.length ≤ 3 →
      IsNumeral 8 digits v.toNat → Spells names digits [v]
  /-- A code of two, four or eight hexadecimal digits. -/
  | hex {letter : Char} {digits : Text} {v : Char} : (letter, digits.length) ∈ codes →
      IsNumeral 16 digits v.toNat → Spells names (letter :: digits) [v]
  /-- A name in braces. -/
  | named {name : Text} {v : Char} : '\x7d' ∉ name → names name = some v →
      Spells names ('N' :: '\x7b' :: (name ++ ['\x7d'])) [v]

/-- Whether an escape can end where the rest of a body begins: octal digits go on as long as
there are any, up to three. -/
def Fits (e rest : Text) : Prop :=
  (∀ c ∈ e, isOctal c = true) → e.length < 3 → ∀ c, rest.head? = some c → isOctal c = false

end Escape

/-! ### Numerals -/

theorem char_le_iff {a b : Char} : a ≤ b ↔ a.toNat ≤ b.toNat := by
  rw [Char.le_def, UInt32.le_iff_toNat_le]
  rfl

theorem hexDigit?_lt {c : Char} {d : Nat} (h : Text.hexDigit? c = some d) : d < 16 := by
  simp only [Text.hexDigit?, char_le_iff, Char.reduceToNat] at h
  split_ifs at h <;> cases h <;> omega

theorem isDigit_eight_iff {c : Char} {d : Nat} :
    IsDigit 8 c d ↔ Escape.isOctal c = true ∧ d = c.toNat - '0'.toNat := by
  simp only [IsDigit, Text.hexDigit?, Escape.isOctal, char_le_iff, Char.reduceToNat,
    Bool.and_eq_true, decide_eq_true_eq]
  constructor
  · rintro ⟨h, hd⟩
    split_ifs at h <;> cases h <;> omega
  · rintro ⟨h, rfl⟩
    rw [if_pos ⟨h.1, by omega⟩]
    exact ⟨rfl, by omega⟩

/-- Digits read from the left make the number that they are the numeral of. -/
theorem ofDigits_reverse (base : Nat) (ds : List Nat) :
    Nat.ofDigits base ds.reverse = ds.foldl (fun v d => base * v + d) 0 := by
  rw [Nat.ofDigits_eq_foldr, List.foldr_reverse]
  simp only [Nat.cast_id, Nat.add_comm]

theorem foldl_hexDigit?_none (s : Text) :
    s.foldl (fun v c => v.bind fun v => (Text.hexDigit? c).map (16 * v + ·)) none =
      none := by
  induction s with
  | nil => rfl
  | cons c s ih => exact ih

theorem foldl_hexDigit?_eq_some_iff {s : Text} {a n : Nat} :
    s.foldl (fun v c => v.bind fun v => (Text.hexDigit? c).map (16 * v + ·)) (some a) =
        some n ↔
      ∃ ds, List.Forall₂ (IsDigit 16) s ds ∧ n = ds.foldl (fun v d => 16 * v + d) a := by
  induction s generalizing a with
  | nil => simp [eq_comm]
  | cons c s ih =>
    rw [List.foldl_cons, Option.bind_some]
    cases hc : Text.hexDigit? c with
    | none =>
      rw [Option.map_none, foldl_hexDigit?_none]
      constructor
      · intro h
        cases h
      · rintro ⟨_, h, -⟩
        cases h with
        | cons hd _ => rw [IsDigit, hc] at hd; cases hd.1
    | some d =>
      rw [Option.map_some, ih]
      constructor
      · rintro ⟨ds, h, rfl⟩
        exact ⟨d :: ds, .cons ⟨hc, hexDigit?_lt hc⟩ h, rfl⟩
      · rintro ⟨_, h, rfl⟩
        cases h with
        | @cons _ d' _ ds hd h =>
          rw [IsDigit, hc] at hd
          cases hd.1
          exact ⟨ds, h, rfl⟩

theorem hexValue?_eq_some_iff {s : Text} {n : Nat} :
    Text.hexValue? s = some n ↔ s ≠ [] ∧ IsNumeral 16 s n := by
  unfold Text.hexValue? IsNumeral
  simp only [ofDigits_reverse]
  split
  · next h => simp [List.isEmpty_iff.mp h]
  · next h =>
    rw [foldl_hexDigit?_eq_some_iff, List.isEmpty_iff] at *
    exact ⟨fun hn => ⟨h, hn⟩, fun hn => hn.2⟩

theorem forall₂_isDigit_eight_iff {s : Text} {ds : List Nat} :
    List.Forall₂ (IsDigit 8) s ds ↔
      (∀ c ∈ s, Escape.isOctal c = true) ∧ ds = s.map fun c => c.toNat - '0'.toNat := by
  induction s generalizing ds with
  | nil => simp
  | cons c s ih =>
    constructor
    · intro h
      cases h with
      | cons hd h =>
        obtain ⟨hs, rfl⟩ := ih.mp h
        obtain ⟨hc, rfl⟩ := isDigit_eight_iff.mp hd
        exact ⟨List.forall_mem_cons.mpr ⟨hc, hs⟩, rfl⟩
    · rintro ⟨h, rfl⟩
      obtain ⟨hc, hs⟩ := List.forall_mem_cons.mp h
      exact .cons (isDigit_eight_iff.mpr ⟨hc, rfl⟩) (ih.mpr ⟨hs, rfl⟩)

/-- The number that a text of octal digits is the numeral of. -/
theorem isNumeral_eight_iff {s : Text} {n : Nat} :
    IsNumeral 8 s n ↔ (∀ c ∈ s, Escape.isOctal c = true) ∧
      n = s.foldl (fun v c => 8 * v + (c.toNat - '0'.toNat)) 0 := by
  simp only [IsNumeral, forall₂_isDigit_eight_iff, ofDigits_reverse]
  constructor
  · rintro ⟨_, ⟨h, rfl⟩, rfl⟩
    exact ⟨h, List.foldl_map⟩
  · rintro ⟨h, rfl⟩
    exact ⟨_, ⟨h, rfl⟩, List.foldl_map.symm⟩

/-- A number is less than the base to the power of how many digits it is written with. -/
theorem IsNumeral.lt_pow {base : Nat} {s : Text} {n : Nat} (hbase : 1 < base)
    (h : IsNumeral base s n) : n < base ^ s.length := by
  obtain ⟨ds, hds, rfl⟩ := h
  have hlt : ∀ d ∈ ds, d < base := by
    induction hds with
    | nil => simp
    | cons hd _ ih => exact List.forall_mem_cons.mpr ⟨hd.2, ih⟩
  rw [hds.length_eq, ← List.length_reverse]
  exact Nat.ofDigits_lt_base_pow_length hbase fun d hd => hlt d (List.mem_reverse.mp hd)

/-! ### Reading one escape -/

namespace Escape

theorem scalar?_eq_some_iff {n : Nat} {c : Char} : scalar? n = some c ↔ c.toNat = n := by
  constructor
  · intro h
    unfold scalar? at h
    split at h
    · next hv =>
      cases h
      have hlt : n < 2 ^ 32 := by rcases hv with h | ⟨_, h⟩ <;> omega
      exact UInt32.toNat_ofNat'.trans (Nat.mod_eq_of_lt hlt)
    · cases h
  · rintro rfl
    exact scalar?_toNat c

theorem simple?_eq_some_iff {c v : Char} : simple? c = some v ↔ (c, v) ∈ controls := by
  constructor
  · intro h
    unfold simple? at h
    split at h <;> cases h <;> decide
  · intro h
    simp only [controls, List.mem_cons, Prod.mk.injEq, List.not_mem_nil, or_false] at h
    rcases h with ⟨rfl, rfl⟩ | ⟨rfl, rfl⟩ | ⟨rfl, rfl⟩ | ⟨rfl, rfl⟩ | ⟨rfl, rfl⟩ | ⟨rfl, rfl⟩ |
      ⟨rfl, rfl⟩ | ⟨rfl, rfl⟩ | ⟨rfl, rfl⟩ | ⟨rfl, rfl⟩ <;> rfl

theorem hex?_eq_some_iff {count : Nat} (hcount : 0 < count) {s : Text} {e : Escape} :
    hex? count s = some e ↔
      ∃ digits rest v, s = digits ++ rest ∧ digits.length = count ∧
        IsNumeral 16 digits v.toNat ∧ e = ⟨[v], count + 1⟩ := by
  unfold hex?
  constructor
  · intro h
    simp only at h
    split at h
    · next hlen =>
      simp only [Option.bind_eq_bind, Option.bind_eq_some_iff, hexValue?_eq_some_iff,
        scalar?_eq_some_iff, Option.some.injEq] at h
      obtain ⟨code, ⟨-, hcode⟩, v, rfl, rfl⟩ := h
      exact ⟨s.take count, s.drop count, v, (List.take_append_drop ..).symm, hlen, hcode, rfl⟩
    · cases h
  · rintro ⟨digits, rest, v, rfl, rfl, hv, rfl⟩
    have hne : digits ≠ [] := List.ne_nil_of_length_pos hcount
    simp [hexValue?_eq_some_iff.mpr ⟨hne, hv⟩, scalar?_toNat]

/-- A name ends at the first closing brace. -/
theorem named?_eq_some_iff {s : Text} {e : Escape} :
    named? names s = some e ↔
      ∃ name rest v, s = '\x7b' :: (name ++ '\x7d' :: rest) ∧ '\x7d' ∉ name ∧
        names name = some v ∧ e = ⟨[v], name.length + 3⟩ := by
  constructor
  · intro h
    unfold named? at h
    split at h
    · next s =>
      simp only at h
      split at h
      · next hlt =>
        obtain ⟨v, hv, rfl⟩ := Option.map_eq_some_iff.mp h
        have hsplit := List.takeWhile_append_dropWhile (p := fun c => c != '\x7d') (l := s)
        cases hrest : s.dropWhile fun c => c != '\x7d' with
        | nil =>
          rw [hrest, List.append_nil] at hsplit
          rw [hsplit] at hlt
          exact absurd hlt (Nat.lt_irrefl _)
        | cons c rest =>
          have hc := List.head?_dropWhile_not (fun c => c != '\x7d') s
          rw [hrest, List.head?_cons] at hc
          have hc' : c = '\x7d' := by simpa using hc
          rw [hrest, hc'] at hsplit
          refine ⟨_, rest, v, congrArg _ hsplit.symm, fun hmem => ?_, hv, rfl⟩
          have := List.mem_takeWhile_imp hmem
          simp at this
      · cases h
    · cases h
  · rintro ⟨name, rest, v, rfl, hname, hv, rfl⟩
    have htake : (name ++ '\x7d' :: rest).takeWhile (fun c => c != '\x7d') = name := by
      refine Text.takeWhile_append_of_head? (fun c hc => ?_) (fun c hc => ?_)
      · exact bne_iff_ne.mpr fun he => hname (he ▸ hc)
      · cases hc
        rfl
    simp only [named?, htake, hv]
    simp

/-- The octal digits among the first three characters fit before what follows them. -/
theorem fits_takeWhile (s : Text) :
    Fits ((s.take 3).takeWhile isOctal) ((s.take 3).dropWhile isOctal ++ s.drop 3) := by
  intro _ hlt c hc
  have hsplit := List.takeWhile_append_dropWhile (p := isOctal) (l := s.take 3)
  cases hrest : (s.take 3).dropWhile isOctal with
  | nil =>
    rw [hrest, List.append_nil] at hsplit
    rw [hsplit, List.length_take] at hlt
    have hshort : s.length ≤ 3 := by omega
    rw [hrest, List.drop_eq_nil_of_le hshort] at hc
    cases hc
  | cons d rest =>
    have hd := List.head?_dropWhile_not isOctal (s.take 3)
    rw [hrest] at hc hd
    cases hc
    simpa using hd

/-- A run of octal digits always is a code. -/
theorem octal?_ne_none {c : Char} (hc : isOctal c = true) (s : Text) :
    octal? (c :: s) ≠ none := by
  have hdigits : ((c :: s).take 3).takeWhile isOctal = c :: (s.take 2).takeWhile isOctal := by
    rw [List.take_succ_cons, List.takeWhile_cons_of_pos hc]
  have hoctal : ∀ d ∈ c :: (s.take 2).takeWhile isOctal, isOctal d = true := by
    intro d hd
    rw [← hdigits] at hd
    exact List.mem_takeWhile_imp hd
  have hlen : (c :: (s.take 2).takeWhile isOctal).length ≤ 3 := by
    rw [← hdigits]
    exact (List.takeWhile_prefix _).length_le.trans (List.length_take_le ..)
  have hlt := (isNumeral_eight_iff.mpr ⟨hoctal, rfl⟩).lt_pow (by decide)
  have hpow : 8 ^ (c :: (s.take 2).takeWhile isOctal).length ≤ 8 ^ 3 :=
    Nat.pow_le_pow_right (by decide) hlen
  simp only [octal?, hdigits, List.isEmpty_cons, Bool.false_eq_true, if_false, ne_eq,
    Option.map_eq_none_iff]
  rw [scalar?, dif_pos (Or.inl (by omega))]
  exact Option.some_ne_none _

/-- The octal digits of a code are all those that come, up to three. -/
theorem octal?_eq_some_iff {s : Text} {e : Escape} :
    octal? s = some e ↔
      ∃ digits rest v, s = digits ++ rest ∧ digits ≠ [] ∧ digits.length ≤ 3 ∧
        IsNumeral 8 digits v.toNat ∧ Fits digits rest ∧ e = ⟨[v], digits.length⟩ := by
  unfold octal?
  simp only [List.isEmpty_iff]
  constructor
  · intro h
    split at h
    · cases h
    · next hne =>
      obtain ⟨v, hv, rfl⟩ := Option.map_eq_some_iff.mp h
      rw [scalar?_eq_some_iff] at hv
      have hoctal : ∀ c ∈ (s.take 3).takeWhile isOctal, isOctal c = true := fun c hc =>
        List.mem_takeWhile_imp hc
      have hlen : ((s.take 3).takeWhile isOctal).length ≤ 3 :=
        (List.takeWhile_prefix _).length_le.trans (List.length_take_le ..)
      refine ⟨_, (s.take 3).dropWhile isOctal ++ s.drop 3, v, ?_, hne, hlen,
        isNumeral_eight_iff.mpr ⟨hoctal, hv⟩, ?_, rfl⟩
      · rw [← List.append_assoc, List.takeWhile_append_dropWhile, List.take_append_drop]
      · exact fits_takeWhile s
  · rintro ⟨digits, rest, v, rfl, hne, hlen, hv, hfits, rfl⟩
    obtain ⟨hoctal, hv⟩ := isNumeral_eight_iff.mp hv
    have htake : ((digits ++ rest).take 3).takeWhile isOctal = digits := by
      rw [List.take_append, List.take_of_length_le hlen]
      refine Text.takeWhile_append_of_head? hoctal fun c hc => ?_
      rw [List.head?_take, Option.mem_def] at hc
      split at hc
      · cases hc
      · exact hfits hoctal (by omega) c hc
    rw [htake, if_neg hne, ← hv, scalar?_toNat]
    rfl

theorem fits_of_not_isOctal {w rest : Text} {c : Char} (hc : c ∈ w) (h : isOctal c = false) :
    Fits w rest := by
  intro hall
  rw [hall c hc] at h
  cases h

/-- An octal digit stands for nothing else after a backslash. -/
theorem read?_of_isOctal {c : Char} (h : isOctal c = true) (s : Text) :
    read? names (c :: s) = octal? (c :: s) := by
  have hne {d : Char} (hd : isOctal d = false) : c ≠ d := by
    rintro rfl
    rw [h] at hd
    cases hd
  have hsimple : simple? c = none := by
    cases hs : simple? c with
    | none => rfl
    | some v =>
      have hcontrols : ∀ p ∈ controls, isOctal p.1 = false := by decide
      exact absurd rfl (hne (hcontrols _ (simple?_eq_some_iff.mp hs)))
  rw [read?, if_neg (hne (by decide)), hsimple]
  simp only
  rw [if_neg (hne (by decide)), if_neg (hne (by decide)), if_neg (hne (by decide)),
    if_neg (hne (by decide))]

theorem read?_control {c v : Char} (h : (c, v) ∈ controls) (s : Text) :
    read? names (c :: s) = some ⟨[v], 1⟩ := by
  have hline : ∀ p ∈ controls, p.1 ≠ '\n' := by decide
  rw [read?, if_neg (hline _ h), simple?_eq_some_iff.mpr h]

theorem read?_code {letter : Char} {count : Nat} (h : (letter, count) ∈ codes) (s : Text) :
    read? names (letter :: s) = hex? count s := by
  simp only [codes, List.mem_cons, Prod.mk.injEq, List.not_mem_nil, or_false] at h
  rcases h with ⟨rfl, rfl⟩ | ⟨rfl, rfl⟩ | ⟨rfl, rfl⟩ <;> rfl

theorem read?_name (s : Text) : read? names ('N' :: s) = named? names s := rfl

/-- What follows a backslash is read as the escape that it begins with. -/
theorem read?_append {w v rest : Text} (h : Spells names w v) (hf : Fits w rest) :
    read? names (w ++ rest) = some ⟨v, w.length⟩ := by
  cases h with
  | lineEnd => rfl
  | control hv => exact read?_control hv rest
  | @octal digits v hne hlen hv =>
    obtain ⟨c, s, rfl⟩ := List.exists_cons_of_ne_nil hne
    have hc := (isNumeral_eight_iff.mp hv).1 c (List.mem_cons_self ..)
    rw [List.cons_append, read?_of_isOctal hc, octal?_eq_some_iff]
    exact ⟨c :: s, rest, v, rfl, hne, hlen, hv, hf, rfl⟩
  | @hex letter digits v hl hv =>
    have hpos : ∀ p ∈ codes, 0 < p.2 := by decide
    rw [List.cons_append, read?_code hl, hex?_eq_some_iff (hpos _ hl)]
    exact ⟨digits, rest, v, rfl, rfl, hv, rfl⟩
  | @named name v hname hv =>
    rw [List.cons_append, read?_name, named?_eq_some_iff]
    refine ⟨name, rest, v, ?_, hname, hv, ?_⟩
    · rw [List.cons_append, List.append_assoc, List.singleton_append]
    · rw [List.length_cons, List.length_cons, List.length_append, List.length_singleton]

theorem exists_spells_of_hex? {letter : Char} {count : Nat} (hl : (letter, count) ∈ codes)
    {s : Text} {e : Escape} (h : hex? count s = some e) :
    ∃ w rest, letter :: s = w ++ rest ∧ Spells names w e.value ∧ Fits w rest ∧
      e.size = w.length := by
  have hcodes : ∀ p ∈ codes, 0 < p.2 ∧ isOctal p.1 = false := by decide
  obtain ⟨hpos, hletter⟩ := hcodes _ hl
  obtain ⟨digits, rest, v, rfl, rfl, hv, rfl⟩ := (hex?_eq_some_iff hpos).mp h
  exact ⟨letter :: digits, rest, rfl, .hex hl hv,
    fits_of_not_isOctal (List.mem_cons_self ..) hletter, rfl⟩

/-- What is read after a backslash is an escape that it begins with. -/
theorem exists_spells_of_read? {s : Text} {e : Escape} (h : read? names s = some e) :
    ∃ w rest, s = w ++ rest ∧ Spells names w e.value ∧ Fits w rest ∧ e.size = w.length := by
  cases s with
  | nil => cases h
  | cons c s =>
    rw [read?] at h
    split at h
    · next hc =>
      cases h
      exact ⟨['\n'], s, congrArg (· :: s) hc, .lineEnd,
        fits_of_not_isOctal (List.mem_singleton_self _) rfl, rfl⟩
    · split at h
      · next v hv =>
        cases h
        have hcontrols : ∀ p ∈ controls, isOctal p.1 = false := by decide
        rw [simple?_eq_some_iff] at hv
        exact ⟨[c], s, rfl, .control hv,
          fits_of_not_isOctal (List.mem_singleton_self _) (hcontrols _ hv), rfl⟩
      · split_ifs at h with hx hu hU hN
        · exact hx ▸ exists_spells_of_hex? (by decide) h
        · exact hu ▸ exists_spells_of_hex? (by decide) h
        · exact hU ▸ exists_spells_of_hex? (by decide) h
        · obtain ⟨name, rest, v, rfl, hname, hv, rfl⟩ := named?_eq_some_iff.mp h
          refine ⟨'N' :: '\x7b' :: (name ++ ['\x7d']), rest, ?_, .named hname hv,
            fits_of_not_isOctal (List.mem_cons_self ..) rfl, ?_⟩
          · rw [hN, List.cons_append, List.cons_append, List.append_assoc, List.singleton_append]
          · rw [List.length_cons, List.length_cons, List.length_append, List.length_singleton]
        · obtain ⟨digits, rest, v, hs, hne, hlen, hv, hf, rfl⟩ := octal?_eq_some_iff.mp h
          exact ⟨digits, rest, hs, .octal hne hlen hv, hf, rfl⟩

theorem Spells.ne_nil {w v : Text} (h : Spells names w v) : w ≠ [] := by
  cases h with
  | octal hne => exact hne
  | lineEnd | control | hex | named => exact List.cons_ne_nil _ _

/-- Where an escape begins, one is read, even if more octal digits make it another one. -/
theorem read?_ne_none {w v : Text} (h : Spells names w v) (rest : Text) :
    read? names (w ++ rest) ≠ none := by
  by_cases hf : Fits w rest
  · rw [read?_append h hf]
    exact Option.some_ne_none _
  · unfold Fits at hf
    push Not at hf
    obtain ⟨c, s, rfl⟩ := List.exists_cons_of_ne_nil h.ne_nil
    have hc := hf.1 c (List.mem_cons_self ..)
    rw [List.cons_append, read?_of_isOctal hc]
    exact octal?_ne_none hc _

end Escape

/-! ### Items -/

/-- A piece of the body of a literal. -/
structure Item where
  /-- How it is written. -/
  spelling : Text
  /-- What it stands for. -/
  value : Text

/-- Whether a body begins with an item, when what follows the item is given. -/
inductive Item.Precedes (names : CharacterNames) : Item → Text → Prop where
  /-- A character other than a backslash stands for itself. -/
  | plain {c : Char} {rest : Text} : c ≠ '\\' → Precedes names ⟨[c], [c]⟩ rest
  /-- A backslash and the rest of an escape. -/
  | escape {w v rest : Text} : Escape.Spells names w v → Escape.Fits w rest →
      Precedes names ⟨'\\' :: w, v⟩ rest
  /-- A backslash with which no escape begins stands for itself alone. -/
  | backslash {rest : Text} : (∀ w v t, Escape.Spells names w v → rest ≠ w ++ t) →
      Precedes names ⟨['\\'], ['\\']⟩ rest

/-- Whether a body falls into the given items, one after another. -/
inductive Items (names : CharacterNames) : List Item → Text → Prop where
  /-- The empty body has no items. -/
  | nil : Items names [] []
  /-- An item and the items of what follows it. -/
  | cons {i : Item} {is : List Item} {rest : Text} : i.Precedes names rest → Items names is rest →
      Items names (i :: is) (i.spelling ++ rest)

theorem read?_eq_none_iff {s : Text} :
    Escape.read? names s = none ↔ ∀ w v t, Escape.Spells names w v → s ≠ w ++ t := by
  constructor
  · rintro h w v t hw rfl
    exact Escape.read?_ne_none hw t h
  · intro h
    cases he : Escape.read? names s with
    | none => rfl
    | some e =>
      obtain ⟨w, rest, hs, hw, -, -⟩ := Escape.exists_spells_of_read? he
      exact absurd hs (h w e.value rest hw)

theorem unescape_lone {s : Text} (h : Escape.read? names s = none) :
    unescape names ('\\' :: s) = '\\' :: unescape names s := by
  rw [unescape, if_pos rfl, h]

/-- Decoding one item leaves the rest to be decoded. -/
theorem Item.Precedes.unescape_append {i : Item} {rest : Text} (h : i.Precedes names rest) :
    unescape names (i.spelling ++ rest) = i.value ++ unescape names rest := by
  cases h with
  | plain hc => exact unescape_cons hc rest
  | escape hw hf => exact unescape_backslash (Escape.read?_append hw hf)
  | backslash h => exact unescape_lone (read?_eq_none_iff.mpr h)

theorem Items.unescape_eq {is : List Item} {s : Text} (h : Items names is s) :
    unescape names s = is.flatMap Item.value := by
  induction h with
  | nil => rw [unescape, List.flatMap_nil]
  | cons hi _ ih => rw [hi.unescape_append, ih, List.flatMap_cons]

/-- Some item stands at the front of every body that is not empty. -/
theorem exists_precedes (c : Char) (s : Text) :
    ∃ (i : Item) (rest : Text), i.Precedes names rest ∧ c :: s = i.spelling ++ rest ∧
      rest.length ≤ s.length := by
  by_cases hc : c = '\\'
  · cases he : Escape.read? names s with
    | none =>
      have hlone := Item.Precedes.backslash (read?_eq_none_iff.mp he)
      exact ⟨_, s, hlone, congrArg (· :: s) hc, Nat.le_refl _⟩
    | some e =>
      obtain ⟨w, rest, rfl, hw, hf, -⟩ := Escape.exists_spells_of_read? he
      refine ⟨_, rest, .escape hw hf, congrArg (· :: (w ++ rest)) hc, ?_⟩
      rw [List.length_append]
      omega
  · exact ⟨_, s, .plain hc, rfl, Nat.le_refl _⟩

theorem exists_items (s : Text) : ∃ is, Items names is s := by
  cases s with
  | nil => exact ⟨[], .nil⟩
  | cons c s =>
    obtain ⟨i, rest, hi, hs, hlen⟩ := exists_precedes c s
    obtain ⟨is, his⟩ := exists_items rest
    rw [hs]
    exact ⟨i :: is, .cons hi his⟩
termination_by s.length
decreasing_by
  rw [List.length_cons]
  omega

theorem Item.Precedes.spelling_ne_nil {i : Item} {rest : Text} (h : i.Precedes names rest) :
    i.spelling ≠ [] := by
  cases h <;> exact List.cons_ne_nil _ _

/-- The item at the front of a body is determined by the body. -/
theorem Item.Precedes.unique {i j : Item} {rest rest' : Text} (hi : i.Precedes names rest)
    (hj : j.Precedes names rest') (h : i.spelling ++ rest = j.spelling ++ rest') : i = j := by
  cases hi with
  | plain hc =>
    cases hj with
    | plain _ =>
      cases List.head_eq_of_cons_eq h
      rfl
    | escape _ _ | backslash _ => exact absurd (List.head_eq_of_cons_eq h) hc
  | @escape w v _ hw hf =>
    cases hj with
    | plain hc => exact absurd (List.head_eq_of_cons_eq h).symm hc
    | @escape w' v' _ hw' hf' =>
      have hbody : w ++ rest = w' ++ rest' := List.tail_eq_of_cons_eq h
      have hread := Escape.read?_append hw hf
      rw [hbody, Escape.read?_append hw' hf'] at hread
      have he := Option.some.inj hread
      have hlen : w'.length = w.length := congrArg Escape.size he
      have hv : v' = v := congrArg Escape.value he
      rw [(List.append_inj hbody hlen.symm).1, hv]
    | backslash hnone => exact absurd (List.tail_eq_of_cons_eq h).symm (hnone w v rest hw)
  | backslash hnone =>
    cases hj with
    | plain hc => exact absurd (List.head_eq_of_cons_eq h).symm hc
    | @escape w v _ hw _ => exact absurd (List.tail_eq_of_cons_eq h) (hnone w v rest' hw)
    | backslash _ => rfl

theorem Items.eq_nil {is : List Item} (h : Items names is []) : is = [] := by
  generalize hs : ([] : Text) = s at h
  cases h with
  | nil => rfl
  | cons hi _ => exact absurd (List.append_eq_nil_iff.mp hs.symm).1 hi.spelling_ne_nil

theorem Items.unique {is js : List Item} {s : Text} (h : Items names is s) (h' : Items names js s) :
    is = js := by
  induction h generalizing js with
  | nil => exact h'.eq_nil.symm
  | @cons i is rest hi _ ih =>
    generalize hs : i.spelling ++ rest = s at h'
    cases h' with
    | nil => exact absurd (List.append_eq_nil_iff.mp hs).1 hi.spelling_ne_nil
    | cons hj his =>
      cases hi.unique hj hs
      rw [List.append_cancel_left hs] at ih
      rw [ih his]

/-! ### Spelling a text -/

/-- Whether the texts beside some characters spell them, each in a way of its own: as they are, or
by an escape that what is spelled after it does not prolong. -/
inductive Spelled (names : CharacterNames) : List (Char × Text) → Prop where
  /-- Nothing is spelled. -/
  | nil : Spelled names []
  /-- A character other than a backslash may stand for itself. -/
  | plain {c : Char} {rest : List (Char × Text)} : c ≠ '\\' → Spelled names rest →
      Spelled names ((c, [c]) :: rest)
  /-- A character may be written as an escape. -/
  | escape {c : Char} {w : Text} {rest : List (Char × Text)} : Escape.Spells names w [c] →
      Escape.Fits w (rest.flatMap Prod.snd) → Spelled names rest →
      Spelled names ((c, '\\' :: w) :: rest)

theorem Spelled.items {spelled : List (Char × Text)} (h : Spelled names spelled) :
    Items names (spelled.map fun p => ⟨p.2, [p.1]⟩) (spelled.flatMap Prod.snd) := by
  induction h with
  | nil => exact .nil
  | plain hc _ ih => exact .cons (.plain hc) ih
  | escape hw hf _ ih => exact .cons (.escape hw hf) ih

/-- Every body falls into items in exactly one way, and it is decoded to what they stand for. So a
text is decoded to itself, however its characters are spelled. -/
theorem unescape_reads_items (names : CharacterNames) (raw : Text) :
    (∃! is, Items names is raw) ∧
      (∀ is, Items names is raw → unescape names raw = is.flatMap Item.value) ∧
      ∀ spelled, Spelled names spelled →
        unescape names (spelled.flatMap Prod.snd) = spelled.map Prod.fst := by
  refine ⟨?_, fun is h => h.unescape_eq, fun spelled h => ?_⟩
  · obtain ⟨is, his⟩ := exists_items raw
    exact ⟨is, his, fun js hjs => hjs.unique his⟩
  · rw [h.items.unescape_eq, List.flatMap_map, List.map_eq_flatMap]

/-- Three octal digits end a code before a fourth one, a backslash before `q` stands for itself,
and letters, hexadecimal codes and names are read beside them. -/
theorem unescape_reads_items_mixed :
    let names := CharacterName.lookup?
    let raw := "\\1234\\q".toList
    let is : List Item :=
      [⟨"\\123".toList, ['S']⟩, ⟨['4'], ['4']⟩, ⟨['\\'], ['\\']⟩, ⟨['q'], ['q']⟩]
    let spelled := [('S', "\\123".toList), ('4', ['4']), ('\\', "\\\\".toList),
      ('é', "\\xe9".toList), ('一', "\\N\x7bCJK Unified Ideograph-4E00\x7d".toList)]
    Items names is raw ∧ unescape names raw = "S4\\q".toList ∧ Spelled names spelled ∧
      unescape names (spelled.flatMap Prod.snd) = "S4\\é一".toList := by
  intro names raw is spelled
  have hvalue : IsNumeral 8 "123".toList 'S'.toNat :=
    isNumeral_eight_iff.mpr ⟨List.all_eq_true.mp (by decide), rfl⟩
  have hcode : Escape.Spells names "123".toList ['S'] := .octal (by decide) (by decide) hvalue
  have hfits (rest : Text) : Escape.Fits "123".toList rest := fun _ hlt => absurd hlt (by decide)
  have hletter : Escape.Spells names "xe9".toList ['é'] :=
    .hex (by decide) (hexValue?_eq_some_iff.mp (by decide +kernel)).2
  have hname : Escape.Spells names "N\x7bCJK Unified Ideograph-4E00\x7d".toList ['一'] := by
    have hlookup : CharacterName.lookup? "CJK Unified Ideograph-4E00".toList = some '一' := by
      decide +kernel
    exact .named (by decide +kernel) hlookup
  have his : Items names is raw :=
    .cons (.escape hcode (hfits _)) <| .cons (.plain (by decide)) <|
      .cons (.backslash (read?_eq_none_iff.mp (by cbv))) <| .cons (.plain (by decide)) .nil
  have hspelled : Spelled names spelled :=
    .escape hcode (hfits _) <| .plain (by decide) <|
      .escape (.control (by decide)) (Escape.fits_of_not_isOctal (List.mem_singleton_self _) rfl) <|
      .escape hletter (Escape.fits_of_not_isOctal (List.mem_cons_self ..) rfl) <|
      .escape hname (Escape.fits_of_not_isOctal (List.mem_cons_self ..) rfl) .nil
  exact ⟨his, (unescape_reads_items names raw).2.1 is his, hspelled,
    (unescape_reads_items names raw).2.2 spelled hspelled⟩

end CodeAtlas.Docstring
