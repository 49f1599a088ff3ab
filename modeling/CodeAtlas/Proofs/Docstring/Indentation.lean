import CodeAtlas.Proofs.Docstring.Cleaning

/-!
# How far lines move left

A margin is counted in bytes, and how many characters of a line it takes depends on the line
(`shift`). So two lines keep their indentation relative to each other just when both shifts are the
same, as they are where each character in front has one byte (`relative_indentation_clean`). Lines
that are indented alike, but by characters of different sizes, come apart
(`clean_moves_aligned_lines_apart`).
-/

namespace CodeAtlas.Docstring

open Text (byteSize allBlank trimStart)

variable {m : Nat} {l k : Text}

/-- How many characters of white space a line begins with. -/
def indentWidth (l : Text) : Nat := (l.takeWhile isBlank).length

/-- How many characters a margin of so many bytes takes off a line: as many as have just these
bytes, and all white space in front if that is impossible. -/
def shift (m : Nat) (l : Text) : Nat :=
  ((List.range (indentWidth l + 1)).find? fun n => byteSize (l.take n) = m).getD (indentWidth l)

theorem indentWidth_append {indent : Text} (h : allBlank indent = true) (l : Text) :
    indentWidth (indent ++ l) = indent.length + indentWidth l := by
  rw [allBlank, List.all_eq_true] at h
  rw [indentWidth, List.takeWhile_append_of_pos h, List.length_append, indentWidth]

theorem indentWidth_trimStart (l : Text) : indentWidth (trimStart l) = 0 := by
  unfold indentWidth trimStart
  induction l with
  | nil => rfl
  | cons c l ih =>
    by_cases hc : isBlank c = true
    · rw [List.dropWhile_cons_of_pos hc, ih]
    · rw [List.dropWhile_cons_of_neg hc, List.takeWhile_cons_of_neg hc, List.length_nil]

/-- No other number of characters has these bytes. -/
theorem shift_of_eq {n : Nat} (hn : n ≤ indentWidth l) (h : byteSize (l.take n) = m) :
    shift m l = n := by
  have hwidth : indentWidth l ≤ l.length := (List.takeWhile_prefix isBlank).length_le
  cases hfind : (List.range (indentWidth l + 1)).find? fun n => byteSize (l.take n) = m with
  | none =>
    have hne := List.find?_eq_none.mp hfind n (List.mem_range.mpr (by omega))
    exact absurd (decide_eq_true h) hne
  | some k =>
    have hk : byteSize (l.take k) = m := by simpa using List.find?_some hfind
    have hlt : k < indentWidth l + 1 := List.mem_range.mp (List.mem_of_find?_eq_some hfind)
    have htake : l.take k = l.take n :=
      Text.eq_of_byteSize_eq (List.take_prefix k l) (List.take_prefix n l) (hk.trans h.symm)
    have hlength := congrArg List.length htake
    rw [List.length_take, List.length_take] at hlength
    rw [shift, hfind, Option.getD_some]
    omega

theorem shift_of_ne (h : ∀ p, p <+: l → byteSize p ≠ m) : shift m l = indentWidth l := by
  have hnone :
      ((List.range (indentWidth l + 1)).find? fun n => byteSize (l.take n) = m) = none := by
    rw [List.find?_eq_none]
    intro n _ hn
    exact h _ (List.take_prefix n l) (of_decide_eq_true hn)
  rw [shift, hnone, Option.getD_none]

/-- A line moves left by its shift. -/
theorem MovesLeft.indentWidth_eq (h : MovesLeft m l k) :
    indentWidth l = shift m l + indentWidth k := by
  cases h with
  | @cut indent k hb hm =>
    have hwidth := indentWidth_append hb k
    have hshift : shift m (indent ++ k) = indent.length := by
      refine shift_of_eq (by omega) ?_
      rw [List.take_left, hm]
    omega
  | whole hno =>
    rw [shift_of_ne hno, indentWidth_trimStart, Nat.add_zero]

/-- Where each character in front has one byte, a line moves left by as many characters as the
margin has bytes. -/
theorem shift_eq_self (hone : ∀ c ∈ l.takeWhile isBlank, c.utf8Size = 1)
    (h : m ≤ indentBytes l) : shift m l = m := by
  refine shift_of_eq ?_ (byteSize_take hone h)
  rw [indentBytes_eq_length hone] at h
  exact h

/-! ### Lines of a docstring -/

/-- Whether a line after the first holds some text. -/
structure IsTextLine (s : Text) (i : Nat) (l : Text) : Prop where
  /-- It is not the first line. -/
  pos : 1 ≤ i
  /-- It is this line of the text. -/
  getElem?_eq : (Text.lines s)[i]? = some l
  /-- It is not all white space. -/
  not_allBlank : allBlank l ≠ true

/-- What stands between empty lines and is not empty stands among the others. -/
theorem getElem?_of_ne_nil {before kept after : List Text} {i : Nat}
    (hbefore : ∀ l ∈ before, l = []) (hafter : ∀ l ∈ after, l = [])
    (h : (before ++ (kept ++ after))[i]? = some l) (hl : l ≠ []) :
    before.length ≤ i ∧ kept[i - before.length]? = some l := by
  rcases Nat.lt_or_ge i before.length with hlt | hge
  · rw [List.getElem?_append_left hlt] at h
    exact absurd (hbefore l (List.mem_of_getElem? h)) hl
  · rw [List.getElem?_append_right hge] at h
    rcases Nat.lt_or_ge (i - before.length) kept.length with hlt | hge'
    · rw [List.getElem?_append_left hlt] at h
      exact ⟨hge, h⟩
    · rw [List.getElem?_append_right hge'] at h
      exact absurd (hafter l (List.mem_of_getElem? h)) hl

/-- A line after the first that holds text loses the margin. -/
theorem IsTextLine.getElem?_cleanedLines {doc : Text} {i : Nat}
    (h : IsTextLine (Text.expandFrom 8 0 doc) i l) :
    ∃ m, margin? (expandedLines doc).tail = some m ∧ m ≤ indentBytes l ∧
      (cleanedLines doc)[i]? = some (dedent m l) := by
  obtain ⟨hpos, hget, hb⟩ := h
  obtain ⟨i, rfl⟩ : ∃ j, i = j + 1 := ⟨i - 1, by omega⟩
  rw [cleanedLines, expandedLines]
  cases hlines : Text.lines (Text.expandFrom 8 0 doc) with
  | nil => simp [hlines] at hget
  | cons first rest =>
    rw [hlines, List.getElem?_cons_succ] at hget
    have hmem : l ∈ rest := List.mem_of_getElem? hget
    obtain ⟨m, hm⟩ := Option.ne_none_iff_exists'.mp (margin?_ne_none hmem hb)
    refine ⟨m, hm, margin?_le hm hmem hb, ?_⟩
    rw [dedentAll, hm, List.getElem?_cons_succ, List.getElem?_map, hget, Option.map_some]

/-- Such a line is still there in the cleaned docstring, so many lines up as are dropped at the
start. -/
theorem exists_dropped (doc : Text) :
    ∃ dropped, ∀ i l, IsTextLine (Text.expandFrom 8 0 doc) i l →
      ∃ m, margin? (expandedLines doc).tail = some m ∧ m ≤ indentBytes l ∧ dropped ≤ i ∧
        (Text.lines (clean doc))[i - dropped]? = some (dedent m l) ∧
        MovesLeft m l (dedent m l) := by
  obtain ⟨before, after, hall, hbefore, hafter⟩ := exists_dropEmptyEnds (cleanedLines doc)
  refine ⟨before.length, fun i l hl => ?_⟩
  obtain ⟨m, hm, hle, hget⟩ := hl.getElem?_cleanedLines
  have hmoves : MovesLeft m l (dedent m l) := movesLeft_dedent (.inr hle)
  have hne : dedent m l ≠ [] := by
    intro hnil
    obtain ⟨indent, hb, hindent⟩ := hmoves.losesBlank
    rw [hnil, List.append_nil] at hindent
    exact hl.not_allBlank (hindent ▸ hb)
  rw [hall] at hget
  obtain ⟨hle', hkept⟩ := getElem?_of_ne_nil hbefore hafter hget hne
  have hkeeps : dropEmptyEnds (cleanedLines doc) ≠ [] := by
    intro hnil
    rw [hnil] at hkept
    cases hkept
  refine ⟨m, hm, hle, hle', ?_, hmoves⟩
  rw [lines_clean hkeeps, hkept]

/-- Two lines after the first that hold text keep their indentation relative to each other just when
the margin takes as many characters off both, and so they do where each character in front of them
has one byte. -/
theorem relative_indentation_clean (doc : Text) :
    ∃ expanded dropped, Text.expandTabs doc 8 = .ok expanded ∧
      ∀ i j k l, IsTextLine expanded i k → IsTextLine expanded j l →
        ∃ m k' l', margin? (Text.lines expanded).tail = some m ∧ dropped ≤ i ∧ dropped ≤ j ∧
          (Text.lines (clean doc))[i - dropped]? = some k' ∧
          (Text.lines (clean doc))[j - dropped]? = some l' ∧
          MovesLeft m k k' ∧ MovesLeft m l l' ∧
          ((indentWidth k' : Int) - indentWidth l' = indentWidth k - indentWidth l ↔
            shift m k = shift m l) ∧
          ((∀ c ∈ k.takeWhile isBlank ++ l.takeWhile isBlank, c.utf8Size = 1) →
            (indentWidth k' : Int) - indentWidth l' = indentWidth k - indentWidth l) := by
  obtain ⟨dropped, hdropped⟩ := exists_dropped doc
  refine ⟨Text.expandFrom 8 0 doc, dropped, Text.expandTabs_eq_ok (by decide) doc, ?_⟩
  intro i j k l hk hl
  obtain ⟨m, hm, hmk, hi, hgetk, hmovesk⟩ := hdropped i k hk
  obtain ⟨m', hm', hml, hj, hgetl, hmovesl⟩ := hdropped j l hl
  obtain rfl : m = m' := Option.some.inj (hm.symm.trans hm')
  have hwidthk := hmovesk.indentWidth_eq
  have hwidthl := hmovesl.indentWidth_eq
  have hkept : (indentWidth (dedent m k) : Int) - indentWidth (dedent m l) =
      indentWidth k - indentWidth l ↔ shift m k = shift m l := by omega
  refine ⟨m, dedent m k, dedent m l, hm, hi, hj, hgetk, hgetl, hmovesk, hmovesl, hkept, ?_⟩
  intro hone
  obtain ⟨honek, honel⟩ := List.forall_mem_append.mp hone
  rw [hkept, shift_eq_self honek hmk, shift_eq_self honel hml]

/-- The margin is two bytes. It takes both spaces off the second line, and the tab moves with it; of
the last line, which is indented by as many characters as the second, it takes one. -/
theorem relative_indentation_clean_tab :
    let doc := "\n  a\n\tb\n\u00a0\u00a0c".toList
    let expanded := "\n  a\n        b\n\u00a0\u00a0c".toList
    Text.expandTabs doc 8 = .ok expanded ∧
      IsTextLine expanded 1 "  a".toList ∧ IsTextLine expanded 2 "        b".toList ∧
      Text.lines (clean doc) = ["a".toList, "      b".toList, "\u00a0c".toList] ∧
      ∃ dropped k l, (Text.lines (clean doc))[1 - dropped]? = some k ∧
        (Text.lines (clean doc))[2 - dropped]? = some l ∧
        (indentWidth k : Int) - indentWidth l = 2 - 8 := by
  intro doc expanded
  have hexpand : Text.expandTabs doc 8 = .ok expanded := by decide +kernel
  have hk : IsTextLine expanded 1 "  a".toList := ⟨by decide, by decide +kernel, by decide +kernel⟩
  have hl : IsTextLine expanded 2 "        b".toList :=
    ⟨by decide, by decide +kernel, by decide +kernel⟩
  refine ⟨hexpand, hk, hl, by decide +kernel, ?_⟩
  obtain ⟨e, dropped, he, hlines⟩ := relative_indentation_clean doc
  obtain rfl : e = expanded := Except.ok.inj (he.symm.trans hexpand)
  obtain ⟨m, k, l, -, -, -, hgetk, hgetl, -, -, -, hone⟩ := hlines 1 2 _ _ hk hl
  have hspaces : ("  a".toList.takeWhile isBlank ++ "        b".toList.takeWhile isBlank).all
      (fun c => c.utf8Size = 1) = true := by decide +kernel
  refine ⟨dropped, k, l, hgetk, hgetl, (hone fun c hc => ?_).trans (by decide +kernel)⟩
  exact of_decide_eq_true (List.all_eq_true.mp hspaces c hc)

/-- Two lines are indented by two characters each, and the second by characters of two bytes. The
margin of two bytes takes all of the one indentation and half of the other. -/
theorem clean_moves_aligned_lines_apart :
    let doc := "h\n  a\n\u00a0\u00a0b".toList
    Text.expandTabs doc 8 = .ok doc ∧
      IsTextLine doc 1 "  a".toList ∧ IsTextLine doc 2 "\u00a0\u00a0b".toList ∧
      indentWidth "  a".toList = 2 ∧ indentWidth "\u00a0\u00a0b".toList = 2 ∧
      Text.lines (clean doc) = ["h".toList, "a".toList, "\u00a0b".toList] ∧
      indentWidth "a".toList = 0 ∧ indentWidth "\u00a0b".toList = 1 := by
  refine ⟨by decide +kernel, ⟨by decide, by decide +kernel, by decide +kernel⟩,
    ⟨by decide, by decide +kernel, by decide +kernel⟩, ?_⟩
  decide +kernel

end CodeAtlas.Docstring
