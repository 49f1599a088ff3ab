import CodeAtlas.Heading
import CodeAtlas.Proofs.Text.LineEnds
import CodeAtlas.Proofs.Text.Splitting
import Mathlib

/-!
# Which lines are headings

`Heading.HeldBy` says when a line holds a heading: as many `#` as its level, then a text that
begins with white space and is not blank. The headings of a text are those that its lines hold,
each once and in the order of the lines. Conversely, headings written on their lines of an
otherwise empty page are the headings of the page (`all_exact`).
-/

namespace CodeAtlas

namespace Heading

/-! ### One line -/

/-- Whether a line holds a heading, whatever the line that the heading names. -/
structure HeldBy (l : Text) (h : Heading) : Prop where
  /-- There is a `#`. -/
  level_pos : 1 ≤ h.level
  /-- There is some text. -/
  text_ne_nil : h.text ≠ []
  /-- After as many `#` as the level comes white space, and the text once that is trimmed. -/
  exists_rest : ∃ rest, l = List.replicate h.level '#' ++ rest ∧
    (∃ c ∈ rest.head?, isBlank c = true) ∧ Text.trim rest = h.text

theorem not_isBlank_hash : isBlank '#' = false := by decide

/-- A text that begins with white space does not go on with `#`, so the `#` before it are all
that there are. -/
theorem HeldBy.ofLine?_eq {l : Text} {h : Heading} (hl : HeldBy l h) :
    ofLine? h.line l = some h := by
  obtain ⟨hpos, htext, rest, rfl, ⟨c, hc, hblank⟩, htrim⟩ := hl
  obtain ⟨rest, rfl⟩ : ∃ t, rest = c :: t := by
    cases rest with
    | nil => cases hc
    | cons d t => exact ⟨t, by rw [Option.some.inj hc]⟩
  have hstop : ∀ d ∈ (c :: rest).head?, d ≠ '#' := by
    rintro d ⟨⟩ hd
    rw [hd, not_isBlank_hash] at hblank
    cases hblank
  have hlevel : h.level ≠ 0 := by omega
  simp only [ofLine?, Text.takeWhile_run hstop, Text.dropWhile_run hstop, List.length_replicate,
    if_neg hlevel, if_pos hblank, htrim, List.isEmpty_iff, if_neg htext]

theorem heldBy_of_ofLine? {n : Nat} {l : Text} {h : Heading} (hl : ofLine? n l = some h) :
    h.line = n ∧ HeldBy l h := by
  have hsplit := Text.run_append_dropWhile '#' l
  simp only [ofLine?] at hl
  split at hl
  · cases hl
  · next hlevel =>
    split at hl
    · cases hl
    · next c rest hrest =>
      split_ifs at hl with hblank htext
      cases hl
      refine ⟨rfl, Nat.pos_of_ne_zero hlevel, by simpa using htext, _, ?_, ⟨c, ?_, hblank⟩, rfl⟩
      · exact hsplit.symm
      · rw [hrest]
        rfl

theorem ofLine?_eq_some_iff {n : Nat} {l : Text} {h : Heading} :
    ofLine? n l = some h ↔ h.line = n ∧ HeldBy l h := by
  constructor
  · exact heldBy_of_ofLine?
  · rintro ⟨rfl, hl⟩
    exact hl.ofLine?_eq

/-! ### All lines -/

theorem ofLines_eq_filterMap (n : Nat) (ls : List Text) :
    ofLines n ls = (ls.zipIdx n).filterMap fun p => ofLine? p.2 p.1 := by
  induction ls generalizing n with
  | nil => rfl
  | cons l ls ih =>
    rw [ofLines, List.zipIdx_cons, List.filterMap_cons, ih]
    cases ofLine? n l <;> rfl

theorem mem_ofLines_iff {n : Nat} {ls : List Text} {h : Heading} :
    h ∈ ofLines n ls ↔ n ≤ h.line ∧ ∃ l ∈ ls[h.line - n]?, HeldBy l h := by
  simp only [ofLines_eq_filterMap, List.mem_filterMap, ofLine?_eq_some_iff, Prod.exists]
  constructor
  · rintro ⟨l, i, hmem, rfl, hl⟩
    obtain ⟨hle, hget⟩ := List.mk_mem_zipIdx_iff_le_and_getElem?_sub.mp hmem
    exact ⟨hle, l, hget, hl⟩
  · rintro ⟨hle, l, hget, hl⟩
    exact ⟨l, h.line, List.mk_mem_zipIdx_iff_le_and_getElem?_sub.mpr ⟨hle, hget⟩, rfl, hl⟩

theorem pairwise_ofLines (n : Nat) (ls : List Text) :
    (ofLines n ls).Pairwise fun h k => h.line < k.line := by
  have hlines : ((ls.zipIdx n).map Prod.snd).Pairwise (· < ·) := by
    rw [List.zipIdx_map_snd]
    exact List.pairwise_lt_range'
  rw [ofLines_eq_filterMap, List.pairwise_filterMap]
  refine (List.pairwise_map.mp hlines).imp fun hlt h hh k hk => ?_
  rw [(ofLine?_eq_some_iff.mp hh).1, (ofLine?_eq_some_iff.mp hk).1]
  exact hlt

/-- The lines of a text, which line feeds, carriage returns and pairs of both end. -/
def lines (content : Text) : List Text := Text.lines (Text.unifyLineEnds content)

/-- The headings of a text name their lines, counted from 1, and these hold them. -/
theorem mem_all_iff {content : Text} {h : Heading} :
    h ∈ all content ↔ 1 ≤ h.line ∧ ∃ l ∈ (lines content)[h.line - 1]?, HeldBy l h := by
  rw [all, Text.normalizeNewlines_eq]
  exact mem_ofLines_iff

/-! ### Pages -/

/-- A heading as it is written on its line. -/
def written (h : Heading) : Text := List.replicate h.level '#' ++ ' ' :: h.text

/-- What is written on a line of a page with the given headings, and nothing elsewhere. -/
def lineOf (hs : List Heading) (line : Nat) : Text :=
  ((hs.find? fun h => h.line = line).map written).getD []

/-- A page with the given number of lines and the given headings. -/
def page (count : Nat) (hs : List Heading) : Text :=
  Text.unlines ((List.range' 1 count).map (lineOf hs))

/-- Whether a heading can be written on one line of a page. -/
structure Fits (count : Nat) (h : Heading) : Prop where
  /-- It has a `#`. -/
  level_pos : 1 ≤ h.level
  /-- It has some text. -/
  text_ne_nil : h.text ≠ []
  /-- Its text has no white space at its ends. -/
  trimmed : Text.trim h.text = h.text
  /-- Its text ends no line. -/
  oneLine : '\n' ∉ h.text ∧ '\r' ∉ h.text
  /-- The line is one of the page. -/
  onPage : 1 ≤ h.line ∧ h.line ≤ count

theorem heldBy_written {count : Nat} {h : Heading} (hh : h.Fits count) :
    HeldBy (written h) h := by
  have htrim : Text.trim (' ' :: h.text) = Text.trim h.text := rfl
  exact ⟨hh.level_pos, hh.text_ne_nil, _, rfl, ⟨' ', rfl, rfl⟩, htrim.trans hh.trimmed⟩

theorem HeldBy.ne_nil {l : Text} {h : Heading} (hl : HeldBy l h) : l ≠ [] := by
  obtain ⟨hpos, -, rest, rfl, -⟩ := hl
  obtain ⟨level, hlevel⟩ := Nat.exists_eq_add_of_lt hpos
  rw [hlevel]
  exact List.cons_ne_nil _ _

/-- One line holds one heading. -/
theorem HeldBy.unique {l : Text} {h k : Heading} (hl : HeldBy l h) (kl : HeldBy l k)
    (hline : h.line = k.line) : h = k := by
  have hread := hl.ofLine?_eq
  rw [hline, kl.ofLine?_eq] at hread
  exact (Option.some.inj hread).symm

theorem lineOf_of_mem {hs : List Heading} (horder : hs.Pairwise fun h k => h.line < k.line)
    {h : Heading} (hh : h ∈ hs) : lineOf hs h.line = written h := by
  cases hfind : hs.find? fun k => k.line = h.line with
  | none =>
    have hne := List.find?_eq_none.mp hfind h hh
    exact absurd (decide_eq_true rfl) hne
  | some k =>
    have hline : k.line = h.line := by simpa using List.find?_some hfind
    have hnodup : (hs.map Heading.line).Nodup := List.pairwise_map.mpr (horder.imp Nat.ne_of_lt)
    have hk : k = h :=
      List.inj_on_of_nodup_map hnodup (List.mem_of_find?_eq_some hfind) hh hline
    rw [lineOf, hfind, hk]
    rfl

section Page

variable {count : Nat} {hs : List Heading} (hfit : ∀ h ∈ hs, h.Fits count)

include hfit

theorem not_mem_lineOf (line : Nat) : '\n' ∉ lineOf hs line ∧ '\r' ∉ lineOf hs line := by
  unfold lineOf
  cases hfind : hs.find? fun h => h.line = line with
  | none => exact ⟨List.not_mem_nil, List.not_mem_nil⟩
  | some h =>
    have hh := (hfit h (List.mem_of_find?_eq_some hfind)).oneLine
    simp [written, hh]

/-- The lines of a page are those that it was made of. -/
theorem lines_page (hcount : count ≠ 0) :
    lines (page count hs) = (List.range' 1 count).map (lineOf hs) := by
  have hne : (List.range' 1 count).map (lineOf hs) ≠ [] := by simpa using hcount
  have hline : ∀ l ∈ (List.range' 1 count).map (lineOf hs), '\n' ∉ l ∧ '\r' ∉ l := by
    intro l hl
    obtain ⟨i, -, rfl⟩ := List.mem_map.mp hl
    exact not_mem_lineOf hfit i
  have hreturn : '\r' ∉ page count hs := by
    intro hr
    obtain ⟨l, hl, hmem⟩ := Text.exists_mem_of_mem_unlines hr (by decide)
    exact (hline l hl).2 hmem
  rw [lines, ← Text.normalizeNewlines_eq, Text.normalizeNewlines_eq_self hreturn]
  exact Text.splitAt_join hne fun l hl => (hline l hl).1

/-- A line of a page holds a heading just when that was written there. -/
theorem heldBy_lineOf_iff (horder : hs.Pairwise fun h k => h.line < k.line) {h : Heading} :
    HeldBy (lineOf hs h.line) h ↔ h ∈ hs := by
  constructor
  · intro hl
    cases hfind : hs.find? fun k => k.line = h.line with
    | none =>
      have hnil : lineOf hs h.line = [] := by
        rw [lineOf, hfind]
        rfl
      exact absurd hnil hl.ne_nil
    | some k =>
      have hk := List.mem_of_find?_eq_some hfind
      have hline : k.line = h.line := by simpa using List.find?_some hfind
      rw [← hline, lineOf_of_mem horder hk] at hl
      rwa [hl.unique (heldBy_written (hfit k hk)) hline.symm]
  · intro hh
    rw [lineOf_of_mem horder hh]
    exact heldBy_written (hfit h hh)

/-- The headings of a page are those written on it. -/
theorem mem_all_page_iff (horder : hs.Pairwise fun h k => h.line < k.line) {h : Heading} :
    h ∈ all (page count hs) ↔ h ∈ hs := by
  rcases Nat.eq_zero_or_pos count with rfl | hcount
  · have hnil : hs = [] := List.eq_nil_iff_forall_not_mem.mpr fun k hk => by
      have := (hfit k hk).onPage
      omega
    have hall : all (page 0 hs) = [] := rfl
    rw [hall, hnil]
  · rw [mem_all_iff, lines_page hfit (Nat.ne_of_gt hcount)]
    constructor
    · rintro ⟨hpos, l, hl, hheld⟩
      rw [List.getElem?_map] at hl
      obtain ⟨i, hi, rfl⟩ := Option.map_eq_some_iff.mp hl
      obtain ⟨hlt, hget⟩ := List.getElem?_eq_some_iff.mp hi
      rw [List.getElem_range'] at hget
      have hline : i = h.line := by omega
      rw [hline] at hheld
      exact (heldBy_lineOf_iff hfit horder).mp hheld
    · intro hh
      obtain ⟨hpos, hle⟩ := (hfit h hh).onPage
      have hline : 1 + 1 * (h.line - 1) = h.line := by omega
      refine ⟨hpos, lineOf hs h.line, ?_, (heldBy_lineOf_iff hfit horder).mpr hh⟩
      rw [List.getElem?_map, List.getElem?_range' (by omega), hline]
      rfl

end Page

/-- The headings of a text are those that its lines hold, each once and in the order of the lines.
Conversely, headings on lines of their own of an otherwise empty page are found there again. -/
theorem all_exact :
    (∀ content, (all content).Pairwise (fun h k => h.line < k.line) ∧
      ∀ h, h ∈ all content ↔ 1 ≤ h.line ∧ ∃ l ∈ (lines content)[h.line - 1]?, HeldBy l h) ∧
    ∀ (count : Nat) (hs : List Heading), hs.Pairwise (fun h k => h.line < k.line) →
      (∀ h ∈ hs, h.Fits count) → all (page count hs) = hs := by
  refine ⟨fun content => ⟨pairwise_ofLines 1 _, fun h => mem_all_iff⟩, ?_⟩
  intro count hs horder hfit
  have hlt : Std.Antisymm fun h k : Heading => h.line < k.line :=
    ⟨fun h k hhk hkh => absurd hhk (Nat.lt_asymm hkh)⟩
  have hirrefl : Std.Irrefl fun h k : Heading => h.line < k.line := ⟨fun h => Nat.lt_irrefl _⟩
  exact (pairwise_ofLines 1 _).eq_of_mem_iff horder fun h => mem_all_page_iff hfit horder

/-- White space of any kind ends the `#`, a lone carriage return ends a line, and a line with more
`#` than one and a text that begins with one is found where it was written. -/
theorem all_exact_mixed :
    let content := "#\u3000x \r\r\n##y\n## \n".toList
    let hs : List Heading := [⟨1, "#a".toList, 2⟩, ⟨7, "b c".toList, 4⟩]
    (⟨1, ['x'], 1⟩ ∈ all content ∧ HeldBy "#\u3000x ".toList ⟨1, ['x'], 1⟩) ∧
      hs.Pairwise (fun h k => h.line < k.line) ∧ (∀ h ∈ hs, h.Fits 5) ∧
      page 5 hs = "\n# #a\n\n####### b c\n".toList ∧ all (page 5 hs) = hs := by
  intro content hs
  have hheld : HeldBy "#\u3000x ".toList ⟨1, ['x'], 1⟩ :=
    ⟨by decide, by decide, "\u3000x ".toList, rfl, ⟨'\u3000', rfl, by decide⟩, by decide⟩
  have horder : hs.Pairwise fun h k => h.line < k.line := by simp [hs]
  have hfit : ∀ h ∈ hs, h.Fits 5 := by
    intro h hh
    rcases List.mem_pair.mp hh with rfl | rfl
    · exact ⟨by decide, by decide, by decide, by decide, by decide⟩
    · exact ⟨by decide, by decide, by decide, by decide, by decide⟩
  refine ⟨⟨?_, hheld⟩, horder, hfit, by decide +kernel, all_exact.2 5 hs horder hfit⟩
  exact ((all_exact.1 content).2 _).mpr ⟨by decide, _, by decide +kernel, hheld⟩

end Heading

end CodeAtlas
