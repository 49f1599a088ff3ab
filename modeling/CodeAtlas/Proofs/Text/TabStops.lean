import CodeAtlas.Proofs.Text.Tabs
import Mathlib.Data.Nat.Basic

/-!
# Texts with their tabs expanded

`Expands` says what it is to expand the tabs of a text, character by character and by the text that
has come out so far: a tab becomes spaces that end at a stop, and any other character stays. There
is at most one such text (`Expands.unique`), and expanding tabs gives it wherever there is one
(`expandTabs_eq_ok_iff`); where there is none, the text has a tab and the tab size is zero.
-/

namespace CodeAtlas.Text

variable {size : Nat} {s t : Text}

/-! ### Columns -/

/-- How many characters there are after the last line feed. -/
def column (s : Text) : Nat := (s.reverse.takeWhile (· != '\n')).length

theorem column_concat_feed (s : Text) : column (s ++ ['\n']) = 0 := by
  rw [column, List.reverse_concat, List.takeWhile_cons_of_neg (by decide), List.length_nil]

theorem column_concat {c : Char} (hc : c ≠ '\n') (s : Text) :
    column (s ++ [c]) = column s + 1 := by
  rw [column, List.reverse_concat, List.takeWhile_cons_of_pos (by simpa using hc),
    List.length_cons, column]

theorem column_append_spaces (s : Text) (n : Nat) :
    column (s ++ List.replicate n ' ') = column s + n := by
  induction n with
  | zero => rw [List.replicate_zero, List.append_nil, Nat.add_zero]
  | succ n ih =>
    rw [List.replicate_succ', ← List.append_assoc, column_concat (by decide), ih, Nat.add_assoc]

/-- From any column there is one number of spaces, at least one and at most `size`, that lead to a
stop. -/
theorem dvd_column_add_iff {column n : Nat} (hpos : 0 < n) (hn : n ≤ size) :
    size ∣ column + n ↔ n = size - column % size := by
  have hsize : 0 < size := Nat.lt_of_lt_of_le hpos hn
  have hlt : column % size < size := Nat.mod_lt _ hsize
  constructor
  · intro h
    have hdvd : size ∣ column % size + n := by
      rw [Nat.dvd_iff_mod_eq_zero, Nat.mod_add_mod, ← Nat.dvd_iff_mod_eq_zero]
      exact h
    have hstop : column % size + n = size :=
      Nat.eq_of_dvd_of_lt_two_mul (by omega) hdvd (by omega)
    omega
  · rintro rfl
    exact Nat.dvd_of_mod_eq_zero (stop_mod hsize column)

/-! ### What it is to expand tabs -/

/-- The second text is the first one with its tabs expanded, where stops are at the multiples of
`size` columns. -/
inductive Expands (size : Nat) : Text → Text → Prop where
  /-- The empty text stays. -/
  | nil : Expands size [] []
  /-- A character that is no tab stays behind what comes before it. -/
  | keep {s t : Text} {c : Char} (h : Expands size s t) (hc : c ≠ '\t') :
      Expands size (s ++ [c]) (t ++ [c])
  /-- A tab becomes between one and `size` spaces, and they end at a stop. -/
  | fill {s t : Text} {n : Nat} (h : Expands size s t) (hpos : 0 < n) (hn : n ≤ size)
      (hstop : size ∣ column (t ++ List.replicate n ' ')) :
      Expands size (s ++ ['\t']) (t ++ List.replicate n ' ')

namespace Expands

theorem nil_iff : Expands size [] t ↔ t = [] := by
  constructor
  · intro h
    generalize hs : ([] : Text) = s at h
    cases h with
    | nil => rfl
    | keep h hc => simp at hs
    | fill h hpos hn hstop => simp at hs
  · rintro rfl
    exact nil

theorem concat_iff {c : Char} (hc : c ≠ '\t') :
    Expands size (s ++ [c]) t ↔ ∃ u, Expands size s u ∧ t = u ++ [c] := by
  constructor
  · intro h
    generalize hs : s ++ [c] = s' at h
    cases h with
    | nil => simp at hs
    | keep h _ =>
      obtain ⟨rfl, rfl⟩ := List.append_singleton_inj.mp hs
      exact ⟨_, h, rfl⟩
    | fill h hpos hn hstop => exact absurd (List.append_singleton_inj.mp hs).2 hc
  · rintro ⟨u, hu, rfl⟩
    exact keep hu hc

/-- How many spaces a tab becomes is fixed by the column that has come out before it. -/
theorem concat_tab_iff :
    Expands size (s ++ ['\t']) t ↔
      ∃ u, Expands size s u ∧ 0 < size ∧
        t = u ++ List.replicate (size - column u % size) ' ' := by
  constructor
  · intro h
    generalize hs : s ++ ['\t'] = s' at h
    cases h with
    | nil => simp at hs
    | keep h hc => exact absurd (List.append_singleton_inj.mp hs).2.symm hc
    | fill h hpos hn hstop =>
      obtain ⟨rfl, -⟩ := List.append_singleton_inj.mp hs
      rw [column_append_spaces, dvd_column_add_iff hpos hn] at hstop
      exact ⟨_, h, Nat.lt_of_lt_of_le hpos hn, by rw [← hstop]⟩
  · rintro ⟨u, hu, hsize, rfl⟩
    have hlt : column u % size < size := Nat.mod_lt _ hsize
    refine fill hu (by omega) (Nat.sub_le ..) ?_
    rw [column_append_spaces]
    exact Nat.dvd_of_mod_eq_zero (stop_mod hsize _)

/-- A text has at most one expansion. -/
theorem unique {u : Text} (h : Expands size s t) (hu : Expands size s u) : t = u := by
  induction h generalizing u with
  | nil => exact (nil_iff.mp hu).symm
  | keep h hc ih =>
    obtain ⟨v, hv, rfl⟩ := (concat_iff hc).mp hu
    rw [ih hv]
  | fill h hpos hn hstop ih =>
    obtain ⟨v, hv, -, rfl⟩ := concat_tab_iff.mp hu
    rw [column_append_spaces, dvd_column_add_iff hpos hn] at hstop
    rw [← ih hv, ← hstop]

/-- A text with a tab has an expansion only where there are stops. -/
theorem stops (h : Expands size s t) : '\t' ∈ s → 0 < size := by
  induction h with
  | nil => nofun
  | keep h hc ih =>
    intro ht
    rcases List.mem_append.mp ht with ht | ht
    · exact ih ht
    · exact absurd (List.mem_singleton.mp ht).symm hc
  | fill h hpos hn hstop ih => exact fun _ => Nat.lt_of_lt_of_le hpos hn

/-- What comes next is expanded from the column that has come out so far. -/
theorem append_expandFrom {s' : Text} (h : Expands size s t) (hstops : '\t' ∈ s' → 0 < size) :
    Expands size (s ++ s') (t ++ expandFrom size (column t) s') := by
  induction s' generalizing s t with
  | nil =>
    rw [expandFrom, List.append_nil, List.append_nil]
    exact h
  | cons c s' ih =>
    have hstops' : '\t' ∈ s' → 0 < size := fun ht => hstops (List.mem_cons_of_mem c ht)
    rw [List.append_cons]
    by_cases hc : c = '\t'
    · subst hc
      have hsize : 0 < size := hstops (List.mem_cons_self ..)
      rw [expandFrom_tab, ← column_append_spaces, ← List.append_assoc]
      exact ih (concat_tab_iff.mpr ⟨t, h, hsize, rfl⟩) hstops'
    · by_cases hn : c = '\n'
      · subst hn
        rw [expandFrom_feed, ← column_concat_feed t, List.append_cons t]
        exact ih (h.keep hc) hstops'
      · rw [expandFrom_cons hc hn, ← column_concat hn, List.append_cons t]
        exact ih (h.keep hc) hstops'

end Expands

/-! ### Expanding tabs -/

theorem expandTabs_eq_expandFrom (hstops : '\t' ∈ s → 0 < size) :
    expandTabs s size = .ok (expandFrom size 0 s) := by
  by_cases ht : '\t' ∈ s
  · exact expandTabs_eq_ok (hstops ht) s
  · rw [expandTabs, if_neg (has_iff.not.mpr ht), expandFrom_eq_self ht]

theorem expandTabs_eq_error (hstops : ¬('\t' ∈ s → 0 < size)) :
    expandTabs s size = .error .noStops := by
  rw [Classical.not_imp] at hstops
  rw [expandTabs, if_pos (has_iff.mpr hstops.1), if_pos (Nat.eq_zero_of_not_pos hstops.2)]

/-- The result of expanding tabs is the expansion of the text. -/
theorem expandTabs_eq_ok_iff : expandTabs s size = .ok t ↔ Expands size s t := by
  by_cases hstops : '\t' ∈ s → 0 < size
  · have hexpands : Expands size s (expandFrom size 0 s) :=
      Expands.nil.append_expandFrom hstops
    rw [expandTabs_eq_expandFrom hstops, Except.ok.injEq]
    constructor
    · rintro rfl
      exact hexpands
    · exact hexpands.unique
  · rw [expandTabs_eq_error hstops]
    exact ⟨nofun, fun h => absurd h.stops hstops⟩

theorem expandTabs_eq_error_iff :
    expandTabs s size = .error .noStops ↔ size = 0 ∧ '\t' ∈ s := by
  by_cases hstops : '\t' ∈ s → 0 < size
  · rw [expandTabs_eq_expandFrom hstops]
    refine ⟨nofun, ?_⟩
    rintro ⟨rfl, ht⟩
    exact absurd (hstops ht) (Nat.lt_irrefl 0)
  · rw [expandTabs_eq_error hstops]
    rw [Classical.not_imp] at hstops
    exact ⟨fun _ => ⟨Nat.eq_zero_of_not_pos hstops.2, hstops.1⟩, fun _ => rfl⟩

/-- A line feed cuts a text into two that are expanded by themselves. -/
theorem expandTabs_append_feed (size : Nat) (s t : Text) :
    expandTabs (s ++ '\n' :: t) size = do
      let s' ← expandTabs s size
      let t' ← expandTabs t size
      return s' ++ '\n' :: t' := by
  have htab : '\t' ∈ s ++ '\n' :: t ↔ '\t' ∈ s ∨ '\t' ∈ t := by simp
  by_cases hs : '\t' ∈ s → 0 < size
  · rw [expandTabs_eq_expandFrom hs]
    by_cases ht : '\t' ∈ t → 0 < size
    · rw [expandTabs_eq_expandFrom ht,
        expandTabs_eq_expandFrom fun h => (htab.mp h).elim hs ht, expandFrom_append_feed]
      rfl
    · rw [expandTabs_eq_error ht, expandTabs_eq_error fun h => ht fun hm => h (htab.mpr (.inr hm))]
      rfl
  · rw [expandTabs_eq_error hs, expandTabs_eq_error fun h => hs fun hm => h (htab.mpr (.inl hm))]
    rfl

/-- Expanding tabs gives the one text in which every tab is replaced by spaces up to a stop, and has
a result unless there are no stops and a tab. The result has no tab, so expanding it again changes
nothing, and each line is expanded by itself. -/
theorem expandTabs_exact (size : Nat) (s : Text) :
    (∀ t, expandTabs s size = .ok t ↔ Expands size s t) ∧
      (0 < size → ∃ t, expandTabs s size = .ok t) ∧
      (expandTabs s size = .error .noStops ↔ size = 0 ∧ '\t' ∈ s) ∧
      (∀ t, expandTabs s size = .ok t → '\t' ∉ t ∧ expandTabs t size = .ok t) ∧
      ∀ a b, expandTabs (a ++ '\n' :: b) size = do
        let a' ← expandTabs a size
        let b' ← expandTabs b size
        return a' ++ '\n' :: b' := by
  refine ⟨fun t => expandTabs_eq_ok_iff, fun hsize => ⟨_, expandTabs_eq_ok hsize s⟩,
    expandTabs_eq_error_iff, fun t ht => ?_, expandTabs_append_feed size⟩
  have hstops : '\t' ∈ s → 0 < size := (expandTabs_eq_ok_iff.mp ht).stops
  rw [expandTabs_eq_expandFrom hstops] at ht
  obtain rfl := Except.ok.inj ht
  have hnone : '\t' ∉ expandFrom size 0 s := tab_not_mem_expandFrom
  refine ⟨hnone, ?_⟩
  rw [expandTabs_eq_expandFrom fun h => absurd h hnone, expandFrom_eq_self hnone]

/-- The tab in the first line becomes two spaces, and those in the second four and three. -/
theorem expandTabs_exact_two_lines :
    let s := "ab\tc\n\tx\ty".toList
    let t := "ab  c\n    x   y".toList
    0 < 4 ∧ expandTabs s 4 = .ok t ∧ Expands 4 s t ∧ '\t' ∉ t ∧ expandTabs t 4 = .ok t := by
  intro s t
  have hok : expandTabs s 4 = .ok t := by decide
  obtain ⟨hexpands, -, -, hagain, -⟩ := expandTabs_exact 4 s
  exact ⟨by decide, hok, (hexpands t).mp hok, hagain t hok⟩

end CodeAtlas.Text
