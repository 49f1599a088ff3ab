import CodeAtlas.Text.Tab
import CodeAtlas.Proofs.Text.Splitting

/-!
# Tabs, line by line

Expanding tabs puts spaces for tabs and keeps every other character (`filter_expandFrom`). A line
feed sets the column back, so each line is expanded by itself (`expandFrom_unlines`). Within a line
the text between two tabs is filled up to the next stop (`expandFrom_eq_fillUp`).
-/

namespace CodeAtlas.Text

variable {size column : Nat} {s t : Text}

/-! ### One character -/

theorem expandFrom_tab (size column : Nat) (s : Text) :
    expandFrom size column ('\t' :: s) = List.replicate (size - column % size) ' ' ++
      expandFrom size (column + (size - column % size)) s := by
  rw [expandFrom, if_pos rfl]

theorem expandFrom_feed (size column : Nat) (s : Text) :
    expandFrom size column ('\n' :: s) = '\n' :: expandFrom size 0 s := by
  rw [expandFrom, if_neg (by decide), if_pos rfl]

theorem expandFrom_cons {c : Char} (ht : c ≠ '\t') (hn : c ≠ '\n') (s : Text) :
    expandFrom size column (c :: s) = c :: expandFrom size (column + 1) s := by
  rw [expandFrom, if_neg ht, if_neg hn]

/-! ### What is kept -/

/-- Characters other than tabs and spaces stay, in their order. -/
theorem filter_expandFrom {p : Char → Bool} (ht : p '\t' = false) (hs : p ' ' = false) :
    (expandFrom size column s).filter p = s.filter p := by
  induction s generalizing column with
  | nil => rfl
  | cons c s ih =>
    by_cases hc : c = '\t'
    · subst hc
      have hpad : (List.replicate (size - column % size) ' ').filter p = [] := by
        simp [hs]
      rw [expandFrom_tab, List.filter_append, hpad, ih, List.nil_append,
        List.filter_cons_of_neg (by simp [ht])]
    · by_cases hn : c = '\n'
      · subst hn
        simp only [expandFrom_feed, List.filter_cons, ih]
      · simp only [expandFrom_cons hc hn, List.filter_cons, ih]

theorem mem_expandFrom_iff {c : Char} (ht : c ≠ '\t') (hs : c ≠ ' ') :
    c ∈ expandFrom size column s ↔ c ∈ s := by
  have hfilter : (expandFrom size column s).filter (· == c) = s.filter (· == c) :=
    filter_expandFrom (beq_false_of_ne ht.symm) (beq_false_of_ne hs.symm)
  have hmem (t : Text) : c ∈ t ↔ c ∈ t.filter (· == c) := by simp
  rw [hmem, hfilter, ← hmem]

theorem tab_not_mem_expandFrom : '\t' ∉ expandFrom size column s := by
  induction s generalizing column with
  | nil => exact List.not_mem_nil
  | cons c s ih =>
    by_cases hc : c = '\t'
    · subst hc
      rw [expandFrom_tab, List.mem_append, not_or]
      exact ⟨fun h => absurd (List.eq_of_mem_replicate h) (by decide), ih⟩
    · by_cases hn : c = '\n'
      · subst hn
        rw [expandFrom_feed, List.mem_cons, not_or]
        exact ⟨by decide, ih⟩
      · rw [expandFrom_cons hc hn, List.mem_cons, not_or]
        exact ⟨Ne.symm hc, ih⟩

/-- Expanding tabs brings in nothing but spaces. -/
theorem mem_of_mem_expandFrom {c : Char} (h : c ∈ expandFrom size column s) : c = ' ' ∨ c ∈ s := by
  by_cases hs : c = ' '
  · exact .inl hs
  · have ht : c ≠ '\t' := by
      rintro rfl
      exact tab_not_mem_expandFrom h
    exact .inr ((mem_expandFrom_iff ht hs).mp h)

theorem expandFrom_eq_self (h : '\t' ∉ s) : expandFrom size column s = s := by
  induction s generalizing column with
  | nil => rfl
  | cons c s ih =>
    rw [List.mem_cons, not_or] at h
    by_cases hn : c = '\n'
    · subst hn
      rw [expandFrom_feed, ih h.2]
    · rw [expandFrom_cons (Ne.symm h.1) hn, ih h.2]

/-- With tab stops there is always a result. -/
theorem expandTabs_eq_ok (h : 0 < size) (s : Text) :
    expandTabs s size = .ok (expandFrom size 0 s) := by
  unfold expandTabs
  by_cases ht : s.has '\t' = true
  · rw [if_pos ht, if_neg (Nat.ne_of_gt h)]
  · have hmem : '\t' ∉ s := fun hm => ht (has_iff.mpr hm)
    rw [if_neg ht, expandFrom_eq_self hmem]

/-! ### Lines -/

theorem expandFrom_append_feed (s t : Text) :
    expandFrom size column (s ++ '\n' :: t) =
      expandFrom size column s ++ '\n' :: expandFrom size 0 t := by
  induction s generalizing column with
  | nil => exact expandFrom_feed size column t
  | cons c s ih =>
    by_cases hc : c = '\t'
    · subst hc
      rw [List.cons_append, expandFrom_tab, expandFrom_tab, ih, List.append_assoc]
    · by_cases hn : c = '\n'
      · subst hn
        rw [List.cons_append, expandFrom_feed, expandFrom_feed, ih, List.cons_append]
      · rw [List.cons_append, expandFrom_cons hc hn, expandFrom_cons hc hn, ih, List.cons_append]

theorem expandFrom_unlines (ls : List Text) :
    expandFrom size 0 (unlines ls) = unlines (ls.map (expandFrom size 0)) := by
  induction ls with
  | nil => rfl
  | cons l ls ih =>
    cases ls with
    | nil => rfl
    | cons k ls =>
      have hunlines := unlines_cons_cons (expandFrom size 0 l) (expandFrom size 0 k)
        (ls.map (expandFrom size 0))
      rw [unlines_cons_cons, expandFrom_append_feed, ih]
      exact hunlines.symm

/-! ### Stops -/

/-- Pieces one after another, each but the last filled up with spaces to the next multiple of
`size` columns. -/
def fillUp (size : Nat) : List Text → Text
  | [] => []
  | [p] => p
  | p :: q :: ps => p ++ List.replicate (size - p.length % size) ' ' ++ fillUp size (q :: ps)

theorem expandFrom_append_of_plain (ht : '\t' ∉ s) (hn : '\n' ∉ s) (t : Text) :
    expandFrom size column (s ++ t) = s ++ expandFrom size (column + s.length) t := by
  induction s generalizing column with
  | nil => rfl
  | cons c s ih =>
    rw [List.mem_cons, not_or] at ht hn
    have hcolumn : column + 1 + s.length = column + (s.length + 1) := by omega
    rw [List.cons_append, expandFrom_cons (Ne.symm ht.1) (Ne.symm hn.1), ih ht.2 hn.2, hcolumn,
      List.cons_append, List.length_cons]

/-- The spaces for a tab end at a multiple of the tab size. -/
theorem stop_mod (hsize : 0 < size) (column : Nat) :
    (column + (size - column % size)) % size = 0 := by
  have hlt : column % size < size := Nat.mod_lt _ hsize
  have hdiv : size * (column / size) + column % size = column := Nat.div_add_mod column size
  have hstop : column + (size - column % size) = size * (column / size + 1) := by
    rw [Nat.mul_add, Nat.mul_one]
    omega
  rw [hstop, Nat.mul_mod_right]

/-- A stop is at a multiple of the tab size, so the piece behind a tab is filled up as if it began
the line. -/
theorem expandFrom_join (hsize : 0 < size) {ps : List Text} (ht : ∀ p ∈ ps, '\t' ∉ p)
    (hn : ∀ p ∈ ps, '\n' ∉ p) (hc : column % size = 0) :
    expandFrom size column (join ['\t'] ps) = fillUp size ps := by
  induction ps generalizing column with
  | nil => rfl
  | cons p ps ih =>
    obtain ⟨htp, htps⟩ := List.forall_mem_cons.mp ht
    obtain ⟨hnp, hnps⟩ := List.forall_mem_cons.mp hn
    cases ps with
    | nil =>
      have hp : expandFrom size column (p ++ []) = p ++ expandFrom size (column + p.length) [] :=
        expandFrom_append_of_plain htp hnp []
      rwa [List.append_nil, expandFrom, List.append_nil] at hp
    | cons q ps =>
      have hjoin : join ['\t'] (p :: q :: ps) = p ++ '\t' :: join ['\t'] (q :: ps) :=
        List.append_assoc ..
      have hmod : (column + p.length) % size = p.length % size := by
        rw [Nat.add_mod, hc, Nat.zero_add, Nat.mod_mod]
      rw [hjoin, expandFrom_append_of_plain htp hnp, expandFrom_tab,
        ih htps hnps (stop_mod hsize _), hmod, fillUp, List.append_assoc]

/-- A line is expanded by filling up the pieces between its tabs. -/
theorem expandFrom_eq_fillUp (hsize : 0 < size) (hn : '\n' ∉ s) :
    expandFrom size 0 s = fillUp size (splitAt '\t' s) := by
  have htabs : ∀ p ∈ splitAt '\t' s, '\t' ∉ p := fun p hp => not_mem_of_mem_splitAt hp
  have hfeeds : ∀ p ∈ splitAt '\t' s, '\n' ∉ p := fun p hp hmem =>
    hn (mem_of_mem_splitAt hp hmem)
  rw [← expandFrom_join hsize htabs hfeeds (Nat.zero_mod size), join_splitAt]

end CodeAtlas.Text
