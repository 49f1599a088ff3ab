import CodeAtlas.Text.Newline

/-!
# Texts without carriage returns

Normalizing line ends changes nothing up to the first carriage return
(`normalizeNewlines_append`), so a text without one is normalized already. A normalized text has
none (`return_not_mem_normalizeNewlines`).
-/

namespace CodeAtlas.Text

theorem unifyLineEnds_cons {c : Char} (h : c ≠ '\r') (s : Text) :
    unifyLineEnds (c :: s) = c :: unifyLineEnds s := by
  rw [unifyLineEnds.eq_3 _ _ fun _ hc => absurd hc h, if_neg h]

theorem normalizeNewlines_append {s : Text} (h : '\r' ∉ s) (t : Text) :
    normalizeNewlines (s ++ t) = s ++ normalizeNewlines t := by
  rw [normalizeNewlines_eq, normalizeNewlines_eq]
  induction s with
  | nil => rfl
  | cons c s ih =>
    rw [List.mem_cons, not_or] at h
    rw [List.cons_append, unifyLineEnds_cons (Ne.symm h.1), ih h.2, List.cons_append]

theorem normalizeNewlines_eq_self {s : Text} (h : '\r' ∉ s) : normalizeNewlines s = s := by
  have happend := normalizeNewlines_append h []
  rwa [List.append_nil, show normalizeNewlines [] = [] from rfl, List.append_nil] at happend

theorem return_not_mem_normalizeNewlines (s : Text) : '\r' ∉ normalizeNewlines s := by
  rw [normalizeNewlines, feedReturns, List.mem_map]
  rintro ⟨c, -, hc⟩
  by_cases h : c = '\r'
  · rw [if_pos h] at hc
    exact absurd hc (by decide)
  · rw [if_neg h] at hc
    exact h hc

end CodeAtlas.Text
