import CodeAtlas.Text.Basic
import Mathlib.Data.List.Basic

/-!
# Cutting a text at a byte

A text is cut at a byte just when one of its beginnings has so many bytes
(`dropBytes?_eq_some_iff`), and only one has (`eq_of_byteSize_eq`).
-/

namespace CodeAtlas.Text

variable {n : Nat} {p q s t : Text}

theorem byteSize_append (s t : Text) : byteSize (s ++ t) = byteSize s + byteSize t := by
  induction s with
  | nil => exact (Nat.zero_add _).symm
  | cons c s ih => rw [List.cons_append, byteSize, byteSize, ih, Nat.add_assoc]

theorem byteSize_eq_zero_iff : byteSize s = 0 ↔ s = [] := by
  cases s with
  | nil => simp [byteSize]
  | cons c s =>
    have hpos := c.utf8Size_pos
    simp [byteSize]
    omega

theorem byteSize_eq_length (h : ∀ c ∈ s, c.utf8Size = 1) : byteSize s = s.length := by
  induction s with
  | nil => rfl
  | cons c s ih =>
    obtain ⟨hc, hs⟩ := List.forall_mem_cons.mp h
    rw [byteSize, hc, ih hs, List.length_cons, Nat.add_comm]

theorem dropBytes?_append (p t : Text) : dropBytes? (byteSize p) (p ++ t) = some t := by
  induction p with
  | nil => cases t <;> rfl
  | cons c p ih =>
    obtain ⟨k, hk⟩ : ∃ k, byteSize (c :: p) = k + 1 := by
      have hpos := c.utf8Size_pos
      exact ⟨byteSize (c :: p) - 1, by rw [byteSize]; omega⟩
    have hsum : c.utf8Size + byteSize p = k + 1 := hk
    have hrest : k + 1 - c.utf8Size = byteSize p := by omega
    rw [hk, List.cons_append, dropBytes?, if_pos (by omega), hrest, ih]

/-- What is left of a text after some bytes is what stands behind a beginning of just so many. -/
theorem dropBytes?_eq_some_iff : dropBytes? n s = some t ↔ ∃ p, s = p ++ t ∧ byteSize p = n := by
  constructor
  · intro h
    fun_induction dropBytes? n s with
    | case1 s => exact ⟨[], Option.some.inj h, rfl⟩
    | case2 n => cases h
    | case3 n c s hle ih =>
      obtain ⟨p, hs, hp⟩ := ih h
      refine ⟨c :: p, by rw [hs, List.cons_append], ?_⟩
      rw [byteSize, hp]
      omega
    | case4 n c s hlt => cases h
  · rintro ⟨p, rfl, rfl⟩
    exact dropBytes?_append p t

theorem dropBytes?_eq_none_iff : dropBytes? n s = none ↔ ∀ p, p <+: s → byteSize p ≠ n := by
  rw [Option.eq_none_iff_forall_ne_some]
  constructor
  · rintro h p ⟨t, ht⟩ hp
    exact h t (dropBytes?_eq_some_iff.mpr ⟨p, ht.symm, hp⟩)
  · intro h t ht
    obtain ⟨p, hs, hp⟩ := dropBytes?_eq_some_iff.mp ht
    exact h p ⟨t, hs.symm⟩ hp

/-- Of the beginnings of a text no two have as many bytes. -/
theorem eq_of_byteSize_eq (hp : p <+: s) (hq : q <+: s) (h : byteSize p = byteSize q) : p = q := by
  obtain ⟨t, rfl⟩ := hp
  obtain ⟨u, hu⟩ := hq
  have ht : dropBytes? (byteSize p) (p ++ t) = some t := dropBytes?_append p t
  rw [h, ← hu, dropBytes?_append] at ht
  cases ht
  exact (List.append_cancel_right hu).symm

end CodeAtlas.Text
