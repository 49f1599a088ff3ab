/-!
# Lists of pairs and computations that fail

Facts about the data that other parts of the theory share: a list of pairs with distinct keys, read
with `List.lookup`, and a computation in `Except` taken apart into its steps.
-/

namespace CodeAtlas

/-! ### Lists of pairs -/

section Pairs

variable {α β : Type} [BEq α] [LawfulBEq α] {l : List (α × β)} {a : α} {b : β}

theorem lookup_eq_some_iff_mem (h : (l.map Prod.fst).Nodup) :
    l.lookup a = some b ↔ (a, b) ∈ l := by
  induction l with
  | nil => simp
  | cons p l ih =>
    obtain ⟨k, v⟩ := p
    obtain ⟨hk, hl⟩ := List.nodup_cons.mp h
    by_cases hak : a = k
    · subst hak
      have hv : (a, b) ∉ l := fun hm => hk (List.mem_map.mpr ⟨(a, b), hm, rfl⟩)
      simp [hv, eq_comm]
    · have hb : (a == k) = false := beq_false_of_ne hak
      rw [List.lookup_cons, hb, ih hl, List.mem_cons, Prod.mk.injEq]
      exact ⟨.inr, fun hm => hm.resolve_left fun he => hak he.1⟩

end Pairs

/-! ### Computations that fail -/

section Steps

variable {ε α β : Type} {x : Except ε α} {a : α} {b : β}

/-- A computation in two steps has a result when both steps have one. -/
theorem bind_eq_ok_iff {f : α → Except ε β} : x >>= f = .ok b ↔ ∃ a, x = .ok a ∧ f a = .ok b := by
  cases x with
  | error e => exact ⟨nofun, nofun⟩
  | ok a =>
    constructor
    · intro h
      exact ⟨a, rfl, h⟩
    · rintro ⟨a', ha, h⟩
      cases ha
      exact h

theorem eq_ok_of_toOption (h : x.toOption = some a) : x = .ok a := by
  cases x with
  | error e => cases h
  | ok a' => exact congrArg _ (Option.some.inj h)

theorem map_eq_ok_iff {f : α → β} : x.map f = .ok b ↔ ∃ a, x = .ok a ∧ f a = b := by
  cases x with
  | error e => exact ⟨nofun, nofun⟩
  | ok a => simp [Except.map]

end Steps

end CodeAtlas
