import CodeAtlas.Json.Basic

/-!
# Members of objects

What inserting a member does to the keys of an object (`keys_insert_of_mem`,
`keys_insert_of_not_mem`) and to what stands under them (`find?_insert`). Keys that occur once stay
so (`nodup_keys_insert`).
-/

namespace CodeAtlas.Json

variable {α : Type} {key : Text} {value : α} {ms : List (Text × α)}

theorem mem_of_find?_eq_some (h : find? key ms = some value) : (key, value) ∈ ms := by
  induction ms with
  | nil => cases h
  | cons m ms ih =>
    rw [find?] at h
    split at h
    · next hm =>
      cases hm
      cases h
      exact List.mem_cons_self ..
    · exact List.mem_cons_of_mem m (ih h)

theorem find?_eq_none_of_not_mem (h : key ∉ ms.map Prod.fst) : find? key ms = none := by
  cases hf : find? key ms with
  | none => rfl
  | some value => exact absurd (List.mem_map_of_mem (mem_of_find?_eq_some hf)) h

theorem keys_insert_of_mem (value : α) (h : key ∈ ms.map Prod.fst) :
    (insert key value ms).map Prod.fst = ms.map Prod.fst := by
  induction ms with
  | nil => cases h
  | cons m ms ih =>
    by_cases hm : m.1 = key
    · simp [insert, hm]
    · have hms : key ∈ ms.map Prod.fst := (List.mem_cons.mp h).resolve_left fun he => hm he.symm
      rw [insert, if_neg hm, List.map_cons, List.map_cons, ih hms]

theorem keys_insert_of_not_mem (value : α) (h : key ∉ ms.map Prod.fst) :
    (insert key value ms).map Prod.fst = ms.map Prod.fst ++ [key] := by
  induction ms with
  | nil => rfl
  | cons m ms ih =>
    obtain ⟨hm, hms⟩ := not_or.mp fun hc => h (List.mem_cons.mpr hc)
    rw [insert, if_neg (Ne.symm hm), List.map_cons, List.map_cons, ih hms, List.cons_append]

/-- Inserting replaces what stands under the key and nothing else. -/
theorem find?_insert (key k : Text) (value : α) (ms : List (Text × α)) :
    find? k (insert key value ms) = if key = k then some value else find? k ms := by
  induction ms with
  | nil => rfl
  | cons m ms ih =>
    by_cases hm : m.1 = key
    · rw [insert, if_pos hm, find?, find?, hm]
      split <;> rfl
    · rw [insert, if_neg hm, find?, find?, ih]
      by_cases hk : m.1 = k
      · rw [if_pos hk, if_pos hk, if_neg fun he => hm (hk.trans he.symm)]
      · rw [if_neg hk, if_neg hk]

theorem mem_insert {m : Text × α} (h : m ∈ insert key value ms) : m = (key, value) ∨ m ∈ ms := by
  induction ms with
  | nil => exact .inl (List.mem_singleton.mp h)
  | cons m' ms ih =>
    rw [insert] at h
    split at h
    · exact (List.mem_cons.mp h).imp_right fun hm => List.mem_cons_of_mem m' hm
    · rcases List.mem_cons.mp h with rfl | hm
      · exact .inr (List.mem_cons_self ..)
      · exact (ih hm).imp_right fun hm => List.mem_cons_of_mem m' hm

theorem nodup_keys_insert (h : (ms.map Prod.fst).Nodup) :
    ((insert key value ms).map Prod.fst).Nodup := by
  by_cases hk : key ∈ ms.map Prod.fst
  · rw [keys_insert_of_mem value hk]
    exact h
  · rw [keys_insert_of_not_mem value hk, List.perm_append_comm.nodup_iff]
    exact List.nodup_cons.mpr ⟨hk, h⟩

end CodeAtlas.Json
