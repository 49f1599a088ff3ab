import CodeAtlas.Json.Prune
import Mathlib.Data.List.Basic

/-!
# Pruning keeps what is live

Pruning works from the leaves up: it judges a child by what is left of it once its own children
have been pruned. `keepLive` works from the root down: it judges a child as it stands. The two
agree, because a value is empty after pruning exactly when it was not live before
(`isEmpty_prune_eq`). So what is left are the live children at every level, and no live leaf is
lost, moved or put under other keys (`prune_keeps_live`).
-/

namespace CodeAtlas.Json

/-! ### Live children and live leaves -/

theorem sizeOf_lt_arr {e : Json} {es : List Json} (h : e ∈ es) : sizeOf e < sizeOf (arr es) := by
  have hlt := List.sizeOf_lt_of_mem h
  simp only [arr.sizeOf_spec]
  omega

theorem sizeOf_lt_obj {m : Text × Json} {ms : List (Text × Json)} (h : m ∈ ms) :
    sizeOf m.2 < sizeOf (obj ms) := by
  have hlt := List.sizeOf_lt_of_mem h
  obtain ⟨k, v⟩ := m
  simp only [Prod.mk.sizeOf_spec] at hlt
  simp only [obj.sizeOf_spec]
  omega

/-- The value with its live children only, and with the live children of these, and so on. Each
child is judged as it stands, before anything in it is taken out. -/
def keepLive : Json → Json
  | .arr es => .arr ((es.filter isLive).map keepLive)
  | .obj ms => .obj ((ms.filter fun m => isLive m.2).map fun m => (m.1, keepLive m.2))
  | .null => .null
  | .bool b => .bool b
  | .num n => .num n
  | .str s => .str s
termination_by v => sizeOf v
decreasing_by
  · exact sizeOf_lt_arr ‹_›
  · exact sizeOf_lt_obj ‹_›

/-- A value without children as the one leaf that it is, if it is live. -/
def leaf (v : Json) : List (List Text × Json) := if isLive v then [([], v)] else []

/-- The live leaves of a value in the order of the document, each with the keys on the way to
it. -/
def leaves : Json → List (List Text × Json)
  | .arr es => es.flatMap leaves
  | .obj ms => ms.flatMap fun m => (leaves m.2).map fun l => (m.1 :: l.1, l.2)
  | .null => leaf .null
  | .bool b => leaf (.bool b)
  | .num n => leaf (.num n)
  | .str s => leaf (.str s)
termination_by v => sizeOf v
decreasing_by
  · exact sizeOf_lt_arr ‹_›
  · exact sizeOf_lt_obj ‹_›

/-! ### Empty after pruning is not live before -/

theorem anyElementLive_eq (es : List Json) : anyElementLive es = es.any isLive := by
  induction es with
  | nil => rfl
  | cons e es ih => rw [anyElementLive, List.any_cons, ih]

theorem anyMemberLive_eq (ms : List (Text × Json)) :
    anyMemberLive ms = ms.any fun m => isLive m.2 := by
  induction ms with
  | nil => rfl
  | cons m ms ih => rw [anyMemberLive, List.any_cons, ih]

mutual

/-- What pruning leaves of a value is empty exactly when nothing in the value is live. -/
theorem isEmpty_prune_eq : ∀ v : Json, isEmpty (prune v) = !isLive v
  | .null | .bool _ | .num _ => rfl
  | .str s => (Bool.not_not s.isEmpty).symm
  | .arr es => isEmpty_pruneElements es
  | .obj ms => isEmpty_pruneMembers ms

theorem isEmpty_pruneElements : ∀ es : List Json,
    (pruneElements es).isEmpty = !anyElementLive es
  | [] => rfl
  | e :: es => by
    have he := isEmpty_prune_eq e
    have hes := isEmpty_pruneElements es
    rw [pruneElements, anyElementLive]
    cases hlive : isLive e with
    | true => simp [he, hlive]
    | false => simp [he, hlive, hes]

theorem isEmpty_pruneMembers : ∀ ms : List (Text × Json),
    (pruneMembers ms).isEmpty = !anyMemberLive ms
  | [] => rfl
  | (k, v) :: ms => by
    have hv := isEmpty_prune_eq v
    have hms := isEmpty_pruneMembers ms
    rw [pruneMembers, anyMemberLive]
    cases hlive : isLive v with
    | true => simp [hv, hlive]
    | false => simp [hv, hlive, hms]

end

/-! ### Live children are kept -/

/-- The elements left are the live ones, pruned. -/
theorem pruneElements_eq_filter (es : List Json) :
    pruneElements es = (es.filter isLive).map prune := by
  induction es with
  | nil => rfl
  | cons e es ih =>
    rw [pruneElements, isEmpty_prune_eq, ih]
    cases hlive : isLive e with
    | true => simp [hlive]
    | false => simp [hlive]

/-- The members left are the live ones, with their keys and with their values pruned. -/
theorem pruneMembers_eq_filter (ms : List (Text × Json)) :
    pruneMembers ms = (ms.filter fun m => isLive m.2).map fun m => (m.1, prune m.2) := by
  induction ms with
  | nil => rfl
  | cons m ms ih =>
    obtain ⟨k, v⟩ := m
    rw [pruneMembers, isEmpty_prune_eq, ih]
    cases hlive : isLive v with
    | true => simp [hlive]
    | false => simp [hlive]

theorem prune_eq_keepLive : ∀ v : Json, prune v = keepLive v
  | .null | .bool _ | .num _ | .str _ => by rw [prune, keepLive]
  | .arr es => by
    rw [prune, keepLive, pruneElements_eq_filter]
    congr 1
    refine List.map_congr_left fun e he => ?_
    have hmem := (List.mem_filter.mp he).1
    exact prune_eq_keepLive e
  | .obj ms => by
    rw [prune, keepLive, pruneMembers_eq_filter]
    congr 1
    refine List.map_congr_left fun m hm => ?_
    have hmem := (List.mem_filter.mp hm).1
    rw [prune_eq_keepLive m.2]
termination_by v => sizeOf v
decreasing_by
  · exact sizeOf_lt_arr hmem
  · exact sizeOf_lt_obj hmem

/-! ### Live leaves are kept -/

/-- What is not live has no live leaf. -/
theorem leaves_eq_nil : ∀ v : Json, isLive v = false → leaves v = []
  | .null, _ => by rw [leaves]; rfl
  | .bool b, h => by rw [leaves, leaf, h]; rfl
  | .num _, h => Bool.noConfusion h
  | .str s, h => by rw [leaves, leaf, h]; rfl
  | .arr es, h => by
    rw [isLive, anyElementLive_eq, List.any_eq_false] at h
    rw [leaves, List.flatMap_eq_nil_iff]
    intro e he
    exact leaves_eq_nil e (eq_false_of_ne_true (h e he))
  | .obj ms, h => by
    rw [isLive, anyMemberLive_eq, List.any_eq_false] at h
    rw [leaves, List.flatMap_eq_nil_iff]
    intro m hm
    rw [leaves_eq_nil m.2 (eq_false_of_ne_true (h m hm)), List.map_nil]
termination_by v => sizeOf v
decreasing_by
  · exact sizeOf_lt_arr he
  · exact sizeOf_lt_obj hm

/-- What is filtered out counts for nothing if nothing comes of it. -/
theorem flatMap_filter {α β : Type} {p : α → Bool} {f : α → List β}
    (h : ∀ a, p a = false → f a = []) (as : List α) : (as.filter p).flatMap f = as.flatMap f := by
  induction as with
  | nil => rfl
  | cons a as ih =>
    cases hp : p a with
    | true => rw [List.filter_cons_of_pos hp, List.flatMap_cons, List.flatMap_cons, ih]
    | false => simp [hp, h a hp, ih]

theorem leaves_prune : ∀ v : Json, leaves (prune v) = leaves v
  | .null | .bool _ | .num _ | .str _ => rfl
  | .arr es => by
    rw [prune, pruneElements_eq_filter, leaves, leaves, List.flatMap_map,
      ← flatMap_filter leaves_eq_nil es]
    refine List.flatMap_congr fun e he => ?_
    have hmem := (List.mem_filter.mp he).1
    exact leaves_prune e
  | .obj ms => by
    rw [prune, pruneMembers_eq_filter, leaves, leaves, List.flatMap_map]
    have hnil (m : Text × Json) (h : isLive m.2 = false) :
        ((leaves m.2).map fun l => (m.1 :: l.1, l.2)) = [] := by
      rw [leaves_eq_nil m.2 h, List.map_nil]
    rw [← flatMap_filter hnil ms]
    refine List.flatMap_congr fun m hm => ?_
    have hmem := (List.mem_filter.mp hm).1
    rw [leaves_prune m.2]
termination_by v => sizeOf v
decreasing_by
  · exact sizeOf_lt_arr hmem
  · exact sizeOf_lt_obj hmem

/-- Pruning keeps the live children of a value, of these again the live children, and so on, and
no other: whether a child stays depends on the value as it was. It leaves the live leaves as they
are, in their order and under their keys. -/
theorem prune_keeps_live (v : Json) : prune v = keepLive v ∧ leaves (prune v) = leaves v :=
  ⟨prune_eq_keepLive v, leaves_prune v⟩

end CodeAtlas.Json
