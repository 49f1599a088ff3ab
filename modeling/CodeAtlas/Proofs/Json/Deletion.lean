import CodeAtlas.Json.Prune
import Mathlib.Logic.Relation

/-!
# Deletions end in the pruned value

A deletion takes one empty element or member out of a value and may leave its container empty, so
that the next one becomes possible. Whatever is deleted first, the deletions come to an end, and
what is left is the pruned value: a deletion makes the value smaller (`size_lt_of_deletes`) and
does not change what pruning gives (`prune_eq_of_deletes`), and the pruned value can be reached by
deletions (`reduces_prune`).
-/

namespace CodeAtlas.Json

/-- Whether some deletions one after another lead from a value to another. -/
def Reduces : Json → Json → Prop := Relation.ReflTransGen Deletes

/-- Whether nothing can be deleted from a value. -/
def IsNormal (v : Json) : Prop := ∀ w, ¬ Deletes v w

variable {v w : Json}

/-! ### What a deletion does to pruning -/

theorem pruneElements_append (es fs : List Json) :
    pruneElements (es ++ fs) = pruneElements es ++ pruneElements fs := by
  induction es with
  | nil => rfl
  | cons e es ih =>
    rw [List.cons_append, pruneElements, pruneElements, ih]
    split <;> rfl

theorem pruneMembers_append (ms ns : List (Text × Json)) :
    pruneMembers (ms ++ ns) = pruneMembers ms ++ pruneMembers ns := by
  induction ms with
  | nil => rfl
  | cons m ms ih =>
    rw [List.cons_append, pruneMembers, pruneMembers, ih]
    split <;> rfl

/-- What is empty stays empty. -/
theorem isEmpty_prune (h : isEmpty v = true) : isEmpty (prune v) = true := by
  cases v with
  | arr es =>
    rw [List.isEmpty_iff.mp h]
    rfl
  | obj ms =>
    rw [List.isEmpty_iff.mp h]
    rfl
  | null | bool | num | str => exact h

/-- A deletion does not change what is left in the end. -/
theorem prune_eq_of_deletes (h : Deletes v w) : prune v = prune w := by
  induction h with
  | element he =>
    rw [prune, prune, pruneElements_append, pruneElements_append, pruneElements,
      if_pos (isEmpty_prune he)]
  | member hv =>
    rw [prune, prune, pruneMembers_append, pruneMembers_append, pruneMembers,
      if_pos (isEmpty_prune hv)]
  | inElement _ ih =>
    rw [prune, prune, pruneElements_append, pruneElements_append, pruneElements, pruneElements, ih]
  | inMember _ ih =>
    rw [prune, prune, pruneMembers_append, pruneMembers_append, pruneMembers, pruneMembers, ih]

theorem prune_eq_of_reduces (h : Reduces v w) : prune v = prune w := by
  induction h with
  | refl => rfl
  | tail _ hd ih => exact ih.trans (prune_eq_of_deletes hd)

/-! ### Deletions end -/

mutual

/-- How many values there are in a value, itself among them. -/
def size : Json → Nat
  | .arr es => sizeOfElements es + 1
  | .obj ms => sizeOfMembers ms + 1
  | .null | .bool _ | .num _ | .str _ => 1

/-- How many values there are in some elements. -/
def sizeOfElements : List Json → Nat
  | [] => 0
  | e :: es => size e + sizeOfElements es

/-- How many values there are in some members. -/
def sizeOfMembers : List (Text × Json) → Nat
  | [] => 0
  | (_, v) :: ms => size v + sizeOfMembers ms

end

theorem size_pos (v : Json) : 0 < size v := by
  cases v <;> simp [size]

theorem sizeOfElements_append (es fs : List Json) :
    sizeOfElements (es ++ fs) = sizeOfElements es + sizeOfElements fs := by
  induction es with
  | nil => simp [sizeOfElements]
  | cons e es ih => rw [List.cons_append, sizeOfElements, sizeOfElements, ih, Nat.add_assoc]

theorem sizeOfMembers_append (ms ns : List (Text × Json)) :
    sizeOfMembers (ms ++ ns) = sizeOfMembers ms + sizeOfMembers ns := by
  induction ms with
  | nil => simp [sizeOfMembers]
  | cons m ms ih => rw [List.cons_append, sizeOfMembers, sizeOfMembers, ih, Nat.add_assoc]

theorem size_lt_of_deletes (h : Deletes v w) : size w < size v := by
  induction h with
  | @element before after e he =>
    have hpos := size_pos e
    simp only [size, sizeOfElements_append, sizeOfElements]
    omega
  | @member before after k v hv =>
    have hpos := size_pos v
    simp only [size, sizeOfMembers_append, sizeOfMembers]
    omega
  | inElement _ ih =>
    simp only [size, sizeOfElements_append, sizeOfElements]
    omega
  | inMember _ ih =>
    simp only [size, sizeOfMembers_append, sizeOfMembers]
    omega

theorem size_le_of_reduces (h : Reduces v w) : size w ≤ size v := by
  induction h with
  | refl => exact Nat.le_refl _
  | tail _ hd ih => exact Nat.le_trans (Nat.le_of_lt (size_lt_of_deletes hd)) ih

/-- Each deletion takes away one value at least. -/
theorem size_add_le {f : Nat → Json} (h : ∀ n, Deletes (f n) (f (n + 1))) (n : Nat) :
    size (f n) + n ≤ size (f 0) := by
  induction n with
  | zero => exact Nat.le_refl _
  | succ n ih =>
    have hlt := size_lt_of_deletes (h n)
    omega

/-- No deletions go on for ever. -/
theorem not_forall_deletes (f : Nat → Json) : ¬ ∀ n, Deletes (f n) (f (n + 1)) := by
  intro h
  have hle := size_add_le h (size (f 0))
  have hpos := size_pos (f (size (f 0)))
  omega

/-! ### The pruned value is reached -/

theorem Reduces.inElement {before after : List Json} {e e' : Json} (h : Reduces e e') :
    Reduces (.arr (before ++ e :: after)) (.arr (before ++ e' :: after)) := by
  induction h with
  | refl => exact .refl
  | tail _ hd ih => exact ih.tail (.inElement hd)

theorem Reduces.inMember {before after : List (Text × Json)} {k : Text} {v v' : Json}
    (h : Reduces v v') :
    Reduces (.obj (before ++ (k, v) :: after)) (.obj (before ++ (k, v') :: after)) := by
  induction h with
  | refl => exact .refl
  | tail _ hd ih => exact ih.tail (.inMember hd)

mutual

/-- Pruning is done by deletions. -/
theorem reduces_prune : ∀ v : Json, Reduces v (prune v)
  | .arr es => reduces_elements [] es
  | .obj ms => reduces_members [] ms
  | .null | .bool _ | .num _ | .str _ => .refl

/-- Elements are pruned by deletions, those before them left alone. -/
theorem reduces_elements (before : List Json) :
    ∀ es : List Json, Reduces (.arr (before ++ es)) (.arr (before ++ pruneElements es))
  | [] => .refl
  | e :: es => by
    have he : Reduces (.arr (before ++ e :: es)) (.arr (before ++ prune e :: es)) :=
      (reduces_prune e).inElement
    rw [pruneElements]
    split
    · next hempty => exact (he.tail (.element hempty)).trans (reduces_elements before es)
    · have hes := reduces_elements (before ++ [prune e]) es
      rw [← List.append_cons, ← List.append_cons] at hes
      exact he.trans hes

/-- Members are pruned by deletions, those before them left alone. -/
theorem reduces_members (before : List (Text × Json)) :
    ∀ ms : List (Text × Json), Reduces (.obj (before ++ ms)) (.obj (before ++ pruneMembers ms))
  | [] => .refl
  | (k, v) :: ms => by
    have hv : Reduces (.obj (before ++ (k, v) :: ms)) (.obj (before ++ (k, prune v) :: ms)) :=
      (reduces_prune v).inMember
    rw [pruneMembers]
    split
    · next hempty => exact (hv.tail (.member hempty)).trans (reduces_members before ms)
    · have hms := reduces_members (before ++ [(k, prune v)]) ms
      rw [← List.append_cons, ← List.append_cons] at hms
      exact hv.trans hms

end

/-! ### Normal values -/

theorem IsNormal.eq_of_reduces (h : IsNormal v) (hr : Reduces v w) : w = v := by
  rcases Relation.ReflTransGen.cases_head hr with rfl | ⟨u, hu, -⟩
  · rfl
  · exact absurd hu (h u)

theorem IsNormal.prune_eq (h : IsNormal v) : prune v = v := h.eq_of_reduces (reduces_prune v)

/-- What pruning does not change has nothing to delete: after a deletion, pruning would have to
lead back to the greater value. -/
theorem isNormal_of_prune_eq (h : prune v = v) : IsNormal v := by
  intro w hw
  have hback : Reduces w v := by
    have hr := reduces_prune w
    rwa [← prune_eq_of_deletes hw, h] at hr
  have hle := size_le_of_reduces hback
  have hlt := size_lt_of_deletes hw
  omega

theorem prune_prune (v : Json) : prune (prune v) = prune v :=
  (prune_eq_of_reduces (reduces_prune v)).symm

/-- Deletions from a value come to an end, whatever is deleted first, and the one value in which
they can end is the pruned one. Pruning changes nothing exactly where nothing can be deleted, so
pruning twice is pruning once. -/
theorem deletions_end_in_prune (v : Json) :
    (¬ ∃ f : Nat → Json, f 0 = v ∧ ∀ n, Deletes (f n) (f (n + 1))) ∧
      (∀ w, Reduces v w ∧ IsNormal w ↔ w = prune v) ∧
      (prune v = v ↔ IsNormal v) ∧
      prune (prune v) = prune v := by
  refine ⟨?_, fun w => ⟨?_, ?_⟩, ⟨isNormal_of_prune_eq, IsNormal.prune_eq⟩, prune_prune v⟩
  · rintro ⟨f, -, hf⟩
    exact not_forall_deletes f hf
  · rintro ⟨hr, hn⟩
    rw [prune_eq_of_reduces hr, hn.prune_eq]
  · rintro rfl
    exact ⟨reduces_prune v, isNormal_of_prune_eq (prune_prune v)⟩

end CodeAtlas.Json
