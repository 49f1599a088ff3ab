import CodeAtlas.Explorer.Operation
import CodeAtlas.Proofs.Json.Members

/-!
# The paths of one call are independent

The answers to paths are collected by inserting them one after another, where a path that occurs
again keeps its place. What is collected then has the paths as keys, in the order in which they
first occur (`keys_collect`), and under each the answer to it alone (`find?_collect`), so other
paths, accepted or not, change neither (`outlines_isolated`).
-/

namespace CodeAtlas

/-! ### Members of objects -/

namespace Json

/-- The keys of an object in order. -/
def keys? : Json → Option (List Text)
  | .obj ms => some (ms.map Prod.fst)
  | _ => none

/-- What an object holds under a key. -/
def under? (key : Text) : Json → Option Json
  | .obj ms => find? key ms
  | _ => none

end Json

/-! ### What is collected -/

namespace Disk

section Collect

variable (answer : Text → Json)

/-- Going on from members whose keys are those of the paths before. -/
theorem keys_foldl_insert (paths : List Text) (before : List Text) (ms : List (Text × Json))
    (h : ms.map Prod.fst = before.eraseDups) :
    (paths.foldl (fun ms p => Json.insert p (answer p) ms) ms).map Prod.fst =
      (before ++ paths).eraseDups := by
  induction paths generalizing before ms with
  | nil => rw [List.append_nil]; exact h
  | cons p paths ih =>
    rw [List.foldl_cons, List.append_cons]
    refine ih (before ++ [p]) _ ?_
    rw [List.eraseDups_append, ← h]
    by_cases hp : p ∈ before
    · have hm : p ∈ ms.map Prod.fst := h ▸ List.mem_eraseDups.mpr hp
      rw [Json.keys_insert_of_mem _ hm]
      simp [List.removeAll, hp]
    · have hm : p ∉ ms.map Prod.fst := fun hc => hp (List.mem_eraseDups.mp (h ▸ hc))
      rw [Json.keys_insert_of_not_mem _ hm]
      simp [List.removeAll, hp, List.eraseDups_cons]

/-- The keys are the paths in the order in which they first occur. -/
theorem keys_collect (paths : List Text) :
    (collect answer paths).map Prod.fst = paths.eraseDups :=
  keys_foldl_insert answer paths [] [] rfl

theorem find?_foldl_insert (paths : List Text) (ms : List (Text × Json)) (p : Text) :
    Json.find? p (paths.foldl (fun ms p => Json.insert p (answer p) ms) ms) =
      if p ∈ paths then some (answer p) else Json.find? p ms := by
  induction paths generalizing ms with
  | nil => rfl
  | cons q paths ih =>
    rw [List.foldl_cons, ih, Json.find?_insert]
    by_cases hp : p ∈ paths
    · rw [if_pos hp, if_pos (List.mem_cons_of_mem q hp)]
    · rw [if_neg hp]
      by_cases hq : q = p
      · rw [if_pos hq, if_pos (hq ▸ List.mem_cons_self ..), hq]
      · rw [if_neg hq, if_neg fun hc => (List.mem_cons.mp hc).elim (fun he => hq he.symm) hp]

/-- Under a path stands the answer to it. -/
theorem find?_collect {paths : List Text} {p : Text} (h : p ∈ paths) :
    Json.find? p (collect answer paths) = some (answer p) := by
  rw [collect, find?_foldl_insert, if_pos h]

end Collect

/-- Whether answers to several paths at once are ordered by the paths and each is independent of
the others. -/
structure IsIsolated (answers : List Text → Json) : Prop where
  /-- There is an object whose keys are the paths in the order in which they first occur. -/
  keys (paths : List Text) : (answers paths).keys? = some paths.eraseDups
  /-- Under a path stands what there is for it alone. -/
  alone (paths : List Text) (p : Text) (h : p ∈ paths) :
    ∃ j, (answers paths).under? p = some j ∧ answers [p] = .obj [(p, j)]
  /-- Under a path stands the same whatever the other paths are. -/
  same (paths others : List Text) (p : Text) (h : p ∈ paths) (h' : p ∈ others) :
    (answers paths).under? p = (answers others).under? p

theorem isIsolated_collect (answer : Text → Json) :
    IsIsolated fun paths => .obj (collect answer paths) where
  keys paths := congrArg some (keys_collect answer paths)
  alone _ p h := ⟨answer p, find?_collect answer h, rfl⟩
  same _ _ _ h h' := (find?_collect answer h).trans (find?_collect answer h').symm

/-- The outlines of Python files and the headings of Markdown files are ordered by their paths,
and no file has a part in what stands under the path of another. -/
theorem outlines_isolated (d : Disk) (r : Python.Reader) :
    IsIsolated (d.pythonOutline r) ∧ IsIsolated d.markdownOutline :=
  ⟨isIsolated_collect (d.pythonReport r), isIsolated_collect d.markdownReport⟩

end Disk

end CodeAtlas
