import CodeAtlas.Proofs.Explorer.Batch
import CodeAtlas.Proofs.Text.Bytes
import CodeAtlas.Python.Recovery
import Mathlib

/-!
# One check for all operations

A path is refused for the first rule it breaks (`rejection?_eq_some_iff`). The report on a path, its
directory tree, its Python outline and its headings all go through this check, and each says in its
own form for which reason the path is refused (`refused_alike`). No other failure has the words of
a refusal (`message_eq_message_iff`), and no result has the form of a failure.
-/

namespace CodeAtlas

/-! ### Reasons to refuse a path -/

theorem isAbsolute_iff {path : Text} : isAbsolute path.utf8 = true ↔ path.head? = some '/' := by
  rw [isAbsolute, beq_iff_eq]
  exact Text.head?_utf8_eq_slash

namespace Disk

/-- Whether a path breaks the rule that the reason stands for, and none of the rules before it. -/
def IsRefusedFor (d : Disk) (path : Text) : PathRejection → Prop
  | .encoded => '%' ∈ path
  | .relative => '%' ∉ path ∧ path.head? ≠ some '/'
  | .missing => '%' ∉ path ∧ path.head? = some '/' ∧ d.find? path.utf8 = none

variable (d : Disk) (path : Text)

theorem rejection?_eq_some_iff {r : PathRejection} :
    d.rejection? path = some r ↔ d.IsRefusedFor path r := by
  have hf : d.contains path.utf8 = false ↔ d.find? path.utf8 = none := by
    rw [contains, Option.isSome_eq_false_iff, Option.isNone_iff_eq_none]
  unfold rejection?
  by_cases h₁ : '%' ∈ path
  · rw [if_pos (Text.has_iff.mpr h₁)]
    cases r <;> simp [IsRefusedFor, h₁]
  · rw [if_neg fun h => h₁ (Text.has_iff.mp h)]
    by_cases h₂ : path.head? = some '/'
    · rw [isAbsolute_iff.mpr h₂]
      cases hc : d.contains path.utf8 with
      | false => cases r <;> simp [IsRefusedFor, h₁, h₂, hf.mp hc]
      | true =>
        have hn : d.find? path.utf8 ≠ none := fun h => by simp [hf.mpr h] at hc
        cases r <;> simp [IsRefusedFor, h₁, h₂, hn]
    · have hn : isAbsolute path.utf8 = false :=
        Bool.eq_false_iff.mpr fun h => h₂ (isAbsolute_iff.mp h)
      rw [hn]
      cases r <;> simp [IsRefusedFor, h₁, h₂]

/-- The spelling of a path that has a percent sign or is not absolute decides for which reason it
is refused, on every disk. -/
theorem rejection?_of_spelling (d' : Disk) (h : '%' ∈ path ∨ path.head? ≠ some '/') :
    ∃ r, d.rejection? path = some r ∧ d'.rejection? path = some r := by
  simp only [rejection?_eq_some_iff]
  by_cases hp : '%' ∈ path
  · exact ⟨.encoded, hp, hp⟩
  · have hs := h.resolve_left hp
    exact ⟨.relative, ⟨hp, hs⟩, ⟨hp, hs⟩⟩

end Disk

/-! ### The words for failures -/

theorem PathRejection.head?_message (r : PathRejection) : r.message.head? = some 'T' := by
  cases r <;> decide +kernel

theorem PathRejection.message_inj {r r' : PathRejection} (h : r.message = r'.message) : r = r' := by
  cases r <;> cases r' <;> first | rfl | exact absurd h (by decide +kernel)

theorem Disk.ReadError.head?_message (e : Disk.ReadError) : e.message.head? ≠ some 'T' := by
  cases e <;> decide +kernel

theorem Python.OutlineError.head?_message (e : Python.OutlineError) :
    e.message.head? ≠ some 'T' := by
  obtain ⟨line⟩ := e
  have hi : "invalid syntax (line ".toList.head? = some 'i' := by decide +kernel
  unfold Python.OutlineError.message
  simp only [List.head?_append, hi, Option.some_or]
  decide

namespace Failure

/-- Only a refusal has the words of one, and those of its own reason. -/
theorem message_eq_message_iff {f : Failure} {r : PathRejection} :
    f.message = r.message ↔ f = .rejected r := by
  constructor
  · intro h
    have hT : f.message.head? = some 'T' := h ▸ r.head?_message
    cases f with
    | rejected r' => rw [PathRejection.message_inj h]
    | unreadable e => exact absurd hT e.head?_message
    | noOutline e => exact absurd hT e.head?_message
  · rintro rfl
    rfl

theorem toJson_eq_toJson_iff {f : Failure} {r : PathRejection} :
    f.toJson = (rejected r).toJson ↔ f = .rejected r := by
  rw [← message_eq_message_iff]
  simp [toJson, Json.ofMembers, message]

end Failure

/-! ### Results have no form of a failure -/

namespace Json

/-- Pruning leaves no key that was not there. -/
theorem keys_pruneMembers (ms : List (Text × Json)) :
    ((pruneMembers ms).map Prod.fst).Sublist (ms.map Prod.fst) := by
  induction ms with
  | nil => exact List.Sublist.slnil
  | cons m ms ih =>
    rw [pruneMembers]
    split
    · exact ih.cons m.1
    · exact ih.cons_cons m.1

theorem keys_of_prune {ms ns : List (Text × Json)} (h : prune (.obj ms) = .obj ns) :
    (ns.map Prod.fst).Sublist (ms.map Prod.fst) := by
  rw [prune] at h
  exact Json.obj.inj h ▸ keys_pruneMembers ms

end Json

theorem Python.Outline.prune_toJson_ne (o : Python.Outline) (f : Failure) :
    Json.prune o.toJson ≠ f.toJson := by
  intro h
  have hm := (Json.keys_of_prune h).subset (List.mem_singleton.mpr rfl)
  simp only [List.map_cons, List.map_nil] at hm
  exact absurd hm (by decide +kernel)

theorem Heading.toJson_ne (h : Heading) (f : Failure) : h.toJson ≠ f.toJson := by
  simp [Heading.toJson, Failure.toJson, Json.ofMembers]

/-! ### The operations -/

namespace Disk

variable (d : Disk) (reader : Python.Reader) (path : Text)

theorem validate_eq_invalid_iff {r : PathRejection} :
    d.validate path = ⟨false, some r.message⟩ ↔ d.rejection? path = some r := by
  rw [validate]
  cases d.rejection? path with
  | none => simp [PathCheck.ofRejection?]
  | some r' =>
    simp only [PathCheck.ofRejection?, PathCheck.mk.injEq, Option.some.injEq, true_and]
    exact ⟨PathRejection.message_inj, fun h => h ▸ rfl⟩

theorem validate_eq_valid_iff : d.validate path = ⟨true, none⟩ ↔ d.rejection? path = none := by
  rw [validate]
  cases d.rejection? path <;> simp [PathCheck.ofRejection?]

theorem dirTree_of_accepted {depth : Int} {format : TreeFormat} (h : d.rejection? path = none)
    (ms : List (Text × Json)) : d.dirTree path depth format ≠ .obj ms := by
  unfold dirTree
  rw [h]
  cases format <;> simp

theorem dirTree_eq_iff {depth : Int} {format : TreeFormat} {r : PathRejection} :
    d.dirTree path depth format = (Failure.rejected r).toJson ↔ d.rejection? path = some r := by
  cases h : d.rejection? path with
  | none => exact ⟨fun hj => absurd hj (d.dirTree_of_accepted path h _), fun hr => by cases hr⟩
  | some r' =>
    simp only [dirTree, h]
    rw [Failure.toJson_eq_toJson_iff]
    simp

theorem fileText_eq_rejected_iff {r : PathRejection} :
    d.fileText path = .error (.rejected r) ↔ d.rejection? path = some r := by
  unfold fileText
  cases d.rejection? path with
  | none => cases d.read path.utf8 <;> simp
  | some r' => simp

theorem pythonOutlineAt_eq_rejected_iff {r : PathRejection} :
    d.pythonOutlineAt reader path = .error (.rejected r) ↔ d.rejection? path = some r := by
  rw [← fileText_eq_rejected_iff, pythonOutlineAt]
  cases d.fileText path with
  | error f => simp
  | ok s => cases hs : Python.Outline.ofText reader s <;> simp [hs]

theorem headingsAt_eq_rejected_iff {r : PathRejection} :
    d.headingsAt path = .error (.rejected r) ↔ d.rejection? path = some r := by
  rw [← fileText_eq_rejected_iff, headingsAt]
  cases d.fileText path <;> simp [Except.map]

theorem pythonReport_eq_iff {r : PathRejection} :
    d.pythonReport reader path = (Failure.rejected r).toJson ↔ d.rejection? path = some r := by
  rw [← pythonOutlineAt_eq_rejected_iff, pythonReport]
  cases d.pythonOutlineAt reader path with
  | ok o => simp [o.prune_toJson_ne]
  | error f => simp [Failure.toJson_eq_toJson_iff]

theorem markdownReport_eq_iff {r : PathRejection} :
    d.markdownReport path = .arr [(Failure.rejected r).toJson] ↔ d.rejection? path = some r := by
  rw [← headingsAt_eq_rejected_iff, markdownReport]
  cases d.headingsAt path with
  | ok hs =>
    cases hs with
    | nil => simp
    | cons h hs => simp [h.toJson_ne]
  | error f => simp [Failure.toJson_eq_toJson_iff]

/-- The directory tree is an object only in place of a result. -/
theorem dirTree_ne_obj_iff {depth : Int} {format : TreeFormat} :
    (∀ ms, d.dirTree path depth format ≠ .obj ms) ↔ d.rejection? path = none := by
  constructor
  · intro h
    rw [Option.eq_none_iff_forall_ne_some]
    intro r hr
    exact h _ ((d.dirTree_eq_iff path).mpr hr)
  · exact d.dirTree_of_accepted path

theorem under?_pythonOutline :
    (d.pythonOutline reader [path]).under? path = some (d.pythonReport reader path) :=
  find?_collect (d.pythonReport reader) (List.mem_singleton.mpr rfl)

theorem under?_markdownOutline :
    (d.markdownOutline [path]).under? path = some (d.markdownReport path) :=
  find?_collect d.markdownReport (List.mem_singleton.mpr rfl)

/-- Where the check has the same outcome on two disks and refuses the path, nothing else of them
has a part in the answers. -/
theorem answers_eq_of_refused (d' : Disk) {depth : Int} {format : TreeFormat} {r : PathRejection}
    (h : d.rejection? path = some r) (h' : d'.rejection? path = some r) :
    d.validate path = d'.validate path ∧
      d.dirTree path depth format = d'.dirTree path depth format ∧
      d.pythonOutline reader [path] = d'.pythonOutline reader [path] ∧
      d.markdownOutline [path] = d'.markdownOutline [path] := by
  have hpython : d.pythonReport reader path = d'.pythonReport reader path :=
    ((d.pythonReport_eq_iff reader path).mpr h).trans
      ((d'.pythonReport_eq_iff reader path).mpr h').symm
  have hmarkdown : d.markdownReport path = d'.markdownReport path :=
    ((d.markdownReport_eq_iff path).mpr h).trans ((d'.markdownReport_eq_iff path).mpr h').symm
  refine ⟨?_, ?_, ?_, ?_⟩
  · rw [validate, validate, h, h']
  · exact ((d.dirTree_eq_iff path).mpr h).trans ((d'.dirTree_eq_iff path).mpr h').symm
  · exact congrArg (fun j => Json.obj [(path, j)]) hpython
  · exact congrArg (fun j => Json.obj [(path, j)]) hmarkdown

/-- The report on a path, its directory tree, its Python outline and its headings agree on whether
the path is refused and for which reason: the first rule that it breaks. A path without a refusal
has a directory tree that is no object, and a refusal that the spelling of the path decides is
answered alike on every disk. -/
theorem refused_alike (depth : Int) (format : TreeFormat) :
    (∀ r : PathRejection,
        (d.validate path = ⟨false, some r.message⟩ ↔ d.IsRefusedFor path r) ∧
        (d.dirTree path depth format = .ofMembers [("error", .str r.message)] ↔
          d.IsRefusedFor path r) ∧
        ((d.pythonOutline reader [path]).under? path =
            some (.ofMembers [("error", .str r.message)]) ↔
          d.IsRefusedFor path r) ∧
        ((d.markdownOutline [path]).under? path =
            some (.arr [.ofMembers [("error", .str r.message)]]) ↔
          d.IsRefusedFor path r)) ∧
      (d.validate path = ⟨true, none⟩ ↔ ∀ r, ¬ d.IsRefusedFor path r) ∧
      (d.validate path = ⟨true, none⟩ ↔ ∀ ms, d.dirTree path depth format ≠ .obj ms) ∧
      ∀ d' : Disk, '%' ∈ path ∨ path.head? ≠ some '/' →
        d.validate path = d'.validate path ∧
          d.dirTree path depth format = d'.dirTree path depth format ∧
          d.pythonOutline reader [path] = d'.pythonOutline reader [path] ∧
          d.markdownOutline [path] = d'.markdownOutline [path] := by
  refine ⟨fun r => ?_, ?_, ?_, fun d' h => ?_⟩
  · rw [under?_pythonOutline, under?_markdownOutline, Option.some.injEq, Option.some.injEq,
      ← rejection?_eq_some_iff]
    exact ⟨d.validate_eq_invalid_iff path, d.dirTree_eq_iff path, d.pythonReport_eq_iff reader path,
      d.markdownReport_eq_iff path⟩
  · rw [validate_eq_valid_iff, Option.eq_none_iff_forall_ne_some]
    exact forall_congr' fun r => not_congr (d.rejection?_eq_some_iff path)
  · rw [validate_eq_valid_iff, dirTree_ne_obj_iff]
  · obtain ⟨r, hr, hr'⟩ := d.rejection?_of_spelling path d' h
    exact d.answers_eq_of_refused reader path d' hr hr'

/-- A path with a percent sign is refused on a disk that has a file of that name, as on one that
has not. -/
theorem refused_alike_percent :
    let path : Text := ['/', '%']
    let d : Disk := empty.put [⟨Text.utf8 ['%'], by decide⟩] (.file true ByteArray.empty)
    let reader := Python.Reader.standard
    d.contains (Text.utf8 path) = true ∧ ('%' ∈ path ∨ path.head? ≠ some '/') ∧
      d.validate path = ⟨false, some PathRejection.encoded.message⟩ ∧
      d.validate path = empty.validate path ∧
        d.dirTree path 0 .json = empty.dirTree path 0 .json ∧
        d.pythonOutline reader [path] = empty.pythonOutline reader [path] ∧
        d.markdownOutline [path] = empty.markdownOutline [path] := by
  intro path d reader
  have hp : '%' ∈ path := by decide
  obtain ⟨hreasons, -, -, hdisks⟩ := d.refused_alike reader path 0 .json
  exact ⟨by cbv, .inl hp, (hreasons .encoded).1.mpr hp, hdisks empty (.inl hp)⟩

end Disk

end CodeAtlas
