import CodeAtlas.Proofs.Explorer.Refusal
import CodeAtlas.Proofs.Json.Distinctness
import CodeAtlas.Proofs.Text.Splitting
import CodeAtlas.Python.Recovery
import CodeAtlas.Server.Answer

/-!
# Telling a failure by its text

A call that fails for a path is answered as one that succeeds is: with a text. The outlines of
files tell the two apart, because the value under the path does and its text shows every value
(`Disk.render_collect_ne`). A directory tree does so too, except that the text format passes on the
names of files as they are: a directory whose one visible line is a file named like the refusal
of a missing path has the text of that refusal (`Disk.toolText_dirTree_eq_iff`). So two answers
are the same in this case only (`Disk.answer_eq_iff_spellsRefusal`).
-/

namespace CodeAtlas

/-! ### Values without floating-point numbers -/

namespace Json

theorem allExact_map {α : Type} {toJson : α → Json} (h : ∀ a, isExact (toJson a) = true)
    (as : List α) : allExact (as.map toJson) = true := by
  induction as with
  | nil => rfl
  | cons a as ih => rw [List.map_cons, allExact, h, ih, Bool.and_self]

theorem isExact_ofText? (t : Option Text) : isExact (ofText? t) = true := by
  cases t <;> rfl

mutual

/-- Pruning only takes away. -/
theorem isExact_prune : ∀ v : Json, isExact v = true → isExact (prune v) = true
  | .null, h | .bool _, h | .num _, h | .str _, h => h
  | .arr es, h => allExact_pruneElements es h
  | .obj ms, h => allMembersExact_pruneMembers ms h

theorem allExact_pruneElements : ∀ es : List Json, allExact es = true →
    allExact (pruneElements es) = true
  | [], h => h
  | e :: es, h => by
    obtain ⟨he, hes⟩ := Bool.and_eq_true_iff.mp h
    rw [pruneElements]
    split
    · exact allExact_pruneElements es hes
    · exact Bool.and_eq_true_iff.mpr ⟨isExact_prune e he, allExact_pruneElements es hes⟩

theorem allMembersExact_pruneMembers : ∀ ms : List (Text × Json), allMembersExact ms = true →
    allMembersExact (pruneMembers ms) = true
  | [], h => h
  | (k, v) :: ms, h => by
    obtain ⟨hv, hms⟩ := Bool.and_eq_true_iff.mp h
    rw [pruneMembers]
    split
    · exact allMembersExact_pruneMembers ms hms
    · exact Bool.and_eq_true_iff.mpr ⟨isExact_prune v hv, allMembersExact_pruneMembers ms hms⟩

end

theorem allMembersExact_insert {key : Text} {v : Json} (hv : isExact v = true)
    {ms : List (Text × Json)} (h : allMembersExact ms = true) :
    allMembersExact (insert key v ms) = true := by
  induction ms with
  | nil => exact Bool.and_eq_true_iff.mpr ⟨hv, rfl⟩
  | cons m ms ih =>
    obtain ⟨hm, hms⟩ := Bool.and_eq_true_iff.mp h
    rw [insert]
    split
    · exact Bool.and_eq_true_iff.mpr ⟨hv, hms⟩
    · exact Bool.and_eq_true_iff.mpr ⟨hm, ih hms⟩

end Json

theorem Failure.isExact_toJson (f : Failure) : Json.isExact f.toJson = true := rfl

theorem Heading.isExact_toJson (h : Heading) : Json.isExact h.toJson = true := rfl

namespace Python

theorem FunctionEntry.isExact_toJson (f : FunctionEntry) : Json.isExact f.toJson = true := by
  simp [toJson, Json.ofMembers, Json.isExact, Json.allMembersExact, Json.isExact_ofText?,
    Json.ofNat]

theorem ClassEntry.isExact_toJson (c : ClassEntry) : Json.isExact c.toJson = true := by
  simp [toJson, Json.ofMembers, Json.isExact, Json.allMembersExact, Json.isExact_ofText?,
    Json.ofNat, Json.allExact_map FunctionEntry.isExact_toJson]

theorem ImportEntry.isExact_toJson (i : ImportEntry) : Json.isExact i.toJson = true := rfl

theorem Outline.isExact_toJson (o : Outline) : Json.isExact o.toJson = true := by
  simp [toJson, Json.ofMembers, Json.isExact, Json.allMembersExact, Json.isExact_ofText?,
    Json.allExact_map FunctionEntry.isExact_toJson, Json.allExact_map ClassEntry.isExact_toJson,
    Json.allExact_map ImportEntry.isExact_toJson]

end Python

/-! ### Outlines of files -/

namespace Disk

theorem isExact_pythonReport (d : Disk) (r : Python.Reader) (path : Text) :
    Json.isExact (d.pythonReport r path) = true := by
  unfold pythonReport
  split
  · exact Json.isExact_prune _ (Python.Outline.isExact_toJson _)
  · exact Failure.isExact_toJson _

theorem isExact_markdownReport (d : Disk) (path : Text) :
    Json.isExact (d.markdownReport path) = true := by
  unfold markdownReport
  split
  · exact Json.allExact_map Heading.isExact_toJson _
  · next f _ => exact Bool.and_eq_true_iff.mpr ⟨f.isExact_toJson, rfl⟩

theorem allMembersExact_collect {answer : Text → Json} (h : ∀ p, Json.isExact (answer p) = true)
    (paths : List Text) : Json.allMembersExact (collect answer paths) = true := by
  have hfold (ms : List (Text × Json)) (hms : Json.allMembersExact ms = true) :
      Json.allMembersExact (paths.foldl (fun ms p => Json.insert p (answer p) ms) ms) = true := by
    induction paths generalizing ms with
    | nil => exact hms
    | cons p paths ih => exact ih _ (Json.allMembersExact_insert (h p) hms)
  exact hfold [] rfl

/-- Answers to the same paths have different texts if they differ for one of the paths. -/
theorem render_collect_ne {answer answer' : Text → Json} {paths : List Text} {path : Text}
    (h : ∀ p, Json.isExact (answer p) = true) (h' : ∀ p, Json.isExact (answer' p) = true)
    (hp : path ∈ paths) (hne : answer path ≠ answer' path) :
    Json.render (.obj (collect answer paths)) ≠ Json.render (.obj (collect answer' paths)) := by
  intro he
  have hv : Json.isExact (.obj (collect answer paths)) = true := allMembersExact_collect h paths
  have hw : Json.isExact (.obj (collect answer' paths)) = true := allMembersExact_collect h' paths
  have hobj := Json.render_injective hv hw he
  have hfind := congrArg (Json.find? path) (Json.obj.inj hobj)
  rw [find?_collect answer hp, find?_collect answer' hp] at hfind
  exact hne (Option.some.inj hfind)

variable {d d' : Disk} {r : Python.Reader} {path : Text} {root : Bytes}

theorem pythonReport_ne {f : Failure} {o : Python.Outline}
    (h : d.pythonOutlineAt r path = .error f) (h' : d'.pythonOutlineAt r path = .ok o) :
    d.pythonReport r path ≠ d'.pythonReport r path := by
  rw [pythonReport, pythonReport, h, h']
  exact (o.prune_toJson_ne f).symm

theorem markdownReport_ne {f : Failure} {hs : List Heading} (h : d.headingsAt path = .error f)
    (h' : d'.headingsAt path = .ok hs) : d.markdownReport path ≠ d'.markdownReport path := by
  rw [markdownReport, markdownReport, h, h']
  intro he
  cases hs with
  | nil => cases he
  | cons heading hs => exact heading.toJson_ne f (List.cons.inj (Json.arr.inj he)).1.symm

/-! ### Directory trees -/

/-- The text that stands in place of a tree when the path does not exist. -/
def missingText : Text := Answer.toolText (Failure.toJson (.rejected .missing))

/-- The letters of that text. -/
def missingLetters : Text :=
  '\x7b' :: ("\"error\":\"The path does not exist on disk.\"".toList ++ ['\x7d'])

theorem missingText_eq : missingText = missingLetters := by
  decide +kernel

/-- The name of a file that reads like that text. -/
def missingName : Name := ⟨missingLetters.utf8, by decide +kernel⟩

/-- Whether the tree under a directory has one visible line, a file whose name is the text that
stands in place of a tree when the path does not exist; white space around it aside. -/
structure SpellsRefusal (d : Disk) (depth : Int) (root : Bytes) : Prop where
  /-- The entries are listed. -/
  listed : 0 ≤ depth
  /-- None of them is a directory. -/
  files : ∀ e ∈ d.entries root, e.isDirectory = false
  /-- One of their names is not blank, and it is that text. -/
  name : (((d.entries root).map Entry.name).filter fun n => !Text.allBlank n).map Text.trim =
    [missingText]

theorem rejection_eq_missing {reason : PathRejection} (h : d.rejection? path = some reason)
    (h' : d'.rejection? path = none) : reason = .missing := by
  have hspelling : ¬ ('%' ∈ path ∨ path.head? ≠ some '/') := by
    intro hs
    obtain ⟨r', -, hr'⟩ := d.rejection?_of_spelling path d' hs
    rw [h'] at hr'
    cases hr'
  rw [rejection?_eq_some_iff] at h
  cases reason with
  | encoded => exact absurd (.inl h) hspelling
  | relative => exact absurd (.inr h.2) hspelling
  | missing => rfl

/-- Where no entry is a directory, a walk shows their names. -/
theorem linesDown_of_files {indent : Text} {k : Nat}
    (h : ∀ e ∈ d.entries root, e.isDirectory = false) :
    d.linesDown indent k [] root = (d.entries root).map Entry.name := by
  have hlabel : ∀ e ∈ d.entries root, e.label = e.name := fun e he => by
    rw [Entry.label, h e he, if_neg Bool.false_ne_true]
  cases k with
  | zero => exact List.map_congr_left hlabel
  | succ k =>
    rw [linesDown, List.map_eq_flatMap]
    refine List.flatMap_congr fun e he => ?_
    rw [h e he, if_neg Bool.false_ne_true, hlabel e he]
    rfl

theorem slash_mem_unlines_linesDown (indent : Text) (k : Nat) {e : Entry}
    (he : e ∈ d.entries root) (hdir : e.isDirectory = true) :
    '/' ∈ Text.unlines (d.linesDown indent k [] root) := by
  have hline : [] ++ e.label ∈ d.linesDown indent k [] root := by
    cases k with
    | zero => exact List.mem_map_of_mem he
    | succ k => exact List.mem_flatMap.mpr ⟨e, he, List.mem_cons_self ..⟩
  refine Text.mem_unlines hline ?_
  rw [Entry.label, hdir]
  simp

theorem walkText_eq_missingText_iff {depth : Int} :
    d.walkText treeIndent depth root = missingText ↔ d.SpellsRefusal depth root := by
  have hne : missingText ≠ [] := by
    rw [missingText_eq]
    exact List.cons_ne_nil _ _
  cases depth with
  | negSucc k => exact ⟨fun h => absurd h.symm hne, fun h => absurd h.listed (by simp)⟩
  | ofNat k =>
    have hdepth : 0 ≤ Int.ofNat k := Int.natCast_nonneg k
    rw [walkText, walkLines]
    by_cases hfiles : ∀ e ∈ d.entries root, e.isDirectory = false
    · have hline : '\n' ∉ missingText := by
        rw [missingText_eq]
        decide
      rw [linesDown_of_files hfiles, Text.trim_unlines_eq_iff hne hline]
      exact ⟨fun h => ⟨hdepth, hfiles, h⟩, SpellsRefusal.name⟩
    · refine ⟨fun h => ?_, fun h => absurd h.files hfiles⟩
      push Not at hfiles
      obtain ⟨e, he, hdir⟩ := hfiles
      have hmem := slash_mem_unlines_linesDown treeIndent k he
        (Bool.eq_true_of_not_eq_false hdir)
      rw [← Text.mem_trim (by decide), h, missingText_eq] at hmem
      exact absurd hmem (by decide)

theorem head?_missingText : missingText.head? = some '\x7b' := by
  decide +kernel

theorem head?_renderMarkdown (root tree : Text) : (renderMarkdown root tree).head? = some '#' := by
  have hmark : "## Directory Tree: ".toList.head? = some '#' := by decide +kernel
  unfold renderMarkdown
  simp only [List.head?_append, hmark, Option.some_or]

theorem toolText_dirTree_eq_iff {reason : PathRejection} {depth : Int} {format : TreeFormat}
    (h : d.rejection? path = some reason) (h' : d'.rejection? path = none) :
    Answer.toolText (d.dirTree path depth format) =
        Answer.toolText (d'.dirTree path depth format) ↔
      format = .text ∧ d'.SpellsRefusal depth path.utf8 := by
  have hmissing : Answer.toolText (d.dirTree path depth format) = missingText := by
    rw [(d.dirTree_eq_iff path).mpr h, rejection_eq_missing h h', missingText]
  rw [hmissing, ← walkText_eq_missingText_iff]
  simp only [dirTree, h']
  cases format with
  | text => exact ⟨fun he => ⟨rfl, he.symm⟩, fun he => he.2.symm⟩
  | json =>
    refine ⟨fun he => ?_, fun he => absurd he.1 (by decide)⟩
    have hhead : Option.some '\x7b' = some '[' := head?_missingText.symm.trans (congrArg _ he)
    exact absurd hhead (by decide)
  | markdown =>
    refine ⟨fun he => ?_, fun he => absurd he.1 (by decide)⟩
    have hhead : Option.some '\x7b' = some '#' :=
      (head?_missingText.symm.trans (congrArg _ he)).trans (head?_renderMarkdown _ _)
    exact absurd hhead (by decide)

end Disk

/-! ### Calls -/

namespace ToolCall

/-- Whether a call has no result for a path on a disk. -/
def FailsFor (d : Disk) (r : Python.Reader) (path : Text) : ToolCall → Prop
  | .dirTree root _ _ => root = path ∧ ∃ reason, d.rejection? path = some reason
  | .pythonOutline paths => path ∈ paths ∧ ∃ f, d.pythonOutlineAt r path = .error f
  | .markdownOutline paths => path ∈ paths ∧ ∃ f, d.headingsAt path = .error f

/-- Whether a call has a result for a path on a disk. -/
def SucceedsFor (d : Disk) (r : Python.Reader) (path : Text) : ToolCall → Prop
  | .dirTree root _ _ => root = path ∧ d.rejection? path = none
  | .pythonOutline paths => path ∈ paths ∧ ∃ o, d.pythonOutlineAt r path = .ok o
  | .markdownOutline paths => path ∈ paths ∧ ∃ hs, d.headingsAt path = .ok hs

end ToolCall

namespace Disk

variable {d d' : Disk} {r : Python.Reader} {path : Text}

theorem toolText_run_eq_iff {call : ToolCall} (h : call.FailsFor d r path)
    (h' : call.SucceedsFor d' r path) :
    Answer.toolText (call.run d r) = Answer.toolText (call.run d' r) ↔
      ∃ depth, call = .dirTree path depth .text ∧ d'.SpellsRefusal depth path.utf8 := by
  cases call with
  | dirTree root depth format =>
    obtain ⟨rfl, reason, hr⟩ := h
    rw [ToolCall.run, ToolCall.run, toolText_dirTree_eq_iff hr h'.2]
    constructor
    · rintro ⟨rfl, hspelled⟩
      exact ⟨depth, rfl, hspelled⟩
    · rintro ⟨_, hcall, hspelled⟩
      cases hcall
      exact ⟨rfl, hspelled⟩
  | pythonOutline paths =>
    obtain ⟨hp, f, hf⟩ := h
    obtain ⟨-, o, ho⟩ := h'
    have hne := render_collect_ne (isExact_pythonReport d r) (isExact_pythonReport d' r) hp
      (pythonReport_ne hf ho)
    exact ⟨fun he => absurd he hne, fun ⟨_, hcall, _⟩ => nomatch hcall⟩
  | markdownOutline paths =>
    obtain ⟨hp, f, hf⟩ := h
    obtain ⟨-, hs, ho⟩ := h'
    have hne := render_collect_ne (isExact_markdownReport d) (isExact_markdownReport d') hp
      (markdownReport_ne hf ho)
    exact ⟨fun he => absurd he hne, fun ⟨_, hcall, _⟩ => nomatch hcall⟩

/-- A call whose arguments can be decoded is answered with the text of what the tool returns. -/
theorem answer_callTool (d : Disk) (r : Python.Reader) {name : Text}
    {arguments : List (Text × Json)} {tool : Tool} {call : ToolCall}
    (htool : Tool.ofName? name = some tool) (hcall : ToolCall.decode tool arguments = .ok call) :
    d.answer r (.callTool name arguments) = .ofToolText false (Answer.toolText (call.run d r)) := by
  rw [answer, Answer.ofCall, htool]
  simp only [hcall]

/-- A call that fails for a path on one disk and succeeds for it on another is answered with a text
on both. The texts are the same only for a tree in the text format, of a directory that spells the
refusal of a missing path. -/
theorem answer_eq_iff_spellsRefusal {name : Text} {arguments : List (Text × Json)} {tool : Tool}
    {call : ToolCall} (htool : Tool.ofName? name = some tool)
    (hcall : ToolCall.decode tool arguments = .ok call) (h : call.FailsFor d r path)
    (h' : call.SucceedsFor d' r path) :
    ∃ t t', d.answer r (.callTool name arguments) = .ofToolText false t ∧
      d'.answer r (.callTool name arguments) = .ofToolText false t' ∧
      (t = t' ↔ ∃ depth, call = .dirTree path depth .text ∧ d'.SpellsRefusal depth path.utf8) :=
  ⟨_, _, d.answer_callTool r htool hcall, d'.answer_callTool r htool hcall,
    toolText_run_eq_iff h h'⟩

/-- A directory with one file has a tree whose text is not that of the refusal which the empty
disk answers with. -/
theorem answer_eq_iff_spellsRefusal_file :
    let path := ['/', 't']
    let top : Name := ⟨Text.utf8 ['t'], by decide⟩
    let d := (empty.put [top] (.directory true true)).put
      [⟨Text.utf8 ['a'], by decide⟩, top] (.file true ByteArray.empty)
    let r := Python.Reader.standard
    let call := ToolCall.dirTree path 1 .text
    let arguments := [("root_path".toList, Json.str path)]
    ToolCall.decode .dirTree arguments = .ok call ∧ call.FailsFor empty r path ∧
      call.SucceedsFor d r path ∧
      ∃ t t', empty.answer r (.callTool "dir_tree".toList arguments) = .ofToolText false t ∧
        d.answer r (.callTool "dir_tree".toList arguments) = .ofToolText false t' ∧
        (t = t' ↔
          ∃ depth, call = .dirTree path depth .text ∧ d.SpellsRefusal depth (Text.utf8 path)) := by
  intro path top d r call arguments
  have htool : Tool.ofName? "dir_tree".toList = some .dirTree := by decide +kernel
  have hcall : ToolCall.decode .dirTree arguments = .ok call := by cbv
  have h : call.FailsFor empty r path := ⟨rfl, .missing, by cbv⟩
  have h' : call.SucceedsFor d r path := ⟨rfl, by cbv⟩
  exact ⟨hcall, h, h', answer_eq_iff_spellsRefusal htool hcall h h'⟩

/-- A directory whose only file has the text of a refusal as its name is answered like a path
that does not exist. -/
theorem answer_eq_of_spelled_refusal :
    let path := ['/', 't']
    let top : Name := ⟨Text.utf8 ['t'], by decide⟩
    let d := (empty.put [top] (.directory true true)).put
      [missingName, top] (.file true ByteArray.empty)
    let r := Python.Reader.standard
    let call := ToolCall.dirTree path 1 .text
    let arguments := [("root_path".toList, Json.str path)]
    ToolCall.decode .dirTree arguments = .ok call ∧ call.FailsFor empty r path ∧
      call.SucceedsFor d r path ∧
      empty.answer r (.callTool "dir_tree".toList arguments) =
        d.answer r (.callTool "dir_tree".toList arguments) := by
  intro path top d r call arguments
  have htool : Tool.ofName? "dir_tree".toList = some .dirTree := by decide +kernel
  have hcall : ToolCall.decode .dirTree arguments = .ok call := by cbv
  have h : call.FailsFor empty r path := ⟨rfl, .missing, by cbv⟩
  have h' : call.SucceedsFor d r path := ⟨rfl, by cbv⟩
  have hentries : d.entries (Text.utf8 path) =
      [⟨missingName.bytes, joinPath (Text.utf8 path) missingName.bytes, false⟩] := by
    cbv
  have hspelled : d.SpellsRefusal 1 (Text.utf8 path) := by
    refine ⟨by decide, by simp [hentries], ?_⟩
    rw [hentries]
    decide +kernel
  refine ⟨hcall, h, h', ?_⟩
  rw [empty.answer_callTool r htool hcall, d.answer_callTool r htool hcall,
    (toolText_run_eq_iff h h').mpr ⟨1, rfl, hspelled⟩]

end Disk

end CodeAtlas
