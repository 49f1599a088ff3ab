import CodeAtlas.Explorer.Operation
import CodeAtlas.Proofs.Basic
import CodeAtlas.Python.Recovery

/-!
# Reading an outline back from its pruned value

Pruning takes members without content out of the value of an outline, but no entry: every entry has
a line, and a line is never empty. A member that is missing had no content, and as no docstring is
the empty text, that says what it was. So an outline can be read back from its pruned value
(`ofPruned_prune`), and different outlines have different pruned values (`eq_of_prune_toJson_eq`).
-/

namespace CodeAtlas

/-! ### Members of a pruned object -/

namespace Json

/-- What pruning leaves of the value of a member; `none` when the member goes. -/
def kept? (v : Json) : Option Json := if isEmpty (prune v) then none else some (prune v)

theorem find?_eq_none {key : Text} {ms : List (Text × Json)} (h : key ∉ ms.map Prod.fst) :
    find? key ms = none := by
  induction ms with
  | nil => rfl
  | cons m ms ih =>
    obtain ⟨hm, hms⟩ := not_or.mp fun hc => h (List.mem_cons.mpr hc)
    rw [find?, if_neg (Ne.symm hm), ih hms]

/-- Where no key occurs twice, pruning treats each member on its own. -/
theorem find?_pruneMembers {ms : List (Text × Json)} (h : (ms.map Prod.fst).Nodup) (key : Text) :
    find? key (pruneMembers ms) = (find? key ms).bind kept? := by
  induction ms with
  | nil => rfl
  | cons m ms ih =>
    obtain ⟨k, v⟩ := m
    obtain ⟨hk, hms⟩ := List.nodup_cons.mp h
    rw [pruneMembers, find?]
    by_cases hkey : k = key
    · subst hkey
      rw [if_pos rfl, Option.bind_some, kept?]
      split
      · rw [ih hms, find?_eq_none hk, Option.bind_none]
      · rw [find?, if_pos rfl]
    · rw [if_neg hkey]
      split
      · exact ih hms
      · rw [find?, if_neg hkey, ih hms]

theorem find?_ofMembers (key : String) (ms : List (String × Json)) :
    find? key.toList (ms.map fun m => (m.1.toList, m.2)) = ms.lookup key := by
  induction ms with
  | nil => rfl
  | cons m ms ih =>
    rw [List.map_cons, find?, ih, List.lookup_cons]
    by_cases h : m.1 = key
    · simp [h]
    · have hb : (key == m.1) = false := beq_false_of_ne (Ne.symm h)
      rw [if_neg fun hl => h (String.toList_inj.mp hl), hb]

/-- What is left of the member with a given key. -/
theorem field?_prune {ms : List (String × Json)} {key : String} {v : Json}
    (h : (ms.map Prod.fst).Nodup) (hv : ms.lookup key = some v) :
    (prune (.ofMembers ms)).field? key = kept? v := by
  have hn : ((ms.map fun m => (m.1.toList, m.2)).map Prod.fst).Nodup := by
    rw [List.map_map]
    rw [List.Nodup, List.pairwise_map] at h ⊢
    exact h.imp fun hne hl => hne (String.toList_inj.mp hl)
  rw [ofMembers, prune, field?, find?_pruneMembers hn, find?_ofMembers, hv, Option.bind_some]

/-- What has a member is not empty. -/
theorem isEmpty_of_field? {key : String} {j v : Json} (h : j.field? key = some v) :
    isEmpty j = false := by
  cases j with
  | obj ms =>
    cases ms with
    | nil => cases h
    | cons m ms => rfl
  | null | bool | num | str | arr => cases h

/-! ### Arrays that lose no element -/

/-- Whether an array with the given elements is somewhere in a value. -/
inductive HasArray : Json → List Json → Prop where
  /-- The value is the array. -/
  | here {es : List Json} : HasArray (.arr es) es
  /-- The array is in an element. -/
  | element {es fs : List Json} {e : Json} : e ∈ es → HasArray e fs → HasArray (.arr es) fs
  /-- The array is in a member. -/
  | member {ms : List (Text × Json)} {fs : List Json} {m : Text × Json} :
      m ∈ ms → HasArray m.2 fs → HasArray (.obj ms) fs

/-- Whether pruning keeps all elements of each array in a value, in order, and only prunes what is
in them. -/
def KeepsElements (v : Json) : Prop :=
  ∀ es, HasArray v es → prune (.arr es) = .arr (es.map prune)

/-- Elements of which none gets empty all stay. -/
theorem pruneElements_eq_map {es : List Json} (h : ∀ e ∈ es, isEmpty (prune e) = false) :
    pruneElements es = es.map prune := by
  induction es with
  | nil => rfl
  | cons e es ih =>
    have he : isEmpty (prune e) ≠ true := by simp [h e (List.mem_cons_self ..)]
    rw [pruneElements, if_neg he, ih fun x hx => h x (List.mem_cons_of_mem e hx), List.map_cons]

theorem KeepsElements.arr {es : List Json} (hne : ∀ e ∈ es, isEmpty (prune e) = false)
    (h : ∀ e ∈ es, KeepsElements e) : KeepsElements (.arr es) := by
  intro fs hfs
  cases hfs with
  | here => rw [prune, pruneElements_eq_map hne]
  | element he hfs => exact h _ he fs hfs

theorem KeepsElements.arrMap {α : Type} {toJson : α → Json} {as : List α}
    (hne : ∀ a, isEmpty (prune (toJson a)) = false) (h : ∀ a, KeepsElements (toJson a)) :
    KeepsElements (.arr (as.map toJson)) := by
  refine KeepsElements.arr (fun e he => ?_) fun e he => ?_
  · obtain ⟨a, -, rfl⟩ := List.mem_map.mp he
    exact hne a
  · obtain ⟨a, -, rfl⟩ := List.mem_map.mp he
    exact h a

theorem KeepsElements.ofMembers {ms : List (String × Json)} (h : ∀ m ∈ ms, KeepsElements m.2) :
    KeepsElements (.ofMembers ms) := by
  intro fs hfs
  cases hfs with
  | member hm hfs =>
    obtain ⟨m, hmem, rfl⟩ := List.mem_map.mp hm
    exact h m hmem fs hfs

theorem KeepsElements.ofString (s : Text) : KeepsElements (.str s) := nofun

theorem KeepsElements.ofNat (n : Nat) : KeepsElements (.ofNat n) := nofun

theorem KeepsElements.ofText? (t : Option Text) : KeepsElements (.ofText? t) := by
  cases t <;> exact nofun

/-! ### Reading members back -/

/-- The text that a member holds. -/
def text? : Option Json → Option Text
  | some (.str s) => some s
  | _ => none

/-- The number that a member holds. -/
def nat : Option Json → Nat
  | some (.num (.int n)) => n.toNat
  | _ => 0

/-- The elements that a member holds; none if it is missing. -/
def elements : Option Json → List Json
  | some (.arr es) => es
  | _ => []

theorem text?_kept?_ofText? {t : Option Text} (h : t ≠ some []) :
    text? (kept? (ofText? t)) = t := by
  cases t with
  | none => rfl
  | some s =>
    cases s with
    | nil => exact absurd rfl h
    | cons c s => rfl

theorem text?_kept?_str (s : Text) : (text? (kept? (.str s))).getD [] = s := by
  cases s <;> rfl

theorem nat_kept?_ofNat (n : Nat) : nat (kept? (ofNat n)) = n := rfl

theorem elements_kept?_arr {es : List Json} (h : ∀ e ∈ es, isEmpty (prune e) = false) :
    elements (kept? (.arr es)) = es.map prune := by
  rw [kept?, prune, pruneElements_eq_map h]
  cases es <;> rfl

/-- Elements that can be read back one by one can be read back together. -/
theorem map_elements_kept?_arr {α : Type} {toJson : α → Json} {ofJson : Json → α} {as : List α}
    (hne : ∀ a, isEmpty (prune (toJson a)) = false) (h : ∀ a ∈ as, ofJson (prune (toJson a)) = a) :
    (elements (kept? (.arr (as.map toJson)))).map ofJson = as := by
  have he : ∀ e ∈ as.map toJson, isEmpty (prune e) = false := by
    intro e he
    obtain ⟨a, -, rfl⟩ := List.mem_map.mp he
    exact hne a
  rw [elements_kept?_arr he, List.map_map, List.map_map]
  exact (List.map_congr_left h).trans (List.map_id as)

end Json

/-! ### Entries -/

namespace Python

/-- The imported name that a pruned value says. -/
def ImportEntry.ofPruned (j : Json) : ImportEntry :=
  ⟨(Json.text? (j.field? "name")).getD [], Json.nat (j.field? "line")⟩

/-- The function that a pruned value says. -/
def FunctionEntry.ofPruned (j : Json) : FunctionEntry :=
  ⟨(Json.text? (j.field? "name")).getD [], Json.nat (j.field? "line"),
    Json.text? (j.field? "docstring")⟩

/-- The class that a pruned value says. -/
def ClassEntry.ofPruned (j : Json) : ClassEntry :=
  ⟨(Json.text? (j.field? "name")).getD [], Json.nat (j.field? "line"),
    Json.text? (j.field? "docstring"),
    (Json.elements (j.field? "methods")).map FunctionEntry.ofPruned⟩

/-- The outline that a pruned value says. -/
def Outline.ofPruned (j : Json) : Outline :=
  ⟨Json.text? (j.field? "docstring"),
    (Json.elements (j.field? "imports")).map ImportEntry.ofPruned,
    (Json.elements (j.field? "classes")).map ClassEntry.ofPruned,
    (Json.elements (j.field? "functions")).map FunctionEntry.ofPruned⟩

/-- Whether no docstring of a class or of its methods is the empty text. -/
def ClassEntry.IsDocumented (c : ClassEntry) : Prop :=
  c.docstring ≠ some [] ∧ ∀ f ∈ c.methods, f.docstring ≠ some []

/-- Whether no docstring in an outline is the empty text. -/
structure Outline.IsDocumented (o : Outline) : Prop where
  /-- Not that of the module. -/
  module : o.docstring ≠ some []
  /-- Not that of a class or a method. -/
  classes : ∀ c ∈ o.classes, c.IsDocumented
  /-- Not that of a function. -/
  functions : ∀ f ∈ o.functions, f.docstring ≠ some []

namespace ImportEntry

theorem field?_line (i : ImportEntry) :
    (Json.prune i.toJson).field? "line" = Json.kept? (.ofNat i.line) :=
  Json.field?_prune (by simp) (by simp [List.lookup_cons])

theorem isEmpty_prune (i : ImportEntry) : Json.isEmpty (Json.prune i.toJson) = false :=
  Json.isEmpty_of_field? i.field?_line

theorem keepsElements (i : ImportEntry) : Json.KeepsElements i.toJson := by
  refine Json.KeepsElements.ofMembers fun m hm => ?_
  simp only [List.mem_cons, List.not_mem_nil, or_false] at hm
  rcases hm with rfl | rfl
  · exact .ofString _
  · exact .ofNat _

theorem ofPruned_prune (i : ImportEntry) : ofPruned (Json.prune i.toJson) = i := by
  have hname : (Json.prune i.toJson).field? "name" = Json.kept? (.str i.name) :=
    Json.field?_prune (by simp) (by simp)
  rw [ofPruned, hname, i.field?_line, Json.text?_kept?_str, Json.nat_kept?_ofNat]

end ImportEntry

namespace FunctionEntry

theorem field?_line (f : FunctionEntry) :
    (Json.prune f.toJson).field? "line" = Json.kept? (.ofNat f.line) :=
  Json.field?_prune (by simp) (by simp [List.lookup_cons])

theorem isEmpty_prune (f : FunctionEntry) : Json.isEmpty (Json.prune f.toJson) = false :=
  Json.isEmpty_of_field? f.field?_line

theorem keepsElements (f : FunctionEntry) : Json.KeepsElements f.toJson := by
  refine Json.KeepsElements.ofMembers fun m hm => ?_
  simp only [List.mem_cons, List.not_mem_nil, or_false] at hm
  rcases hm with rfl | rfl | rfl
  · exact .ofString _
  · exact .ofNat _
  · exact .ofText? _

theorem ofPruned_prune {f : FunctionEntry} (h : f.docstring ≠ some []) :
    ofPruned (Json.prune f.toJson) = f := by
  have hname : (Json.prune f.toJson).field? "name" = Json.kept? (.str f.name) :=
    Json.field?_prune (by simp) (by simp)
  have hdoc : (Json.prune f.toJson).field? "docstring" = Json.kept? (.ofText? f.docstring) :=
    Json.field?_prune (by simp) (by simp [List.lookup_cons])
  rw [ofPruned, hname, f.field?_line, hdoc, Json.text?_kept?_str, Json.nat_kept?_ofNat,
    Json.text?_kept?_ofText? h]

end FunctionEntry

namespace ClassEntry

theorem field?_line (c : ClassEntry) :
    (Json.prune c.toJson).field? "line" = Json.kept? (.ofNat c.line) :=
  Json.field?_prune (by simp) (by simp [List.lookup_cons])

theorem isEmpty_prune (c : ClassEntry) : Json.isEmpty (Json.prune c.toJson) = false :=
  Json.isEmpty_of_field? c.field?_line

theorem keepsElements (c : ClassEntry) : Json.KeepsElements c.toJson := by
  refine Json.KeepsElements.ofMembers fun m hm => ?_
  simp only [List.mem_cons, List.not_mem_nil, or_false] at hm
  rcases hm with rfl | rfl | rfl | rfl
  · exact .ofString _
  · exact .ofNat _
  · exact .ofText? _
  · exact .arrMap FunctionEntry.isEmpty_prune FunctionEntry.keepsElements

theorem ofPruned_prune {c : ClassEntry} (h : c.IsDocumented) :
    ofPruned (Json.prune c.toJson) = c := by
  have hname : (Json.prune c.toJson).field? "name" = Json.kept? (.str c.name) :=
    Json.field?_prune (by simp) (by simp)
  have hdoc : (Json.prune c.toJson).field? "docstring" = Json.kept? (.ofText? c.docstring) :=
    Json.field?_prune (by simp) (by simp [List.lookup_cons])
  have hmethods : (Json.prune c.toJson).field? "methods" =
      Json.kept? (.arr (c.methods.map FunctionEntry.toJson)) :=
    Json.field?_prune (by simp) (by simp [List.lookup_cons])
  have hm := Json.map_elements_kept?_arr FunctionEntry.isEmpty_prune
    fun f hf => FunctionEntry.ofPruned_prune (h.2 f hf)
  rw [ofPruned, hname, c.field?_line, hdoc, hmethods, Json.text?_kept?_str, Json.nat_kept?_ofNat,
    Json.text?_kept?_ofText? h.1, hm]

end ClassEntry

/-! ### Outlines -/

namespace Outline

theorem keepsElements (o : Outline) : Json.KeepsElements o.toJson := by
  refine Json.KeepsElements.ofMembers fun m hm => ?_
  simp only [List.mem_cons, List.not_mem_nil, or_false] at hm
  rcases hm with rfl | rfl | rfl | rfl
  · exact .ofText? _
  · exact .arrMap ImportEntry.isEmpty_prune ImportEntry.keepsElements
  · exact .arrMap ClassEntry.isEmpty_prune ClassEntry.keepsElements
  · exact .arrMap FunctionEntry.isEmpty_prune FunctionEntry.keepsElements

/-- An outline without empty docstrings can be read back from its pruned value. -/
theorem ofPruned_prune {o : Outline} (h : o.IsDocumented) : ofPruned (Json.prune o.toJson) = o := by
  have hdoc : (Json.prune o.toJson).field? "docstring" = Json.kept? (.ofText? o.docstring) :=
    Json.field?_prune (by simp) (by simp)
  have himports : (Json.prune o.toJson).field? "imports" =
      Json.kept? (.arr (o.imports.map ImportEntry.toJson)) :=
    Json.field?_prune (by simp) (by simp [List.lookup_cons])
  have hclasses : (Json.prune o.toJson).field? "classes" =
      Json.kept? (.arr (o.classes.map ClassEntry.toJson)) :=
    Json.field?_prune (by simp) (by simp [List.lookup_cons])
  have hfunctions : (Json.prune o.toJson).field? "functions" =
      Json.kept? (.arr (o.functions.map FunctionEntry.toJson)) :=
    Json.field?_prune (by simp) (by simp [List.lookup_cons])
  have hi := Json.map_elements_kept?_arr ImportEntry.isEmpty_prune
    fun i (_ : i ∈ o.imports) => i.ofPruned_prune
  have hc := Json.map_elements_kept?_arr ClassEntry.isEmpty_prune
    fun c hc => ClassEntry.ofPruned_prune (h.classes c hc)
  have hf := Json.map_elements_kept?_arr FunctionEntry.isEmpty_prune
    fun f hf => FunctionEntry.ofPruned_prune (h.functions f hf)
  rw [ofPruned, hdoc, himports, hclasses, hfunctions, Json.text?_kept?_ofText? h.module, hi, hc, hf]

end Outline

/-! ### Docstrings are not empty -/

namespace Suite

variable {names : Docstring.CharacterNames}

theorem docstring_ne (m : Suite) : m.docstring names ≠ some [] := by
  intro h
  unfold docstring at h
  split at h
  · exact Docstring.ofLiterals?_ne_nil h rfl
  · cases h

theorem docstring_functions_ne (m : Suite) : ∀ f ∈ m.functions names, f.docstring ≠ some [] := by
  induction m with
  | nil => exact fun f hf => absurd hf List.not_mem_nil
  | simple s next ih => exact ih
  | define line kind name body next ihb ihn =>
    cases kind with
    | functionDef =>
      intro f hf
      rcases List.mem_cons.mp hf with rfl | hf
      · exact body.docstring_ne
      · exact ihn f hf
    | classDef => exact ihn
  | block body next ihb ihn => exact ihn

theorem isDocumented_classes (m : Suite) : ∀ c ∈ m.classes names, c.IsDocumented := by
  induction m with
  | nil => exact fun c hc => absurd hc List.not_mem_nil
  | simple s next ih => exact ih
  | define line kind name body next ihb ihn =>
    cases kind with
    | functionDef => exact ihn
    | classDef =>
      intro c hc
      rcases List.mem_cons.mp hc with rfl | hc
      · exact ⟨body.docstring_ne, body.docstring_functions_ne⟩
      · exact ihn c hc
  | block body next ihb ihn => exact ihn

theorem isDocumented_outline (m : Suite) : (m.outline names).IsDocumented :=
  ⟨m.docstring_ne, m.isDocumented_classes, m.docstring_functions_ne⟩

end Suite

namespace Outline

variable {r : Reader}

theorem isDocumented_of_ofText {s : Text} {o : Outline} (h : ofText r s = .ok o) :
    o.IsDocumented := by
  unfold ofText at h
  split at h
  · cases h
  · next m _ =>
    split at h
    · cases h
    · cases h
      exact m.isDocumented_outline

/-- Programs whose outlines have the same pruned value have the same outline, and pruning keeps all
entries: every array in the value of an outline, at whatever depth, keeps its elements in order,
each pruned. -/
theorem eq_of_prune_toJson_eq {s t : Text} {o p : Outline} (hs : ofText r s = .ok o)
    (ht : ofText r t = .ok p) (h : Json.prune o.toJson = Json.prune p.toJson) :
    o = p ∧ o.toJson.KeepsElements := by
  refine ⟨?_, o.keepsElements⟩
  rw [← ofPruned_prune (isDocumented_of_ofText hs), h, ofPruned_prune (isDocumented_of_ofText ht)]

/-- A method with its docstring on its own line, and in two lines between other quotes. -/
theorem eq_of_prune_toJson_eq_spellings :
    let r := Reader.standard
    ∃ o p : Outline, ofText r "class A:\n  def f(self): 'x'\n".toList = .ok o ∧
      ofText r "class A:\n  def f(self):\n    \"x\"\n".toList = .ok p ∧
      Json.prune o.toJson = Json.prune p.toJson ∧ o = p ∧ o.toJson.KeepsElements := by
  intro r
  have hs : ofText r "class A:\n  def f(self): 'x'\n".toList =
      .ok ⟨none, [], [⟨['A'], 1, none, [⟨['f'], 2, some ['x']⟩]⟩], []⟩ :=
    eq_ok_of_toOption (by decide +kernel)
  have ht : ofText r "class A:\n  def f(self):\n    \"x\"\n".toList =
      .ok ⟨none, [], [⟨['A'], 1, none, [⟨['f'], 2, some ['x']⟩]⟩], []⟩ :=
    eq_ok_of_toOption (by decide +kernel)
  exact ⟨_, _, hs, ht, rfl, eq_of_prune_toJson_eq hs ht rfl⟩

end Outline

end Python

end CodeAtlas
