import CodeAtlas.Proofs.Script.Reading
import CodeAtlas.Python.Statement

/-!
# What a printed import imports

The tokens of an import statement are accepted by the recognizer of imports, and the names read
off them are those that the statement reports (`read_importing`). Acceptance is followed state
by state with `Recognizer.run?`; the names are found piece by piece between the commas.
-/

namespace CodeAtlas.Python

variable {line : Nat}

/-! ### Runs of a recognizer -/

namespace Recognizer

variable {α : Type} (m : Recognizer α) {q q' : m.State} {as bs : List α}

/-- The state after some symbols, unless one of them is refused. -/
def run? (q : m.State) (as : List α) : Option m.State := as.foldlM m.step q

theorem run?_cons {a : α} (h : m.step q a = some q') : m.run? q (a :: as) = m.run? q' as := by
  rw [run?, List.foldlM_cons, h]
  rfl

theorem run?_append (h : m.run? q as = some q') : m.run? q (as ++ bs) = m.run? q' bs := by
  rw [run?] at h
  rw [run?, List.foldlM_append, h]
  rfl

/-- Symbols that lead to a final state are accepted. -/
theorem stuckAt_eq_none (h : m.run? q as = some q') (hq : m.final q' = true) :
    m.stuckAt q as = none := by
  induction as generalizing q with
  | nil =>
    obtain rfl : q = q' := Option.some.inj h
    rw [stuckAt, if_pos hq]
  | cons a as ih =>
    cases hs : m.step q a with
    | none =>
      rw [run?, List.foldlM_cons, hs] at h
      cases h
    | some p =>
      rw [m.run?_cons hs] at h
      simp [stuckAt, hs, ih h]

/-- A symbol that every state refuses occurs in nothing that is accepted. -/
theorem not_mem_of_stuckAt {a : α} (ha : ∀ q, m.step q a = none) (h : m.stuckAt q as = none) :
    a ∉ as := by
  induction as generalizing q with
  | nil => exact List.not_mem_nil
  | cons b bs ih =>
    rw [stuckAt] at h
    cases hs : m.step q b with
    | none => simp [hs] at h
    | some p =>
      rw [hs] at h
      have hb : a ≠ b := by rintro rfl; simp [ha] at hs
      exact fun hm => (List.mem_cons.mp hm).elim hb (ih (Option.map_eq_none_iff.mp h))

end Recognizer

/-! ### Accepted imports -/

namespace Import

/-- The state after a name that a list of imports may end with. -/
def EndsName (q : State) : Prop := q = .named false ∨ q = .aliased false

theorem EndsName.final {q : State} (h : EndsName q) : recognizer.final q = true := by
  rcases h with rfl | rfl <;> rfl

theorem EndsName.comma {q : State} (h : EndsName q) :
    recognizer.step q (.mark .comma) = some (.name true false) := by
  rcases h with rfl | rfl <;> rfl

/-- A state in which the next token may be the first of a name outside of brackets. -/
def TakesName (q : State) : Prop := ∀ w, recognizer.step q (.name w) = some (.named false)

/-- The further parts of a dotted name lead back to the state after a name. -/
theorem run?_dotted (ns : List PlainName) :
    recognizer.run? (.named false) (partToks ns) = some (.named false) := by
  induction ns with
  | nil => rfl
  | cons n ns ih => exact ih

theorem run?_imported {q : State} (hq : TakesName q) (i : Imported) :
    ∃ q', recognizer.run? q i.toks = some q' ∧ EndsName q' := by
  obtain ⟨name, alias?⟩ := i
  have hname : recognizer.run? q name.toks = some (.named false) :=
    (recognizer.run?_cons (hq _)).trans (run?_dotted name.others)
  cases alias? with
  | none => exact ⟨.named false, recognizer.run?_append hname, .inl rfl⟩
  | some a => exact ⟨.aliased false, recognizer.run?_append hname, .inr rfl⟩

theorem run?_importedToks {q : State} (hq : TakesName q) (names : Series Imported) :
    ∃ q', recognizer.run? q (importedToks names) = some q' ∧ EndsName q' := by
  obtain ⟨i, is⟩ := names
  obtain ⟨q₁, hr, he⟩ := run?_imported hq i
  rw [importedToks, recognizer.run?_append hr]
  clear hr
  induction is generalizing q₁ with
  | nil => exact ⟨q₁, rfl, he⟩
  | cons j js ih =>
    obtain ⟨q₂, hr, he'⟩ := run?_imported (q := .name true false) (fun _ => rfl) j
    obtain ⟨q₃, hr', he''⟩ := ih q₂ he'
    refine ⟨q₃, ?_, he''⟩
    rw [List.flatMap_cons, List.cons_append, recognizer.run?_cons he.comma,
      recognizer.run?_append hr, hr']

theorem plainStuckAt_importedToks (names : Series Imported) :
    plainStuckAt (importedToks names) = none := by
  obtain ⟨q, hr, he⟩ := run?_importedToks (q := .name false false) (fun _ => rfl) names
  exact recognizer.stuckAt_eq_none hr he.final

/-- Whether a token is part of the dots of a relative import. -/
def IsDots (t : Tok) : Prop := t = .mark .dot ∨ t = .mark .ellipsis

theorem isDots_of_mem_dotToks (n : Nat) : ∀ t ∈ dotToks n, IsDots t := by
  induction n using dotToks.induct with
  | case1 => simp [dotToks]
  | case2 => simp [dotToks, IsDots]
  | case3 => simp [dotToks, IsDots]
  | case4 n ih =>
    intro t ht
    rcases List.mem_cons.mp ht with rfl | ht
    · exact .inr rfl
    · exact ih t ht

theorem run?_dots {ts : List Tok} (h : ∀ t ∈ ts, IsDots t) :
    recognizer.run? .dots ts = some .dots := by
  induction ts with
  | nil => rfl
  | cons t ts ih =>
    have ht : recognizer.step .dots t = some .dots := by
      rcases h t (List.mem_cons_self ..) with rfl | rfl <;> rfl
    rw [recognizer.run?_cons ht]
    exact ih fun u hu => h u (List.mem_cons_of_mem t hu)

/-- After the dots, if there are any, comes a module, or `import` if there are some. -/
theorem run?_dotToks (n : Nat) :
    recognizer.run? .module (dotToks n) = some (if n = 0 then .module else .dots) := by
  have h := isDots_of_mem_dotToks n
  match n with
  | 0 => rfl
  | 1 => rfl
  | 2 => rfl
  | n + 3 => exact run?_dots fun t ht => h t (List.mem_cons_of_mem _ ht)

theorem ne_future (n : PlainName) : n.text ≠ future := by
  obtain ⟨_, _, _, _, _, hr⟩ := n.exists_cons
  exact fun h => hr (h ▸ List.mem_cons_self ..)

theorem run?_module (name : DottedName) (n : Nat) :
    recognizer.run? (if n = 0 then .module else .dots) name.toks = some (.moduleNamed false) := by
  have hrest (ns : List PlainName) :
      recognizer.run? (.moduleNamed false) (partToks ns) = some (.moduleNamed false) := by
    induction ns with
    | nil => rfl
    | cons n ns ih => exact ih
  have hfirst : recognizer.step (if n = 0 then .module else .dots) (.name name.first.text) =
      some (.moduleNamed false) := by
    cases n with
    | zero => simp [recognizer, step, Tok.word?, ne_future]
    | succ n => rfl
  exact (recognizer.run?_cons hfirst).trans (hrest name.others)

theorem run?_origin (o : Origin) :
    recognizer.run? .module (o.toks ++ [.keyword .importK]) = some (.names false) := by
  cases o with
  | module dots name =>
    rw [Origin.toks, List.append_assoc, recognizer.run?_append (run?_dotToks dots),
      recognizer.run?_append (run?_module name dots)]
    rfl
  | package more =>
    rw [Origin.toks, recognizer.run?_append (run?_dotToks (more + 1))]
    rfl

theorem fromStuckAt_namesFrom (o : Origin) (names : Series Imported) :
    fromStuckAt (o.toks ++ .keyword .importK :: importedToks names) = none := by
  obtain ⟨q, hr, he⟩ := run?_importedToks (q := .names false) (fun _ => rfl) names
  rw [List.append_cons]
  exact recognizer.stuckAt_eq_none ((recognizer.run?_append (run?_origin o)).trans hr) he.final

theorem fromStuckAt_allFrom (o : Origin) :
    fromStuckAt (o.toks ++ [.keyword .importK, .mark .star]) = none := by
  have hr : recognizer.run? .module ((o.toks ++ [.keyword .importK]) ++ [.mark .star]) =
      some .done := recognizer.run?_append (run?_origin o)
  rw [List.append_cons]
  exact recognizer.stuckAt_eq_none hr rfl

theorem fromStuckAt_future (names : Series Imported) :
    fromStuckAt (.name future :: .keyword .importK :: importedToks names) = none := by
  obtain ⟨q, hr, he⟩ := run?_importedToks (q := .names true) (fun _ => rfl) names
  exact recognizer.stuckAt_eq_none hr he.final

/-! ### The names of an import -/

theorem pieces_cons {α : Type} {p : α → Bool} {as bs : List α} {b : α}
    (h : ∀ a ∈ as, p a = false) (hb : p b = true) :
    pieces p (as ++ b :: bs) = as :: pieces p bs := by
  induction as with
  | nil => simp [pieces, hb]
  | cons a as ih =>
    have ih := ih fun x hx => h x (List.mem_cons_of_mem a hx)
    simp [pieces, h a (List.mem_cons_self ..), ih]

theorem pieces_single {α : Type} {p : α → Bool} {as : List α} (h : ∀ a ∈ as, p a = false) :
    pieces p as = [as] := by
  induction as with
  | nil => rfl
  | cons a as ih =>
    have ih := ih fun x hx => h x (List.mem_cons_of_mem a hx)
    simp [pieces, h a (List.mem_cons_self ..), ih]

/-- The parts of a dotted name end before a token that is no dot. -/
theorem dottedRest_toks (ns : List PlainName) {rest : List Tok}
    (hr : rest.head? ≠ some (.mark .dot)) :
    dottedRest ((partToks ns ++ rest).map (Tok.at line)) =
      (ns.map PlainName.text, rest.map (Tok.at line)) := by
  induction ns with
  | nil =>
    cases rest with
    | nil => rfl
    | cons t ts =>
      have ht : t ≠ .mark .dot := by simpa using hr
      cases ts <;> simp [dottedRest, ht]
  | cons n ns ih =>
    rw [List.map_append] at ih
    simp [dottedRest, Tok.word?, ih]

/-- A word with further parts after it is a dotted name. -/
theorem dotted?_word (w : Text) (ns : List PlainName) {rest : List Tok}
    (hr : rest.head? ≠ some (.mark .dot)) :
    dotted? ((.name w :: (partToks ns ++ rest)).map (Tok.at line)) =
      some (Text.join ['.'] (w :: ns.map PlainName.text), rest.map (Tok.at line)) := by
  rw [List.map_cons, dotted?, dottedRest_toks ns hr]
  rfl

theorem dotted?_imported (i : Imported) :
    dotted? (i.toks.map (Tok.at line)) =
      some (i.name.text, (aliasToks i.alias?).map (Tok.at line)) :=
  dotted?_word i.name.first.text i.name.others (by cases i.alias? <;> simp [aliasToks])

theorem not_comma_of_mem_imported (i : Imported) :
    ∀ l ∈ i.toks.map (Tok.at line), (l.tok == .mark .comma) = false := by
  have hparts (ns : List PlainName) : ∀ t ∈ partToks ns, t ≠ .mark .comma := by
    induction ns with
    | nil => simp
    | cons n ns ih => simpa using ih
  have halias : ∀ t ∈ aliasToks i.alias?, t ≠ .mark .comma := by
    cases i.alias? <;> simp [aliasToks]
  intro l hl
  obtain ⟨t, ht, rfl⟩ := List.mem_map.mp hl
  refine beq_false_of_ne ?_
  rcases List.mem_append.mp ht with ht | ht
  · rcases List.mem_cons.mp ht with rfl | ht
    · simp
    · exact hparts i.name.others t ht
  · exact halias t ht

/-- The names in a list of imports are those between its commas. -/
theorem namesOf_importedToks (names : Series Imported) :
    namesOf ((importedToks names).map (Tok.at line)) = names.toList.map fun i => i.name.text := by
  obtain ⟨i, is⟩ := names
  simp only [importedToks, namesOf, Series.toList]
  induction is generalizing i with
  | nil =>
    rw [List.flatMap_nil, List.append_nil, pieces_single (not_comma_of_mem_imported i)]
    simp [dotted?_imported i]
  | cons j js ih =>
    rw [List.flatMap_cons, List.cons_append, List.map_append, List.map_cons,
      pieces_cons (not_comma_of_mem_imported i) rfl]
    simp only [List.filterMap_cons, dotted?_imported, ih j, List.map_cons, Option.map_some]

/-- The module that an origin names. -/
def moduleName? : Origin → Option Text
  | .module _ name => some name.text
  | .package _ => none

theorem qualify_moduleName? (o : Origin) (name : Text) :
    qualify (moduleName? o) name = o.qualify name := by
  cases o <;> rfl

theorem dropWhile_dotToks (n : Nat) {t : Tok} (ht : ¬ IsDots t) (ts : List Tok) :
    ((dotToks n ++ t :: ts).map (Tok.at line)).dropWhile
        (fun l => l.tok == .mark .dot || l.tok == .mark .ellipsis) =
      (t :: ts).map (Tok.at line) := by
  rw [List.map_append, List.dropWhile_append_of_pos]
  · refine List.dropWhile_cons_of_neg ?_
    simpa [IsDots] using ht
  · intro l hl
    obtain ⟨u, hu, rfl⟩ := List.mem_map.mp hl
    rcases isDots_of_mem_dotToks n u hu with rfl | rfl <;> rfl

theorem length_dotToks_pos (n : Nat) : 0 < (dotToks (n + 1)).length := by
  match n with
  | 0 | 1 | n + 2 => simp [dotToks]

/-- The module before `import` is the word there with its further parts. -/
theorem moduleOf_word (dots : Nat) (w : Text) (ns : List PlainName) (ts : List Tok) :
    moduleOf ((dotToks dots ++ .name w :: (partToks ns ++ .keyword .importK :: ts)).map
        (Tok.at line)) =
      (some (Text.join ['.'] (w :: ns.map PlainName.text)), ts.map (Tok.at line)) := by
  have hd : dotted? ((.name w :: (partToks ns ++ .keyword .importK :: ts)).map (Tok.at line)) = _ :=
    dotted?_word w ns (by simp)
  rw [moduleOf, dropWhile_dotToks dots (by simp [IsDots]), if_neg (by simp), hd]
  rfl

/-- The tokens after an origin and `import` are those of what is imported. -/
theorem moduleOf_origin (o : Origin) (ts : List Tok) :
    moduleOf ((o.toks ++ .keyword .importK :: ts).map (Tok.at line)) =
      (moduleName? o, ts.map (Tok.at line)) := by
  cases o with
  | module dots name =>
    rw [Origin.toks, List.append_assoc]
    exact moduleOf_word dots name.first.text name.others ts
  | package more =>
    have hlt := length_dotToks_pos more
    rw [Origin.toks, moduleOf, dropWhile_dotToks (more + 1) (by simp [IsDots]), if_pos]
    · rfl
    · simpa using hlt

/-- Names after `import` are neither a star nor in brackets. -/
theorem fromNames_names {ls : List Lexeme} {m : Option Text} (names : Series Imported)
    (h : moduleOf ls = (m, (importedToks names).map (Tok.at line))) :
    fromNames ls = names.toList.map fun i => qualify m i.name.text := by
  obtain ⟨ts, ht⟩ : ∃ ts, importedToks names = .name names.first.name.first.text :: ts := ⟨_, rfl⟩
  have hhead : (((importedToks names).map (Tok.at line)).head?.map (·.tok)) ≠
      some (.mark .star) := by simp [ht]
  have hu : unbracket ((importedToks names).map (Tok.at line)) =
      (importedToks names).map (Tok.at line) := by simp [ht, unbracket]
  rw [fromNames, h]
  simp only [if_neg hhead, hu, namesOf_importedToks, List.map_map]
  rfl

theorem fromNames_namesFrom (o : Origin) (names : Series Imported) :
    fromNames ((o.toks ++ .keyword .importK :: importedToks names).map (Tok.at line)) =
      names.toList.map fun i => o.qualify i.name.text := by
  rw [fromNames_names names (moduleOf_origin o _)]
  exact List.map_congr_left fun i _ => qualify_moduleName? o i.name.text

theorem fromNames_allFrom (o : Origin) :
    fromNames ((o.toks ++ [Tok.keyword .importK, .mark .star]).map (Tok.at line)) =
      [o.qualify ['*']] := by
  have h : moduleOf ((o.toks ++ Tok.keyword .importK :: [.mark .star]).map (Tok.at line)) = _ :=
    moduleOf_origin o [.mark .star]
  rw [fromNames, h]
  exact congrArg (· :: []) (qualify_moduleName? o ['*'])

theorem fromNames_future (names : Series Imported) :
    fromNames ((Tok.name future :: .keyword .importK :: importedToks names).map (Tok.at line)) =
      names.toList.map fun i => "__future__.".toList ++ i.name.text :=
  fromNames_names names (moduleOf_word 0 future [] (importedToks names))

end Import

/-! ### Import statements -/

theorem read_import {ts : List Tok} {names : List Text} (h : Import.plainStuckAt ts = none)
    (hn : Import.plainNames (ts.map (Tok.at line)) = names) :
    Action.read ((Tok.keyword .importK :: ts).map (Tok.at line)) = .ok (.imports names) := by
  simp only [List.map_cons, Action.read, Tok.at_tok, Tok.map_tok_at, h, hn]
  rfl

theorem read_from {ts : List Tok} {names : List Text} (h : Import.fromStuckAt ts = none)
    (hn : Import.fromNames (ts.map (Tok.at line)) = names) :
    Action.read ((Tok.keyword .fromK :: ts).map (Tok.at line)) = .ok (.imports names) := by
  simp only [List.map_cons, Action.read, Tok.at_tok, Tok.map_tok_at, h, hn]
  rfl

namespace ImportForm

/-- An import statement is read as one that imports the names it reports. -/
theorem read_eq (f : ImportForm) (line : Nat) :
    Action.read ((f.first :: f.others).map (Tok.at line)) = .ok (.imports f.reported) := by
  cases f with
  | names ns =>
    exact read_import (Import.plainStuckAt_importedToks ns) (Import.namesOf_importedToks ns)
  | namesFrom o ns =>
    exact read_from (Import.fromStuckAt_namesFrom o ns) (Import.fromNames_namesFrom o ns)
  | allFrom o => exact read_from (Import.fromStuckAt_allFrom o) (Import.fromNames_allFrom o)
  | future ns => exact read_from (Import.fromStuckAt_future ns) (Import.fromNames_future ns)

/-- No import goes on after a semicolon, so the whole line is one statement. -/
theorem not_semicolon (f : ImportForm) : Tok.mark .semicolon ∉ f.first :: f.others := by
  have hstep (q : Import.State) : Import.recognizer.step q (.mark .semicolon) = none := by
    cases q <;> simp [Import.recognizer, Import.step, Import.ends, Tok.word?]
  have hfirst : Tok.mark .semicolon ≠ f.first := by cases f <;> simp [first]
  have hothers : Tok.mark .semicolon ∉ f.others := by
    cases f with
    | names ns =>
      exact Import.recognizer.not_mem_of_stuckAt hstep (Import.plainStuckAt_importedToks ns)
    | namesFrom o ns =>
      exact Import.recognizer.not_mem_of_stuckAt hstep (Import.fromStuckAt_namesFrom o ns)
    | allFrom o => exact Import.recognizer.not_mem_of_stuckAt hstep (Import.fromStuckAt_allFrom o)
    | future ns => exact Import.recognizer.not_mem_of_stuckAt hstep (Import.fromStuckAt_future ns)
  exact fun h => (List.mem_cons.mp h).elim hfirst hothers

end ImportForm

end CodeAtlas.Python
