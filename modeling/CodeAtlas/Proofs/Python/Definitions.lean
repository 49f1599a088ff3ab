import CodeAtlas.Proofs.Basic
import CodeAtlas.Python.Outline
import Mathlib.Data.List.Forall2

/-!
# Definitions as they are written

`Layout.definitions` finds the definitions of a program in its logical lines, by the keywords that
begin them. What the program is read as has these definitions in this order, with the bodies that
they are written with (`Suite.forall₂_definitions`).
-/

namespace CodeAtlas.Python

/-- A definition with some kind of body. -/
structure Definition (α : Type) where
  /-- The line it begins on. -/
  line : Nat
  /-- The name. -/
  name : Text
  /-- The body. -/
  body : α

/-- Whether two definitions have one line and name, and related bodies. -/
structure Definition.Alike {α β : Type} (R : α → β → Prop) (d : Definition α) (e : Definition β) :
    Prop where
  /-- The lines are the same. -/
  line_eq : d.line = e.line
  /-- The names are the same. -/
  name_eq : d.name = e.name
  /-- The bodies are related. -/
  body : R d.body e.body

/-- A body as it is written. -/
structure Body where
  /-- What stands behind the colon on the line of the header. -/
  inline : List Lexeme
  /-- The block below the header. -/
  block : Layout

/-- What a logical line defines, if it defines something, and what follows the keyword. -/
def Row.definition? (r : Row) : Option (Kind × List Lexeme) :=
  match r.first.tok, r.rest with
  | .keyword .defK, ls => some (.functionDef, ls)
  | .keyword .classK, ls => some (.classDef, ls)
  | .soft .asyncK, l :: ls => if l.tok = .keyword .defK then some (.functionDef, ls) else none
  | _, _ => none

/-- The definitions that begin on the lines of a layout itself, as they are written. -/
def Layout.definitions (kind : Kind) : Layout → List (Definition Body)
  | .nil => []
  | .row r inner next =>
    match r.definition? with
    | some (k, ls) =>
      if k = kind then
        ⟨r.line, Header.definedName ls, ⟨((Header.split 0 0 ls).2).getD [], inner⟩⟩ ::
          definitions kind next
      else definitions kind next
    | none => definitions kind next

/-- The definitions among the statements of a suite itself. -/
def Suite.definitions (kind : Kind) : Suite → List (Definition Suite)
  | .nil => []
  | .simple _ next => definitions kind next
  | .define line k name body next =>
    if k = kind then ⟨line, name, body⟩ :: definitions kind next else definitions kind next
  | .block _ next => definitions kind next

namespace Suite

variable (names : Docstring.CharacterNames)

theorem functions_eq_map (m : Suite) :
    m.functions names = (m.definitions .functionDef).map fun d =>
      ⟨d.name, d.line, d.body.docstring names⟩ := by
  induction m with
  | nil => rfl
  | simple s next ih => exact ih
  | define line kind name body next _ ih =>
    cases kind with
    | functionDef => exact congrArg (List.cons _) ih
    | classDef => exact ih
  | block body next _ ih => exact ih

theorem classes_eq_map (m : Suite) :
    m.classes names = (m.definitions .classDef).map fun d =>
      ⟨d.name, d.line, d.body.docstring names, d.body.functions names⟩ := by
  induction m with
  | nil => rfl
  | simple s next ih => exact ih
  | define line kind name body next _ ih =>
    cases kind with
    | functionDef => exact ih
    | classDef => exact congrArg (List.cons _) ih
  | block body next _ ih => exact ih

theorem definitions_prepend (kind : Kind) (next : Suite) (ss : List Simple) :
    (prepend next ss).definitions kind = next.definitions kind := by
  induction ss with
  | nil => rfl
  | cons s ss ih => exact ih

end Suite

/-! ### What a logical line is read as -/

/-- The header of a definition. -/
def Kind.header (name : Text) : Kind → Header
  | .functionDef => .funcH name
  | .classDef => .classH name

/-- Whether a header defines something. -/
def Header.defines : Header → Bool
  | .funcH _ | .classH _ => true
  | _ => false

theorem Header.read_eq_ok {h : Header} {stuckAt : List Tok → Option Nat} {ls : List Lexeme}
    {stop : Nat} {f : Form} (hf : read h stuckAt ls stop = .ok f) :
    ∃ inline ss, (split 0 0 ls).2 = some inline ∧ Simple.readAll inline stop = .ok ss ∧
      f = .header h ss := by
  unfold read at hf
  dsimp only at hf
  split at hf
  · cases hf
  · cases hf
  · next htail =>
    cases hf
    exact ⟨[], [], htail, rfl, rfl⟩
  · next inline _ _ htail =>
    split at hf
    · cases hf
    · next ss hss =>
      cases hf
      exact ⟨inline, ss, htail, hss, rfl⟩

/-- The forms that a logical line outside of a `match` statement may have. -/
inductive Row.HasForm (r : Row) : Form → Prop where
  /-- It begins with the sign of a decorator. -/
  | decorator : r.first.tok = .mark .at → HasForm r .decorator
  /-- It holds simple statements. -/
  | simple {ss : List Simple} : r.definition? = none → Simple.readAll r.lexemes r.stop = .ok ss →
      HasForm r (.simple ss)
  /-- It is the header of a definition. -/
  | define {kind : Kind} {ls inline : List Lexeme} {ss : List Simple} :
      r.definition? = some (kind, ls) → (Header.split 0 0 ls).2 = some inline →
      Simple.readAll inline r.stop = .ok ss →
      HasForm r (.header (kind.header (Header.definedName ls)) ss)
  /-- It is the header of some other clause. -/
  | clause {h : Header} {ss : List Simple} : r.definition? = none →
      (∀ s, r.first.tok ≠ .string s) → h.defines = false → HasForm r (.header h ss)

namespace Row

variable {r : Row} {f : Form}

theorem ne_string_of_definition? {kind : Kind} {ls : List Lexeme}
    (h : r.definition? = some (kind, ls)) (s : Text) : r.first.tok ≠ .string s := by
  intro htok
  simp [definition?, htok] at h

theorem sublist_of_definition? {kind : Kind} {ls : List Lexeme}
    (h : r.definition? = some (kind, ls)) : ls.Sublist r.lexemes := by
  have hrest : r.rest.Sublist r.lexemes := List.sublist_cons_self ..
  unfold definition? at h
  split at h
  · cases h
    exact hrest
  · cases h
    exact hrest
  · next l ls' _ heq =>
    split at h
    · cases h
      exact (heq ▸ List.sublist_cons_self l ls).trans hrest
    · cases h
  · cases h

theorem hasForm_of_readSimple (hdef : r.definition? = none) (h : r.readSimple = .ok f) :
    r.HasForm f := by
  unfold readSimple at h
  split at h
  · cases h
  · next ss hss =>
    cases h
    exact .simple hdef hss

theorem hasForm_of_read_definition {kind : Kind} {stuckAt : List Tok → Option Nat}
    {ls : List Lexeme} (hdef : r.definition? = some (kind, ls))
    (h : Header.read (kind.header (Header.definedName ls)) stuckAt ls r.stop = .ok f) :
    r.HasForm f := by
  obtain ⟨inline, ss, htail, hss, rfl⟩ := Header.read_eq_ok h
  exact .define hdef htail hss

theorem hasForm_of_read_clause {header : Header} {stuckAt : List Tok → Option Nat}
    {ls : List Lexeme} (hdef : r.definition? = none) (htok : ∀ s, r.first.tok ≠ .string s)
    (hheader : header.defines = false) (h : Header.read header stuckAt ls r.stop = .ok f) :
    r.HasForm f := by
  obtain ⟨inline, ss, -, -, rfl⟩ := Header.read_eq_ok h
  exact .clause hdef htok hheader

theorem hasForm_of_readDecorator (htok : r.first.tok = .mark .at) (h : r.readDecorator = .ok f) :
    r.HasForm f := by
  unfold readDecorator at h
  split at h
  · cases h
  · cases h
    exact .decorator htok

theorem hasForm_of_readMatch (htok : r.first.tok = .soft .matchK) (h : r.readMatch = .ok f) :
    r.HasForm f := by
  have hdef : r.definition? = none := by simp [definition?, htok]
  unfold readMatch at h
  split at h
  · cases h
    exact .clause hdef (by simp [htok]) rfl
  · split at h
    · next hf =>
      cases h
      exact hasForm_of_readSimple hdef hf
    · cases h

theorem hasForm_of_readAsync (htok : r.first.tok = .soft .asyncK) (h : r.readAsync = .ok f) :
    r.HasForm f := by
  have hstring : ∀ s, r.first.tok ≠ .string s := by simp [htok]
  unfold readAsync at h
  split at h
  · next l ls hrest =>
    split at h
    · next hl =>
      have hdef : r.definition? = some (.functionDef, ls) := by simp [definition?, htok, hrest, hl]
      exact hasForm_of_read_definition hdef h
    · next hl =>
      have hdef : r.definition? = none := by simp [definition?, htok, hrest, hl]
      exact hasForm_of_read_clause hdef hstring rfl h
    · next hl =>
      have hdef : r.definition? = none := by simp [definition?, htok, hrest, hl]
      exact hasForm_of_read_clause hdef hstring rfl h
    · next hl _ _ =>
      have hdef : r.definition? = none := by
        simp only [definition?, htok, hrest]
        exact if_neg hl
      exact hasForm_of_readSimple hdef h
  · next hrest =>
    have hdef : r.definition? = none := by simp [definition?, htok, hrest]
    exact hasForm_of_readSimple hdef h

theorem hasForm_of_keyword {k : Keyword} (htok : r.first.tok = .keyword k)
    (h : (Header.ofKeyword? k r.rest r.stop).getD r.readSimple = .ok f) : r.HasForm f := by
  have hstring : ∀ s, r.first.tok ≠ .string s := by simp [htok]
  cases k with
  | defK =>
    have hdef : r.definition? = some (.functionDef, r.rest) := by simp [definition?, htok]
    exact hasForm_of_read_definition hdef h
  | classK =>
    have hdef : r.definition? = some (.classDef, r.rest) := by simp [definition?, htok]
    exact hasForm_of_read_definition hdef h
  | ifK | elifK | whileK | elseK | tryK | finallyK | forK | withK | exceptK =>
    have hdef : r.definition? = none := by simp [definition?, htok]
    exact hasForm_of_read_clause hdef hstring rfl h
  | _ =>
    have hdef : r.definition? = none := by simp [definition?, htok]
    exact hasForm_of_readSimple hdef h

/-- A logical line has one of the forms that it may have. -/
theorem hasForm_of_form (h : r.form false = .ok f) : r.HasForm f := by
  unfold form at h
  rw [if_neg Bool.false_ne_true] at h
  split at h
  · next htok => exact hasForm_of_readDecorator htok h
  · next htok =>
    have hdef : r.definition? = none := by simp [definition?, htok]
    exact hasForm_of_read_clause hdef (by simp [htok]) rfl h
  · next htok => exact hasForm_of_readMatch htok h
  · next htok => exact hasForm_of_readAsync htok h
  · next k htok => exact hasForm_of_keyword htok h
  · next hexcept hmatch hasync hkeyword =>
    have hdef : r.definition? = none := by
      unfold definition?
      split
      · next htok => exact absurd htok (hkeyword _)
      · next htok => exact absurd htok (hkeyword _)
      · next htok _ => exact absurd htok hasync
      · rfl
    exact hasForm_of_readSimple hdef h

end Row

/-! ### What blocks of logical lines are read as -/

namespace Suite

namespace Pending

theorem eq_of_accept_decorator {p p' : Pending} (h : p.accept .decorator = some p') :
    p' = .definition := by
  cases p with
  | handled star => cases star <;> cases h <;> rfl
  | handler => cases h
  | _ => cases h; rfl

theorem of_accept_definition {f : Form} {p' : Pending} (h : accept .definition f = some p') :
    f = .decorator ∨ ∃ header ss, f = .header header ss ∧ header.defines = true := by
  cases f with
  | decorator => exact .inl rfl
  | simple ss => cases h
  | header header ss =>
    cases header with
    | funcH name | classH name => exact .inr ⟨_, ss, rfl, rfl⟩
    | _ => cases h

end Pending

end Suite

/-- Whether a body is read as a suite. -/
def Body.Reads (b : Body) (m : Suite) : Prop :=
  ∃ stop stop' inner ss, Suite.ofLayout false stop .none b.block = .ok inner ∧
    Simple.readAll b.inline stop' = .ok ss ∧ m = Suite.prepend inner ss

namespace Suite

/-- What a logical line outside of a `match` statement may be read as, with the block below it and
the lines after that. -/
inductive ReadsRow (stop : Nat) (p : Pending) (r : Row) (inner next : Layout) : Suite → Prop where
  /-- It is a decorator, and a definition follows. -/
  | decorator {m : Suite} : r.first.tok = .mark .at →
      ofLayout false stop .definition next = .ok m → ReadsRow stop p r inner next m
  /-- It holds simple statements. -/
  | simple {p' : Pending} {ss : List Simple} {m : Suite} : p ≠ .definition →
      r.definition? = none → Simple.readAll r.lexemes r.stop = .ok ss →
      ofLayout false stop p' next = .ok m → ReadsRow stop p r inner next (prepend m ss)
  /-- It begins a definition. -/
  | define {p' : Pending} {kind : Kind} {ls inline : List Lexeme} {body m : Suite} :
      r.definition? = some (kind, ls) → (Header.split 0 0 ls).2 = some inline →
      Body.Reads ⟨inline, inner⟩ body → ofLayout false stop p' next = .ok m →
      ReadsRow stop p r inner next (.define r.line kind (Header.definedName ls) body m)
  /-- It begins some other clause. -/
  | clause {p' : Pending} {body m : Suite} : p ≠ .definition → r.definition? = none →
      (∀ s, r.first.tok ≠ .string s) → ofLayout false stop p' next = .ok m →
      ReadsRow stop p r inner next (.block body m)

theorem readsRow_of_ofLayout {stop : Nat} {p : Pending} {r : Row} {inner next : Layout} {m : Suite}
    (h : ofLayout false stop p (.row r inner next) = .ok m) : ReadsRow stop p r inner next m := by
  unfold ofLayout at h
  split at h
  · cases h
  next f hf =>
  split at h
  · cases h
  next p' hp =>
  have hform := Row.hasForm_of_form hf
  cases hform with
  | decorator htok =>
    obtain rfl := Pending.eq_of_accept_decorator hp
    exact .decorator htok h
  | simple hdef hss =>
    obtain ⟨m, hm, rfl⟩ := map_eq_ok_iff.mp h
    refine .simple ?_ hdef hss hm
    rintro rfl
    cases hp
  | @define kind ls inline ss hdef htail hss =>
    -- Only below `match` are blocks read as cases.
    have hmatch : (kind.header (Header.definedName ls) == .matchH) = false := by
      cases kind <;> rfl
    dsimp only at h
    split at h
    · cases h
    next body hbody =>
    split at h
    · cases h
    next m hm =>
    rw [hmatch] at hbody
    have hreads : Body.Reads ⟨inline, inner⟩ (prepend body ss) :=
      ⟨next.lineOr stop, r.stop, body, ss, hbody, hss, rfl⟩
    cases kind with
    | functionDef | classDef =>
      cases h
      exact .define hdef htail hreads hm
  | @clause header ss hdef htok hheader =>
    have hne : p ≠ .definition := by
      rintro rfl
      obtain hd | ⟨header', ss', hd, hdefines⟩ := Pending.of_accept_definition hp
      · cases hd
      · cases hd
        rw [hheader] at hdefines
        cases hdefines
    dsimp only at h
    split at h
    · cases h
    split at h
    · cases h
    next m hm =>
    split at h
    · cases hheader
    · cases hheader
    · cases h
      exact .clause hne hdef htok hm

/-- The definitions of a suite are those of the logical lines that it is read from. -/
theorem forall₂_definitions {stop : Nat} {p : Pending} {l : Layout} {m : Suite}
    (h : ofLayout false stop p l = .ok m) (kind : Kind) :
    List.Forall₂ (Definition.Alike Body.Reads) (l.definitions kind) (m.definitions kind) := by
  induction l generalizing p m with
  | nil =>
    unfold ofLayout at h
    split at h
    · cases h
    · cases h
      exact .nil
  | row r inner next _ ih =>
    cases readsRow_of_ofLayout h with
    | decorator htok hm =>
      have hdef : r.definition? = none := by simp [Row.definition?, htok]
      simp only [Layout.definitions, hdef]
      exact ih hm
    | simple _ hdef _ hm =>
      simp only [Layout.definitions, hdef, definitions_prepend]
      exact ih hm
    | @define p' k ls inline body m hdef htail hbody hm =>
      simp only [Layout.definitions, hdef, definitions, htail, Option.getD_some]
      split
      · exact .cons ⟨rfl, rfl, hbody⟩ (ih hm)
      · exact ih hm
    | clause _ hdef _ hm =>
      simp only [Layout.definitions, hdef, definitions]
      exact ih hm

end Suite

end CodeAtlas.Python
