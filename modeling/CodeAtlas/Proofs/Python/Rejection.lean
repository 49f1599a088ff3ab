import CodeAtlas.Proofs.Basic
import CodeAtlas.Proofs.Python.OutlineLines

/-!
# Statements that a program may not contain

`Suite.statements` lists the simple statements of a program in order, each with the definitions and
blocks around it, and `Located.IsRejected` says which of them a program may not contain. A program
without a syntax error has no outline just when there is such a statement, and then it is the first
of them that the error names (`ofText_rejects`). The search for it knows of all that stands around
a statement just whether the innermost definition is a function.
-/

namespace CodeAtlas.Python

/-- What may stand around a statement. -/
inductive Enclosure where
  /-- The body of a definition. -/
  | definition (kind : Kind)
  /-- The block of some other clause. -/
  | block
  deriving DecidableEq

/-- What the innermost definition around a statement defines, given what stands around it from the
inside out. -/
def innermost? : List Enclosure → Option Kind
  | [] => none
  | .definition kind :: _ => some kind
  | .block :: around => innermost? around

/-- A simple statement in its place. -/
structure Located where
  /-- What stands around it, from the inside out. -/
  around : List Enclosure
  /-- The statement. -/
  statement : Simple
  deriving DecidableEq

/-- Whether a program may not contain a statement where it stands: a `print` or `exec` statement,
or a `return` unless the innermost definition around it is a function. -/
def Located.IsRejected (s : Located) : Prop :=
  s.statement.action = .obsolete ∨
    s.statement.action = .returns ∧ innermost? s.around ≠ some .functionDef
  deriving Decidable

/-- The first statement that a program may not contain, in a list of statements. -/
def firstRejected? (ss : List Located) : Option Located := ss.find? fun s => s.IsRejected

theorem firstRejected?_cons_of_pos {s : Located} (h : s.IsRejected) (ss : List Located) :
    firstRejected? (s :: ss) = some s :=
  List.find?_cons_of_pos (decide_eq_true h)

theorem firstRejected?_cons_of_neg {s : Located} (h : ¬ s.IsRejected) (ss : List Located) :
    firstRejected? (s :: ss) = firstRejected? ss :=
  List.find?_cons_of_neg (by simpa using h)

theorem firstRejected?_append (ss ts : List Located) :
    firstRejected? (ss ++ ts) = (firstRejected? ss).or (firstRejected? ts) :=
  List.find?_append

theorem firstRejected?_eq_some_iff {ss : List Located} {s : Located} :
    firstRejected? ss = some s ↔ ∃ before after,
      ss = before ++ s :: after ∧ (∀ t ∈ before, ¬ t.IsRejected) ∧ s.IsRejected := by
  simp only [firstRejected?, List.find?_eq_some_iff_append, decide_eq_true_eq, Bool.not_eq_true',
    decide_eq_false_iff_not]
  constructor
  · rintro ⟨hs, before, after, heq, hbefore⟩
    exact ⟨before, after, heq, hbefore, hs⟩
  · rintro ⟨before, after, heq, hbefore, hs⟩
    exact ⟨hs, before, after, heq, hbefore⟩

theorem firstRejected?_eq_none_iff {ss : List Located} :
    firstRejected? ss = none ↔ ¬ ∃ s ∈ ss, s.IsRejected := by
  simp [firstRejected?]

namespace Suite

/-- The simple statements of a suite and of its blocks, in order. -/
def statements (around : List Enclosure) : Suite → List Located
  | .nil => []
  | .simple s next => ⟨around, s⟩ :: statements around next
  | .define _ kind _ body next =>
    statements (.definition kind :: around) body ++ statements around next
  | .block body next => statements (.block :: around) body ++ statements around next

/-- The first statement that is refused is the first in order that a program may not contain. -/
theorem firstRejected_eq_find? (m : Suite) (around : List Enclosure) :
    m.firstRejected (innermost? around == some .functionDef) =
      (firstRejected? (m.statements around)).map (·.statement.line) := by
  induction m generalizing around with
  | nil => rfl
  | simple s next ih =>
    rw [firstRejected, statements]
    split
    · next hs => rw [firstRejected?_cons_of_pos (.inl hs), Option.map_some]
    · next hs =>
      by_cases hf : innermost? around = some .functionDef
      · have hnot : ¬ (Located.mk around s).IsRejected := by simp [Located.IsRejected, hs, hf]
        rw [firstRejected?_cons_of_neg hnot, ← ih, if_pos (beq_iff_eq.mpr hf)]
      · rw [firstRejected?_cons_of_pos (.inr ⟨hs, hf⟩), if_neg (by simpa using hf),
          Option.map_some]
    · next hobsolete hreturns =>
      have hnot : ¬ (Located.mk around s).IsRejected := by
        rintro (hs | ⟨hs, -⟩)
        · exact hobsolete hs
        · exact hreturns hs
      rw [firstRejected?_cons_of_neg hnot, ih]
  | define line kind name body next ihb ihn =>
    have hkind : (kind == .functionDef) =
        (innermost? (.definition kind :: around) == some .functionDef) := by
      cases kind <;> rfl
    rw [firstRejected, statements, firstRejected?_append, Option.map_or, hkind, ihb, ihn]
  | block body next ihb ihn =>
    rw [firstRejected, statements, firstRejected?_append, Option.map_or, ← ihb, ← ihn]
    rfl

/-! ### Order -/

theorem Within.statements_bounds {lo hi : Nat} {m : Suite} (h : Within lo hi m)
    (around : List Enclosure) :
    ∀ s ∈ m.statements around, lo ≤ s.statement.line ∧ s.statement.line ≤ hi := by
  induction h generalizing around with
  | nil _ => nofun
  | simple _ hs hn ih =>
    intro t ht
    rcases List.mem_cons.mp ht with rfl | ht
    · exact ⟨hs, hn.le⟩
    · exact ⟨Nat.le_trans hs (ih around t ht).1, (ih around t ht).2⟩
  | define hl hb hn ihb ihn =>
    intro t ht
    rcases List.mem_append.mp ht with ht | ht
    · exact ⟨Nat.le_trans (Nat.le_of_lt hl) (ihb _ t ht).1, Nat.le_trans (ihb _ t ht).2 hn.le⟩
    · exact ⟨Nat.le_trans (Nat.le_of_lt hl) (Nat.le_trans hb.le (ihn _ t ht).1), (ihn _ t ht).2⟩
  | block hb hn ihb ihn =>
    intro t ht
    rcases List.mem_append.mp ht with ht | ht
    · exact ⟨(ihb _ t ht).1, Nat.le_trans (ihb _ t ht).2 hn.le⟩
    · exact ⟨Nat.le_trans hb.le (ihn _ t ht).1, (ihn _ t ht).2⟩

/-- The statements are listed from the top of the program to its end. -/
theorem Within.pairwise_statements {lo hi : Nat} {m : Suite} (h : Within lo hi m)
    (around : List Enclosure) :
    (m.statements around).Pairwise fun s t => s.statement.line ≤ t.statement.line := by
  induction h generalizing around with
  | nil _ => exact List.Pairwise.nil
  | simple _ _ hn ih =>
    exact List.pairwise_cons.mpr ⟨fun t ht => (hn.statements_bounds around t ht).1, ih around⟩
  | define _ hb hn ihb ihn | block hb hn ihb ihn =>
    refine List.pairwise_append.mpr ⟨ihb _, ihn _, fun s hs t ht => ?_⟩
    exact Nat.le_trans (hb.statements_bounds _ s hs).2 (hn.statements_bounds _ t ht).1

end Suite

namespace Outline

theorem ofText_of_parse (r : Reader) {source : Text} {m : Suite}
    (h : Suite.parse (Text.normalizeNewlines source) = .ok m) :
    ofText r source =
      match firstRejected? (m.statements []) with
      | some s => .error (.malformed s.statement.line)
      | none => .ok (m.outline r.names) := by
  have hfirst : m.firstRejected false =
      (firstRejected? (m.statements [])).map (·.statement.line) := m.firstRejected_eq_find? []
  simp only [ofText, h, hfirst]
  cases firstRejected? (m.statements []) <;> rfl

/-- A program without a syntax error has no outline just when it contains, at whatever depth, a
statement that a program may not contain where it stands. The error then names the line of the first
such statement, and no statement before it in order is on a later line. -/
theorem ofText_rejects (r : Reader) {source : Text} {m : Suite}
    (h : Suite.parse (Text.normalizeNewlines source) = .ok m) :
    ((∃ e, ofText r source = .error e) ↔ ∃ s ∈ m.statements [], s.IsRejected) ∧
    (∀ line, ofText r source = .error (.malformed line) ↔
      ∃ before s after, m.statements [] = before ++ s :: after ∧
        (∀ t ∈ before, ¬ t.IsRejected) ∧ s.IsRejected ∧ s.statement.line = line) ∧
    (m.statements []).Pairwise fun s t => s.statement.line ≤ t.statement.line := by
  rw [ofText_of_parse r h]
  refine ⟨?_, fun line => ?_, (Suite.within_of_parse h).pairwise_statements []⟩
  · cases hfirst : firstRejected? (m.statements []) with
    | none => exact ⟨nofun, fun hs => absurd hs (firstRejected?_eq_none_iff.mp hfirst)⟩
    | some s =>
      obtain ⟨before, after, heq, -, hs⟩ := firstRejected?_eq_some_iff.mp hfirst
      have hmem : s ∈ m.statements [] := heq ▸ List.mem_append_right _ (List.mem_cons_self ..)
      exact ⟨fun _ => ⟨s, hmem, hs⟩, fun _ => ⟨_, rfl⟩⟩
  · constructor
    · intro he
      cases hfirst : firstRejected? (m.statements []) with
      | none =>
        rw [hfirst] at he
        cases he
      | some s =>
        rw [hfirst] at he
        cases he
        obtain ⟨before, after, heq, hbefore, hs⟩ := firstRejected?_eq_some_iff.mp hfirst
        exact ⟨before, s, after, heq, hbefore, hs, rfl⟩
    · rintro ⟨before, s, after, heq, hbefore, hs, rfl⟩
      rw [firstRejected?_eq_some_iff.mpr ⟨before, after, heq, hbefore, hs⟩]

/-- Of three `return`s, that of a method stands where it may, and that of a class body comes before
that of the module. -/
theorem ofText_rejects_nested :
    let source := "def f():\n class C:\n  def g():\n   if x: return\n  if y: return\nreturn".toList
    let m : Suite := .define 1 .functionDef ['f']
      (.define 2 .classDef ['C']
        (.define 3 .functionDef ['g'] (.block (.simple ⟨4, .returns⟩ .nil) .nil)
          (.block (.simple ⟨5, .returns⟩ .nil) .nil)) .nil)
      (.simple ⟨6, .returns⟩ .nil)
    Suite.parse (Text.normalizeNewlines source) = .ok m ∧
      ofText Reader.standard source = .error (.malformed 5) ∧
      ∃ s ∈ m.statements [], s.IsRejected := by
  intro source m
  have h : Suite.parse (Text.normalizeNewlines source) = .ok m :=
    eq_ok_of_toOption (by decide +kernel)
  have herror : ofText Reader.standard source = .error (.malformed 5) :=
    ((ofText_rejects Reader.standard h).2.1 5).mpr
      ⟨[⟨[.block, .definition .functionDef, .definition .classDef, .definition .functionDef],
          ⟨4, .returns⟩⟩],
        ⟨[.block, .definition .classDef, .definition .functionDef], ⟨5, .returns⟩⟩,
        [⟨[], ⟨6, .returns⟩⟩], rfl, by decide, by decide, rfl⟩
  exact ⟨h, herror, (ofText_rejects Reader.standard h).1.mp ⟨_, herror⟩⟩

end Outline

end CodeAtlas.Python
