import CodeAtlas.Proofs.Python.LineOrder
import CodeAtlas.Python.Suite

/-!
# The order of statements

The statements of a program are in the order of its lines: reading a logical line
(`Row.answers_form`) and reading blocks of them (`Suite.answers_ofLayout`) keep the order of the
tokens. A suite is `Within` two lines when its statements, those of its blocks among them, are in
order between the two and each definition begins below everything before it. Where a text is no
program, reading stops on one of its lines.
-/

namespace CodeAtlas.Python

/-- Whether a line is one of the lines up to `last`, of which the first is 1. -/
def IsLine (last n : Nat) : Prop := 0 < n ∧ n ≤ last

theorem IsLine.mono {last last' n : Nat} (h : IsLine last n) (hle : last ≤ last') :
    IsLine last' n :=
  ⟨h.1, Nat.le_trans h.2 hle⟩

theorem Lexeme.InOrder.isLine {lo hi : Nat} {ls : List Lexeme} (h : InOrder lo hi ls) :
    ∀ l ∈ ls, IsLine hi l.line := fun l hl => ⟨h.pos l hl, h.le l hl⟩

/-- Whether an error names one of the lines up to `last`, and a result has a property. -/
def Answers {α : Type} (last : Nat) (p : α → Prop) : Except Nat α → Prop
  | .error n => IsLine last n
  | .ok a => p a

namespace Answers

variable {α β : Type} {last : Nat} {p : α → Prop} {e : Except Nat α}

theorem imp {q : α → Prop} (h : Answers last p e) (hpq : ∀ a, p a → q a) : Answers last q e := by
  cases e with
  | error n => exact h
  | ok a => exact hpq a h

theorem map {q : β → Prop} {f : α → β} (h : Answers last p e) (hpq : ∀ a, p a → q (f a)) :
    Answers last q (e.map f) := by
  cases e with
  | error n => exact h
  | ok a => exact hpq a h

theorem mono {last' : Nat} (h : Answers last p e) (hle : last ≤ last') : Answers last' p e := by
  cases e with
  | error n => exact IsLine.mono h hle
  | ok a => exact h

end Answers

variable {lo mid hi last : Nat}

/-! ### Simple statements -/

theorem isLine_lineAt {ls : List Lexeme} {stop : Nat} (h : ∀ l ∈ ls, IsLine last l.line)
    (hs : IsLine last stop) (n : Nat) : IsLine last (lineAt ls stop n) := by
  unfold lineAt
  cases hl : ls[n]? with
  | none => exact hs
  | some l => exact h l (List.mem_of_getElem? hl)

/-- No statement begins with a place where nothing can be read. -/
theorem Action.exists_head {ls : List Lexeme} {a : Action} (h : Action.read ls = .ok a) :
    ∃ l rest, ls = l :: rest ∧ l.tok ≠ .invalid := by
  cases ls with
  | nil => cases h
  | cons l rest =>
    refine ⟨l, rest, rfl, fun hl => ?_⟩
    have hstuck : ∃ n, expressionStuckAt (.invalid :: rest.map (·.tok)) = some n := ⟨_, rfl⟩
    obtain ⟨n, hn⟩ := hstuck
    simp only [Action.read, hl, Action.ofExpression, List.map_cons, hn] at h
    cases h

namespace Simple

/-- Whether statements are on lines from `lo` to `hi` that do not decrease. -/
def InOrder (lo hi : Nat) : List Simple → Prop
  | [] => lo ≤ hi
  | s :: ss => 0 < s.line ∧ lo ≤ s.line ∧ InOrder s.line hi ss

theorem answers_read {ls : List Lexeme} {stop : Nat} (h : ∀ l ∈ ls, IsLine last l.line)
    (hs : IsLine last stop) :
    Answers last (fun s => ∃ l rest, ls = l :: rest ∧ l.tok ≠ .invalid ∧ s.line = l.line)
      (read ls stop) := by
  unfold read
  cases hr : Action.read ls with
  | error n => exact isLine_lineAt h hs n
  | ok a =>
    obtain ⟨l, rest, rfl, hl⟩ := Action.exists_head hr
    exact ⟨l, rest, rfl, hl, rfl⟩

/-- Splitting at semicolons keeps the order of the other tokens. -/
theorem flatMap_split_sublist (stop : Nat) (ls : List Lexeme) :
    ((split stop ls).flatMap Prod.fst).Sublist ls := by
  induction ls with
  | nil => exact List.nil_sublist []
  | cons l ls ih =>
    rw [split]
    split
    · exact ih.cons l
    · cases hs : split stop ls with
      | nil => exact (List.nil_sublist ls).cons_cons l
      | cons p rest =>
        rw [hs] at ih
        exact ih.cons_cons l

theorem isLine_of_mem_split {ls : List Lexeme} {stop : Nat} (h : ∀ l ∈ ls, IsLine last l.line)
    (hs : IsLine last stop) : ∀ p ∈ split stop ls, IsLine last p.2 := by
  induction ls with
  | nil => exact List.forall_mem_singleton.mpr hs
  | cons l ls ih =>
    obtain ⟨hl, hls⟩ := List.forall_mem_cons.mp h
    have ih := ih hls
    rw [split]
    split
    · exact List.forall_mem_cons.mpr ⟨hl, ih⟩
    · cases hp : split stop ls with
      | nil => exact List.forall_mem_singleton.mpr hs
      | cons p rest =>
        rw [hp] at ih
        exact List.forall_mem_cons.mpr (List.forall_mem_cons.mp ih)

theorem answers_readRuns {runs : List (List Lexeme × Nat)} (hle : lo ≤ hi)
    (h : Lexeme.InOrder lo hi (runs.flatMap Prod.fst)) (hs : ∀ p ∈ runs, IsLine hi p.2) :
    Answers hi (InOrder lo hi) (readRuns runs) := by
  induction runs generalizing lo with
  | nil => exact hle
  | cons run rest ih =>
    obtain ⟨p, e⟩ := run
    obtain ⟨he, hrest⟩ := List.forall_mem_cons.mp hs
    rw [List.flatMap_cons] at h
    have hread := answers_read (fun l hl => h.isLine l (List.mem_append_left _ hl)) he
    unfold readRuns
    split
    · exact hle
    · cases hp : read p e with
      | error n =>
        rw [hp] at hread
        exact hread
      | ok s =>
        rw [hp] at hread
        obtain ⟨l, ls, rfl, hl, hline⟩ := hread
        have hmem : l ∈ l :: ls ++ rest.flatMap Prod.fst := List.mem_cons_self ..
        have hnext : Answers hi (InOrder s.line hi) (readRuns rest) :=
          ih (hline ▸ h.le l hmem) (hline ▸ h.tail.sublist (List.sublist_append_right ..)) hrest
        cases hrs : readRuns rest with
        | error n =>
          rw [hrs] at hnext
          exact hnext
        | ok ss =>
          rw [hrs] at hnext
          exact ⟨hline ▸ h.pos l hmem, hline ▸ (h.ge l hmem).resolve_left hl, hnext⟩

theorem answers_readAll {ls : List Lexeme} (hle : lo ≤ hi) (hhi : 0 < hi)
    (h : Lexeme.InOrder lo hi ls) : Answers hi (InOrder lo hi) (readAll ls hi) :=
  answers_readRuns hle (h.sublist (flatMap_split_sublist hi ls))
    (isLine_of_mem_split h.isLine ⟨hhi, Nat.le_refl hi⟩)

end Simple

/-! ### Logical lines -/

/-- Whether the statements on a logical line are in order, those behind the colon of a header among
them. -/
def Form.InOrder (lo hi : Nat) : Form → Prop
  | .decorator => lo ≤ hi
  | .simple ss => Simple.InOrder lo hi ss
  | .header _ ss => Simple.InOrder lo hi ss

namespace Header

/-- What stands behind the colon is the end of the line. -/
theorem split_sublist (depth lambdas : Nat) (ls : List Lexeme) :
    ∀ t ∈ (split depth lambdas ls).2, t.Sublist ls := by
  induction ls generalizing depth lambdas with
  | nil => nofun
  | cons l ls ih =>
    intro t ht
    have hfurther (d k : Nat) (h : t ∈ (split d k ls).2) : t.Sublist (l :: ls) :=
      (ih d k t h).cons l
    unfold split at ht
    split at ht
    any_goals exact hfurther _ _ ht
    split_ifs at ht
    · cases ht
      exact List.sublist_cons_self ..
    · exact hfurther _ _ ht
    · exact hfurther _ _ ht

theorem answers_read {h : Header} {stuckAt : List Tok → Option Nat} {ls : List Lexeme}
    (hle : lo ≤ hi) (hhi : 0 < hi) (hls : Lexeme.InOrder lo hi ls) :
    Answers hi (Form.InOrder lo hi) (read h stuckAt ls hi) := by
  unfold read
  have hsub := split_sublist 0 0 ls
  generalize split 0 0 ls = parts at hsub ⊢
  obtain ⟨middle, tail⟩ := parts
  dsimp only
  split
  · exact isLine_lineAt hls.isLine ⟨hhi, Nat.le_refl hi⟩ _
  · exact ⟨hhi, Nat.le_refl hi⟩
  · exact hle
  · next inline _ _ =>
    have hinline := Simple.answers_readAll hle hhi (hls.sublist (hsub inline rfl))
    cases hr : Simple.readAll inline hi with
    | error n =>
      rw [hr] at hinline
      exact hinline
    | ok ss =>
      rw [hr] at hinline
      exact hinline

theorem answers_ofKeyword? {k : Keyword} {ls : List Lexeme} (hle : lo ≤ hi) (hhi : 0 < hi)
    (hls : Lexeme.InOrder lo hi ls) :
    ∀ e ∈ ofKeyword? k ls hi, Answers hi (Form.InOrder lo hi) e := by
  intro e he
  cases k <;> cases he <;> exact answers_read hle hhi hls

end Header

namespace Row

variable {r : Row}

theorem answers_readSimple (h : Lexeme.InOrder r.line r.stop r.lexemes) (hpos : 0 < r.stop) :
    Answers r.stop (Form.InOrder r.line r.stop) r.readSimple := by
  have hall := Simple.answers_readAll (line_le_stop h) hpos h
  unfold readSimple
  cases hr : Simple.readAll r.lexemes r.stop with
  | error n =>
    rw [hr] at hall
    exact hall
  | ok ss =>
    rw [hr] at hall
    exact hall

theorem answers_readMatch (h : Lexeme.InOrder r.line r.stop r.lexemes) (hpos : 0 < r.stop) :
    Answers r.stop (Form.InOrder r.line r.stop) r.readMatch := by
  have hrest : Lexeme.InOrder r.line r.stop r.rest := h.tail
  have hstop : IsLine r.stop r.stop := ⟨hpos, Nat.le_refl r.stop⟩
  have hsimple := answers_readSimple h hpos
  unfold readMatch
  cases Header.matchStuckAt r.rest with
  | none => exact line_le_stop h
  | some n =>
    cases hr : r.readSimple with
    | error m =>
      rw [hr] at hsimple
      have hstuck := isLine_lineAt hrest.isLine hstop n
      exact ⟨Nat.lt_of_lt_of_le hsimple.1 (Nat.le_max_right ..),
        Nat.max_le.mpr ⟨hstuck.2, hsimple.2⟩⟩
    | ok f =>
      rw [hr] at hsimple
      exact hsimple

theorem answers_readAsync (h : Lexeme.InOrder r.line r.stop r.lexemes) (hpos : 0 < r.stop) :
    Answers r.stop (Form.InOrder r.line r.stop) r.readAsync := by
  have hrest : Lexeme.InOrder r.line r.stop r.rest := h.tail
  unfold readAsync
  split
  · next l ls hl =>
    have hls : Lexeme.InOrder r.line r.stop ls := hrest.sublist (hl ▸ List.sublist_cons_self ..)
    split
    · exact Header.answers_read (line_le_stop h) hpos hls
    · exact Header.answers_read (line_le_stop h) hpos hls
    · exact Header.answers_read (line_le_stop h) hpos hls
    · exact answers_readSimple h hpos
  · exact answers_readSimple h hpos

/-- Reading a logical line keeps the order of its tokens, and names one of its lines otherwise. -/
theorem answers_form (h : Lexeme.InOrder r.line r.stop r.lexemes) (hpos : 0 < r.stop)
    (inMatch : Bool) : Answers r.stop (Form.InOrder r.line r.stop) (r.form inMatch) := by
  have hle := line_le_stop h
  have hrest : Lexeme.InOrder r.line r.stop r.rest := h.tail
  unfold form
  split
  · split
    · exact Header.answers_read hle hpos hrest
    · exact h.isLine r.first (List.mem_cons_self ..)
  · split
    · unfold readDecorator
      split
      · exact isLine_lineAt hrest.isLine ⟨hpos, Nat.le_refl r.stop⟩ _
      · exact hle
    · exact Header.answers_read hle hpos hrest
    · exact answers_readMatch h hpos
    · exact answers_readAsync h hpos
    · next k _ =>
      have hk := Header.answers_ofKeyword? (k := k) hle hpos hrest
      cases ho : Header.ofKeyword? k r.rest r.stop with
      | none => exact answers_readSimple h hpos
      | some e => exact hk e ho
    · exact answers_readSimple h hpos

end Row

/-! ### Suites -/

namespace Suite

/-- Whether the statements of a suite and of its blocks are between the lines `lo` and `hi`, in
order, and each definition begins below everything before it. -/
inductive Within : Nat → Nat → Suite → Prop where
  /-- There are no statements. -/
  | nil {lo hi : Nat} : lo ≤ hi → Within lo hi .nil
  /-- A simple statement may begin where the one before it does. -/
  | simple {lo hi : Nat} {s : Simple} {next : Suite} : 0 < s.line → lo ≤ s.line →
      Within s.line hi next → Within lo hi (.simple s next)
  /-- A definition is below what comes before it, and its body between it and what comes after. -/
  | define {lo mid hi line : Nat} {kind : Kind} {name : Text} {body next : Suite} : lo < line →
      Within line mid body → Within mid hi next → Within lo hi (.define line kind name body next)
  /-- A block is between what comes before and after it. -/
  | block {lo mid hi : Nat} {body next : Suite} : Within lo mid body → Within mid hi next →
      Within lo hi (.block body next)

namespace Within

variable {m next : Suite}

theorem le (h : Within lo hi m) : lo ≤ hi := by
  induction h with
  | nil h => exact h
  | simple _ hs _ ih => exact Nat.le_trans hs ih
  | define hl _ _ ihb ihn => exact Nat.le_trans (Nat.le_of_lt hl) (Nat.le_trans ihb ihn)
  | block _ _ ihb ihn => exact Nat.le_trans ihb ihn

theorem mono {lo' : Nat} (h : Within lo hi m) (hlo : lo' ≤ lo) : Within lo' hi m := by
  induction h with
  | nil h => exact .nil (Nat.le_trans hlo h)
  | simple hp hs hn _ => exact .simple hp (Nat.le_trans hlo hs) hn
  | define hl hb hn _ _ => exact .define (Nat.lt_of_le_of_lt hlo hl) hb hn
  | block _ hn ihb _ => exact .block (ihb hlo) hn

theorem prepend {ss : List Simple} (hs : Simple.InOrder lo mid ss) (hn : Within mid hi next) :
    Within lo hi (Suite.prepend next ss) := by
  induction ss generalizing lo with
  | nil => exact hn.mono hs
  | cons s ss ih => exact .simple hs.1 hs.2.1 (ih hs.2.2)

end Within

/-- A logical line begins on a line. -/
theorem isLine_line {r : Row} (hr : lo < r.line) (h : Lexeme.InOrder r.line r.stop r.lexemes)
    (hle : r.stop ≤ last) : IsLine last r.line :=
  ⟨Nat.lt_of_le_of_lt (Nat.zero_le lo) hr, Nat.le_trans (Row.line_le_stop h) hle⟩

theorem isLine_lineOr {l : Layout} {stop : Nat} (h : Row.InOrder lo hi l.rows) (hhi : hi ≤ last)
    (hstop : IsLine last stop) : IsLine last (l.lineOr stop) := by
  cases l with
  | nil => exact hstop
  | row r inner next =>
    cases h with
    | cons hr hrow hrows => exact isLine_line hr hrow (Nat.le_trans hrows.le hhi)

/-- Blocks of logical lines in order are read as a suite in order. Where reading stops, it does so
on one of the lines of the program. -/
theorem answers_ofLayout {l : Layout} {stop : Nat} (h : Row.InOrder lo hi l.rows) (hhi : hi ≤ last)
    (hstop : IsLine last stop) (inMatch : Bool) (p : Pending) :
    Answers last (Within lo hi) (ofLayout inMatch stop p l) := by
  induction l generalizing lo hi stop inMatch p with
  | nil =>
    unfold ofLayout
    split
    · exact hstop
    · exact .nil h.le
  | row r inner next ihi ihn =>
    cases h with
    | cons hr hrow hrows =>
      obtain ⟨mid, hinner, hnextRows⟩ := hrows.append
      have hmid : mid ≤ last := Nat.le_trans hnextRows.le hhi
      have hrstop : r.stop ≤ last := Nat.le_trans hinner.le hmid
      have hline : IsLine last r.line := isLine_line hr hrow hrstop
      have hrs := Row.line_le_stop hrow
      have hlo : lo ≤ mid := Nat.le_trans (Nat.le_of_lt hr) (Nat.le_trans hrs hinner.le)
      have hform := (Row.answers_form hrow (Nat.lt_of_lt_of_le hline.1 hrs) inMatch).mono hrstop
      unfold ofLayout
      cases hf : r.form inMatch with
      | error n =>
        rw [hf] at hform
        dsimp only
        split
        · exact hform
        · exact hline
      | ok f =>
        rw [hf] at hform
        dsimp only
        cases p.accept f with
        | none => exact hline
        | some p' =>
          have hnext := ihn hnextRows hhi hstop inMatch p'
          cases f with
          | decorator => exact hnext.imp fun _ hm => hm.mono hlo
          | simple ss =>
            refine hnext.map fun m hm => ?_
            exact (Within.prepend hform (hm.mono hinner.le)).mono (Nat.le_of_lt hr)
          | header h inline =>
            have hbody :=
              ihi hinner hmid (isLine_lineOr hnextRows hhi hstop) (h == .matchH) .none
            dsimp only
            cases hb : ofLayout (h == .matchH) (next.lineOr stop) .none inner with
            | error n =>
              rw [hb] at hbody
              exact hbody
            | ok body =>
              rw [hb] at hbody
              have hbody : Within r.line mid (Suite.prepend body inline) := .prepend hform hbody
              cases hn : ofLayout inMatch stop p' next with
              | error n =>
                rw [hn] at hnext
                exact hnext
              | ok rest =>
                rw [hn] at hnext
                dsimp only
                split
                · exact .define hr hbody hnext
                · exact .define hr hbody hnext
                · exact .block (hbody.mono (Nat.le_of_lt hr)) hnext

/-- The statements of a program are in order down to its last line, and where a text is no program,
reading stops on one of its lines. -/
theorem answers_parse (s : Text) : Answers (feeds s + 1) (Within 0 (feeds s + 1)) (parse s) := by
  refine answers_ofLayout ?_ (Nat.le_refl _) (Scanned.last_bounds s) false .none
  rw [Layout.rows_ofRows]
  exact Scanned.inOrder_rows s

theorem within_of_parse {s : Text} {m : Suite} (h : parse s = .ok m) :
    Within 0 (feeds s + 1) m := by
  have hs := answers_parse s
  rwa [h] at hs

theorem isLine_of_parse {s : Text} {n : Nat} (h : parse s = .error n) :
    IsLine (feeds s + 1) n := by
  have hs := answers_parse s
  rwa [h] at hs

end Suite

end CodeAtlas.Python
