import CodeAtlas.Python.Lexer
import Mathlib.Tactic.SplitIfs

/-!
# The lines of tokens

A scan counts lines upwards. So the tokens of a logical line are on lines that do not decrease, and
a logical line begins on a later line than the one before it ends on (`inOrder_scan`). A place where
nothing can be read is the one exception: it may be blamed on an earlier line, that of the format
string around it, and it is the last token of all.
-/

namespace CodeAtlas.Python

/-! ### Line ends -/

namespace Front

variable {stack : List Nest} {c : Char} {s : Text}

theorem readFormat_ne_newline (quote : Char) (triple raw : Bool) :
    readFormat quote triple raw c s ≠ .newline := by
  unfold readFormat
  split
  · nofun
  · split_ifs <;> nofun

theorem readSpec_ne_newline (quote : Char) (triple : Bool) :
    readSpec quote triple c s ≠ .newline := by
  unfold readSpec
  split
  · nofun
  · split_ifs <;> nofun

theorem readString_ne_newline (letters : Text) (quote : Char) :
    readString s letters quote ≠ .newline := by
  unfold readString
  grind

theorem readWord_ne_newline : readWord stack c s ≠ .newline := by
  unfold readWord
  grind

theorem readMark_ne_newline : readMark stack c s ≠ .newline := by
  unfold readMark
  grind

/-- Only a line feed is a line end. -/
theorem eq_of_read_eq_newline (h : read stack c s = .newline) : c = '\n' := by
  unfold read at h
  split at h
  · exact absurd h (readFormat_ne_newline _ _ _)
  · exact absurd h (readSpec_ne_newline _ _)
  · by_cases hc : c = '\n'
    · exact hc
    · unfold readCode at h
      rw [if_neg hc] at h
      grind [readString_ne_newline, readWord_ne_newline, readMark_ne_newline]

end Front

/-! ### Tokens in order -/

/-- Whether tokens are on lines from `lo` to `hi` that do not decrease. A place where nothing can be
read may have an earlier line. -/
structure Lexeme.InOrder (lo hi : Nat) (ls : List Lexeme) : Prop where
  /-- The first line is 1. -/
  pos : ∀ l ∈ ls, 0 < l.line
  /-- No token is below the last line. -/
  le : ∀ l ∈ ls, l.line ≤ hi
  /-- No token is above the first line. -/
  ge : ∀ l ∈ ls, l.tok = .invalid ∨ lo ≤ l.line
  /-- No token is above one before it. -/
  pairwise : ls.Pairwise fun l m => m.tok = .invalid ∨ l.line ≤ m.line

namespace Lexeme.InOrder

variable {lo hi : Nat} {l : Lexeme} {ls : List Lexeme}

theorem nil (lo hi : Nat) : InOrder lo hi [] := ⟨nofun, nofun, nofun, List.Pairwise.nil⟩

theorem mono {lo' : Nat} (h : InOrder lo hi ls) (hlo : lo' ≤ lo) : InOrder lo' hi ls :=
  ⟨h.pos, h.le, fun l hl => (h.ge l hl).imp_right (Nat.le_trans hlo), h.pairwise⟩

theorem cons (hpos : 0 < l.line) (hlo : lo ≤ l.line) (hhi : l.line ≤ hi)
    (h : InOrder l.line hi ls) : InOrder lo hi (l :: ls) where
  pos := List.forall_mem_cons.mpr ⟨hpos, h.pos⟩
  le := List.forall_mem_cons.mpr ⟨hhi, h.le⟩
  ge := List.forall_mem_cons.mpr ⟨.inr hlo, (h.mono hlo).ge⟩
  pairwise := List.pairwise_cons.mpr ⟨h.ge, h.pairwise⟩

/-- A place where nothing can be read. -/
theorem invalid (ht : l.tok = .invalid) (hpos : 0 < l.line) (hhi : l.line ≤ hi) :
    InOrder lo hi [l] where
  pos := List.forall_mem_singleton.mpr hpos
  le := List.forall_mem_singleton.mpr hhi
  ge := List.forall_mem_singleton.mpr (.inl ht)
  pairwise := List.pairwise_singleton ..

theorem sublist {ks : List Lexeme} (h : InOrder lo hi ls) (hs : ks.Sublist ls) :
    InOrder lo hi ks :=
  ⟨fun l hl => h.pos l (hs.subset hl), fun l hl => h.le l (hs.subset hl),
    fun l hl => h.ge l (hs.subset hl), h.pairwise.sublist hs⟩

/-- What comes after a token is not above it. -/
theorem tail (h : InOrder lo hi (l :: ls)) : InOrder l.line hi ls :=
  ⟨fun m hm => h.pos m (List.mem_cons_of_mem l hm), fun m hm => h.le m (List.mem_cons_of_mem l hm),
    (List.pairwise_cons.mp h.pairwise).1, (List.pairwise_cons.mp h.pairwise).2⟩

end Lexeme.InOrder

/-! ### Logical lines in order -/

/-- Whether logical lines begin after the line `lo` and end up to the line `hi`, each begins after
the one before it has ended, and the tokens of each are in order. -/
inductive Row.InOrder : Nat → Nat → List Row → Prop where
  /-- There are no more lines. -/
  | nil {lo hi : Nat} : lo ≤ hi → InOrder lo hi []
  /-- A line and the lines after it. -/
  | cons {lo hi : Nat} {r : Row} {rs : List Row} : lo < r.line →
      Lexeme.InOrder r.line r.stop r.lexemes → InOrder r.stop hi rs → InOrder lo hi (r :: rs)

namespace Row

variable {lo hi : Nat} {r : Row} {rs ss : List Row}

theorem line_le_stop (h : Lexeme.InOrder r.line r.stop r.lexemes) : r.line ≤ r.stop :=
  h.le r.first (List.mem_cons_self ..)

theorem InOrder.le (h : InOrder lo hi rs) : lo ≤ hi := by
  induction h with
  | nil h => exact h
  | cons hlo hr _ ih => exact Nat.le_trans (Nat.le_of_lt hlo) (Nat.le_trans (line_le_stop hr) ih)

theorem InOrder.mono {lo' : Nat} (h : InOrder lo hi rs) (hlo : lo' ≤ lo) : InOrder lo' hi rs := by
  cases h with
  | nil h => exact .nil (Nat.le_trans hlo h)
  | cons hr hs hrs => exact .cons (Nat.lt_of_le_of_lt hlo hr) hs hrs

/-- Lines in order are cut by some line into two parts. -/
theorem InOrder.append (h : InOrder lo hi (rs ++ ss)) :
    ∃ mid, InOrder lo mid rs ∧ InOrder mid hi ss := by
  induction rs generalizing lo with
  | nil => exact ⟨lo, .nil (Nat.le_refl _), h⟩
  | cons r rs ih =>
    cases h with
    | cons hr hs hrs =>
      obtain ⟨mid, h₁, h₂⟩ := ih hrs
      exact ⟨mid, .cons hr hs h₁, h₂⟩

end Row

/-! ### What is open -/

/-- The line on which something that is open began, if that is kept. -/
def Nest.line? : Nest → Option Nat
  | .bracket _ line => some line
  | .format _ _ _ line => some line
  | .field _ => none
  | .spec _ _ => none

/-- Whether what is open began on a line up to the given one. -/
def Nest.Before (line : Nat) (stack : List Nest) : Prop :=
  ∀ n ∈ stack, ∀ l ∈ n.line?, 0 < l ∧ l ≤ line

theorem Nest.Before.mono {line line' : Nat} {stack : List Nest} (h : Before line stack)
    (hl : line ≤ line') : Before line' stack :=
  fun n hn l hln => ⟨(h n hn l hln).1, Nat.le_trans (h n hn l hln).2 hl⟩

/-- What a token opens begins on its line. -/
theorem Change.before_apply {line : Nat} {stack : List Nest} (h : Nest.Before line stack)
    (hline : 0 < line) (change : Change) : Nest.Before line (change.apply line stack) := by
  have hdrop : Nest.Before line (stack.drop 1) := fun n hn => h n (List.mem_of_mem_drop hn)
  have hcons (n : Nest) (rest : List Nest) (hn : ∀ l ∈ n.line?, l = line)
      (hr : Nest.Before line rest) : Nest.Before line (n :: rest) := by
    refine List.forall_mem_cons.mpr ⟨fun l hl => ?_, hr⟩
    rw [hn l hl]
    exact ⟨hline, Nat.le_refl _⟩
  cases change with
  | keep => exact h
  | openBracket c => exact hcons _ _ (fun l hl => (Option.some.inj hl).symm) h
  | openFormat q t r => exact hcons _ _ (fun l hl => (Option.some.inj hl).symm) h
  | openField => exact hcons _ _ nofun h
  | openSpec q t => exact hcons _ _ nofun hdrop
  | close => exact hdrop
  | await =>
    cases stack with
    | nil => exact h
    | cons n rest =>
      cases n with
      | field k => exact hcons _ _ nofun hdrop
      | bracket | format | spec => exact h
  | meet =>
    cases stack with
    | nil => exact h
    | cons n rest =>
      cases n with
      | field k => exact hcons _ _ nofun hdrop
      | bracket | format | spec => exact h

theorem blame_le {line : Nat} {stack : List Nest} (h : Nest.Before line stack) (hline : 0 < line) :
    0 < blame line stack ∧ blame line stack ≤ line := by
  unfold blame
  split
  · exact h _ (List.mem_cons_self ..) _ rfl
  · exact ⟨hline, Nat.le_refl _⟩

/-! ### The scan -/

theorem feeds_newline (s : Text) : feeds ('\n' :: s) = feeds s + 1 := by
  simp [feeds]

theorem feeds_take_add_drop (c : Char) (n : Nat) (s : Text) :
    feeds (c :: s.take n) + feeds (s.drop n) = feeds (c :: s) := by
  rw [feeds, feeds, ← List.count_append, List.cons_append, List.take_append_drop]
  rfl

/-- Whether a reading from a place on a line is in order up to the line `hi`. Inside a logical line,
its other tokens come first. -/
structure Reading.InOrder (place : Place) (line hi : Nat) (r : Reading) : Prop where
  /-- Inside a logical line. -/
  inside : place = .inside →
    line ≤ r.stop ∧ Lexeme.InOrder line r.stop r.here ∧ Row.InOrder r.stop hi r.rows
  /-- Before a logical line. -/
  before : place ≠ .inside → Row.InOrder (line - 1) hi r.rows

namespace Reading.InOrder

variable {place place' : Place} {line line' hi : Nat} {r : Reading}

theorem mono (h : r.InOrder place' line' hi) (hp : place = .inside ↔ place' = .inside)
    (hl : line ≤ line') : r.InOrder place line hi where
  inside hi := by
    obtain ⟨hs, hh, hr⟩ := h.inside (hp.mp hi)
    exact ⟨Nat.le_trans hl hs, hh.mono hl, hr⟩
  before ho := (h.before fun hi => ho (hp.mpr hi)).mono (Nat.sub_le_sub_right hl 1)

/-- The end of a logical line. -/
theorem newline (h : r.InOrder (.margin 0) (line + 1) hi) :
    (r.newline line).InOrder place line hi where
  inside _ := ⟨Nat.le_refl _, Lexeme.InOrder.nil .., h.before nofun⟩
  before _ := (h.before nofun).mono (Nat.sub_le ..)

/-- A token in front of what comes after it. -/
theorem cons {l : Lexeme} (h : r.InOrder .inside line' hi) (hline : 0 < line) (hl : line ≤ line')
    (hll : l.line = line) : (r.cons place l).InOrder place line hi := by
  obtain ⟨hs, hh, hr⟩ := h.inside rfl
  have hstop : line ≤ r.stop := Nat.le_trans hl hs
  have hls : Lexeme.InOrder line r.stop (l :: r.here) :=
    .cons (hll ▸ hline) (Nat.le_of_eq hll.symm) (hll ▸ hstop) (hll ▸ hh.mono hl)
  have hrow (w : Nat) : Row.InOrder (line - 1) hi (⟨w, l, r.here, r.stop⟩ :: r.rows) := by
    refine .cons ?_ ?_ hr
    · change line - 1 < l.line
      omega
    · change Lexeme.InOrder l.line r.stop (l :: r.here)
      exact hll ▸ hls
  cases place with
  | inside => exact ⟨fun _ => ⟨hstop, hls, hr⟩, fun ho => absurd rfl ho⟩
  | margin w => exact ⟨nofun, fun _ => hrow w⟩
  | settled w => exact ⟨nofun, fun _ => hrow w⟩

end Reading.InOrder

theorem Place.skip_eq_inside_iff (c : Char) (p : Place) : p.skip c = .inside ↔ p = .inside := by
  cases p with
  | margin w =>
    unfold skip
    split_ifs <;> simp
  | settled | inside => rfl

/-- The end of a text. -/
theorem Reading.inOrder_end (place : Place) (line n : Nat) (nests : List Nest) :
    Reading.InOrder place line (line + n) ⟨[], line, [], nests⟩ where
  inside _ := ⟨Nat.le_refl _, Lexeme.InOrder.nil .., .nil (Nat.le_add_right ..)⟩
  before _ := .nil (Nat.le_trans (Nat.sub_le ..) (Nat.le_add_right ..))

/-- What is read from a place on is in order, up to the last line of the text. Outside of a logical
line nothing is open. -/
theorem inOrder_scan (line : Nat) (place : Place) (stack : List Nest) (gap : List Text) (s : Text)
    (hline : 0 < line) (hstack : Nest.Before line stack) (hplace : place = .inside ∨ stack = []) :
    (scan line place stack gap s).InOrder place line (line + feeds s) := by
  fun_induction scan line place stack gap s with
  | case1 line place stack gap => exact Reading.inOrder_end place line _ stack
  | case2 line place stack gap c s hread hempty ih =>
    obtain rfl := Front.eq_of_read_eq_newline hread
    have hf : line + feeds ('\n' :: s) = line + 1 + feeds s := by rw [feeds_newline]; omega
    rw [hf]
    exact (ih (Nat.succ_pos line) nofun (.inr rfl)).newline
  | case3 line place stack gap c s hread hempty ih =>
    obtain rfl := Front.eq_of_read_eq_newline hread
    have hf : line + feeds ('\n' :: s) = line + 1 + feeds s := by rw [feeds_newline]; omega
    have h := ih (Nat.succ_pos line) (hstack.mono (Nat.le_succ line)) hplace
    rw [hf]
    exact h.mono Iff.rfl (Nat.le_succ line)
  | case4 line place stack gap c s more note hread ih =>
    have hle : line ≤ line + feeds (c :: s.take more) := Nat.le_add_right ..
    have h := ih (Nat.lt_of_lt_of_le hline hle) (hstack.mono hle)
      (hplace.imp_left (Place.skip_eq_inside_iff c place).mpr)
    rw [Nat.add_assoc, feeds_take_add_drop] at h
    exact h.mono (Place.skip_eq_inside_iff c place).symm hle
  | case5 line place stack gap c s t more change hread ih =>
    have hle : line ≤ line + feeds (c :: s.take more) := Nat.le_add_right ..
    have h := ih (Nat.lt_of_lt_of_le hline hle)
      ((Change.before_apply hstack hline change).mono hle) (.inl rfl)
    rw [Nat.add_assoc, feeds_take_add_drop] at h
    exact h.cons hline hle rfl
  | case6 line place stack gap c s hread =>
    rcases hplace with rfl | rfl
    · obtain ⟨hpos, hle⟩ := blame_le hstack hline
      refine ⟨fun _ => ⟨Nat.le_refl _, ?_, .nil (Nat.le_add_right ..)⟩, fun h => absurd rfl h⟩
      exact Lexeme.InOrder.invalid rfl hpos hle
    · exact (Reading.inOrder_end .inside line _ []).cons hline (Nat.le_refl _) rfl

theorem feeds_dropMark (s : Text) : feeds (dropMark s) = feeds s := by
  unfold dropMark
  split
  · next s => simp [feeds]
  · rfl

/-- The logical lines of a program are in order, up to the line after its last line feed. -/
theorem Scanned.inOrder_rows (s : Text) : Row.InOrder 0 (feeds s + 1) (Scanned.ofText s).rows := by
  have h := inOrder_scan 1 (.margin 0) [] [] (dropMark s) Nat.one_pos nofun (.inr rfl)
  rw [feeds_dropMark, Nat.add_comm] at h
  exact h.before nofun

theorem Scanned.last_bounds (s : Text) :
    0 < (Scanned.ofText s).last ∧ (Scanned.ofText s).last ≤ feeds s + 1 := by
  change 0 < lastLine s ∧ lastLine s ≤ feeds s + 1
  unfold lastLine
  split
  · next h =>
    have hmem : '\n' ∈ s := List.mem_of_getLast? h
    exact ⟨List.count_pos_iff.mpr hmem, Nat.le_succ _⟩
  · exact ⟨Nat.succ_pos _, Nat.le_refl _⟩

end CodeAtlas.Python
