import CodeAtlas.Text.Basic

/-!
# Line ends

A line may end with a line feed, a carriage return, or both in that order. `normalizeNewlines`
writes every line end as one line feed, in two passes; `unifyLineEnds` says the same in one
scan from left to right.
-/

namespace CodeAtlas.Text

/-- Every carriage return that a line feed follows is dropped. -/
def joinPairs : Text → Text
  | [] => []
  | '\r' :: '\n' :: s => '\n' :: joinPairs s
  | c :: s => c :: joinPairs s

/-- Every carriage return becomes a line feed. -/
def feedReturns (s : Text) : Text := s.map fun c => if c = '\r' then '\n' else c

/-- The text with every line end written as one line feed. -/
def normalizeNewlines (s : Text) : Text := feedReturns (joinPairs s)

/-- One scan that turns a pair, a lone carriage return and a line feed each into one line
feed. -/
def unifyLineEnds : Text → Text
  | [] => []
  | '\r' :: '\n' :: s => '\n' :: unifyLineEnds s
  | c :: s => (if c = '\r' then '\n' else c) :: unifyLineEnds s

/-- The two passes and the one scan agree. -/
theorem normalizeNewlines_eq (s : Text) : normalizeNewlines s = unifyLineEnds s := by
  unfold normalizeNewlines
  fun_induction joinPairs s with
  | case1 => rfl
  | case2 s ih => simp [feedReturns, unifyLineEnds] at ih ⊢; exact ih
  | case3 c s h ih => simp [feedReturns, unifyLineEnds] at ih ⊢; exact ih

end CodeAtlas.Text
