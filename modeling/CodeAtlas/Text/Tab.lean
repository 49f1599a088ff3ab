import CodeAtlas.Text.Basic

/-!
# Tab stops

A tab moves to the next column that is a multiple of the tab size. Columns count characters
since the last line feed.
-/

namespace CodeAtlas.Text

/-- The text with each tab replaced by the spaces up to the next stop, where `column`
characters of the current line come before it. -/
def expandFrom (size : Nat) : Nat → Text → Text
  | _, [] => []
  | column, c :: s =>
    if c = '\t' then
      List.replicate (size - column % size) ' ' ++
        expandFrom size (column + (size - column % size)) s
    else if c = '\n' then c :: expandFrom size 0 s
    else c :: expandFrom size (column + 1) s

/-- Why tabs cannot be expanded. -/
inductive TabError where
  /-- There are no tab stops at multiples of zero. -/
  | noStops
  deriving DecidableEq, Repr

/-- The text of a tab error. -/
def TabError.message : TabError → Text
  | .noStops => "attempt to calculate the remainder with a divisor of zero".toList

/-- The text with its tabs expanded. Without tabs the size does not matter; with one, a size
of zero has no stops. -/
def expandTabs (s : Text) (size : Nat) : Except TabError Text :=
  if s.has '\t' then
    if size = 0 then .error .noStops else .ok (expandFrom size 0 s)
  else .ok s

end CodeAtlas.Text
