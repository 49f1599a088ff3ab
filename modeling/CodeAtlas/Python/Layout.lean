import CodeAtlas.Python.Token

/-!
# Blocks from indentation

A logical line that ends with a colon opens a block if the next line is indented deeper than
the block it stands in; the block reaches to the first line indented less than its own first
line. Everywhere else a deeper line is just another line of the block. A line that closes
blocks need not match the indentation of any of them.
-/

namespace CodeAtlas.Python

/-- Logical lines in blocks: a line, the block it opens, and the lines after that block. -/
inductive Layout where
  /-- No lines. -/
  | nil
  /-- A line with its block and the lines after it. -/
  | row (r : Row) (inner next : Layout)
  deriving Repr

namespace Layout

/-- The blocks of the logical lines of a block whose first line has the given indentation. -/
def ofRows (width : Nat) : List Row → Layout
  | [] => .nil
  | r :: rs =>
    match rs.head? with
    | none => .row r .nil .nil
    | some s =>
      if r.opens ∧ width < s.indent then
        .row r (ofRows s.indent (rs.takeWhile (s.indent ≤ ·.indent)))
          (ofRows width (rs.dropWhile (s.indent ≤ ·.indent)))
      else .row r .nil (ofRows width rs)
termination_by rs => rs.length
decreasing_by
  · exact Nat.lt_succ_of_le (List.takeWhile_sublist _).length_le
  · exact Nat.lt_succ_of_le (List.dropWhile_sublist _).length_le
  · exact Nat.lt_succ_self _

/-- The lines of a layout in order. -/
def rows : Layout → List Row
  | .nil => []
  | .row r inner next => r :: (rows inner ++ rows next)

/-- The line of the first row, or the given one if there is none. -/
def lineOr (stop : Nat) : Layout → Nat
  | .nil => stop
  | .row r _ _ => r.line

/-- Forming blocks keeps the logical lines and their order. -/
theorem rows_ofRows (width : Nat) (rs : List Row) : (ofRows width rs).rows = rs := by
  fun_induction ofRows width rs with
  | case1 => rfl
  | case2 => simp_all [rows]
  | case3 _ r rs s _ _ ih₁ ih₂ => simp [rows, ih₁, ih₂, List.takeWhile_append_dropWhile]
  | case4 _ r rs s _ _ ih => simp [rows, ih]

end Layout

end CodeAtlas.Python
